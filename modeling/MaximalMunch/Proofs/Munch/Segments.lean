import MaximalMunch.Proofs.Scan.Locality

/-!
Trimming is plain scanning in segments. A text is scanned without trimming from its first character
that is not blank; where this stops before blanks that no type matches, it begins anew behind them.
Blanks around the text make no difference.
-/

namespace MaximalMunch

/-- What is scanned first, and what is scanned from where that stops. -/
def Scan.Completion.followedBy (w v : Completion) : Completion := ⟨w.tokens ++ v.tokens, v.stop⟩

namespace Grammar

theorem munchStep_plain (types : List TokenType) (s : Text) :
    munchStep ⟨types, false⟩ s =
      match front? ⟨types, true⟩ s with
      | some found => .ok found
      | none => .error s :=
  rfl

theorem munchStep_trimming_of_ok {types : List TokenType} {s : Text} {found : Token × Text}
    (h : munchStep ⟨types, false⟩ s = .ok found) : munchStep ⟨types, true⟩ s = .ok found := by
  rw [munchStep_plain] at h
  cases first : front? ⟨types, true⟩ s with
  | none =>
      rw [first] at h
      cases h
  | some found =>
      rw [first] at h
      cases h
      simp only [munchStep, first]

theorem front?_of_error {types : List TokenType} {s rest : Text}
    (h : munchStep ⟨types, false⟩ s = .error rest) :
    rest = s ∧ front? ⟨types, true⟩ s = none := by
  rw [munchStep_plain] at h
  split at h
  · contradiction
  · next none_matches =>
      cases h
      exact ⟨rfl, none_matches⟩

theorem rdropWhile_of_munchStep {g : Grammar} {s rest : Text} {token : Token}
    (trimmed : s.rdropWhile Text.isBlank = s) (h : g.munchStep s = .ok (token, rest)) :
    rest.rdropWhile Text.isBlank = rest := by
  obtain ⟨window, offered, found⟩ := front?_of_munchStep h
  have bare : window.rdropWhile Text.isBlank = window := by
    rcases offered with rfl | rfl
    · exact trimmed
    · rw [← Text.dropWhile_rdropWhile, trimmed]
  rw [front?_eq] at found
  obtain ⟨l, _, cut⟩ := Option.map_eq_some_iff.mp found
  cases cut
  exact Text.rdropWhile_drop bare l.length

/-- Where no type matches, trimming goes on behind the blanks, if there are any. -/
theorem munchRun_trimming_of_stuck {types : List TokenType} {s : Text} (left : s ≠ [])
    (trimmed : s.rdropWhile Text.isBlank = s) (none_matches : front? ⟨types, true⟩ s = none) :
    munchRun ⟨types, true⟩ s =
      if Text.startsBlank s then munchRun ⟨types, true⟩ (s.dropWhile Text.isBlank)
      else ⟨[], .error (.unmatched s)⟩ := by
  split
  · have step := Frame.munchStep_dropWhile rfl none_matches
    exact munchRun_congr left (Text.dropWhile_ne_nil trimmed left) step.symm fun _ _ _ => rfl
  · next inked =>
      refine munchRun_of_error left ?_
      simp [munchStep, none_matches, inked]

/-- The run that trims is the plain run, and more where that stops before a blank. -/
theorem munchRun_trimming (types : List TokenType) {s : Text}
    (trimmed : s.rdropWhile Text.isBlank = s) :
    ((munchRun ⟨types, false⟩ s).stop = .ok () ∧
        munchRun ⟨types, true⟩ s = munchRun ⟨types, false⟩ s) ∨
      ∃ r, (munchRun ⟨types, false⟩ s).stop = .error (.unmatched r) ∧
        r.rdropWhile Text.isBlank = r ∧
        munchRun ⟨types, true⟩ s =
          if Text.startsBlank r then
            (munchRun ⟨types, false⟩ s).followedBy
              (munchRun ⟨types, true⟩ (r.dropWhile Text.isBlank))
          else munchRun ⟨types, false⟩ s := by
  -- By the steps of the plain run: each is a step of the run that trims, and leaves no blank behind.
  fun_induction munchRun ⟨types, false⟩ s with
  | case1 => exact .inl ⟨rfl, munchRun_nil _⟩
  | case2 s left rest h =>
      obtain ⟨rfl, none_matches⟩ := front?_of_error h
      exact .inr ⟨rest, rfl, trimmed, munchRun_trimming_of_stuck left trimmed none_matches⟩
  | case3 s left token rest h _ ih =>
      have step := munchRun_of_ok left (munchStep_trimming_of_ok h)
      rcases ih (rdropWhile_of_munchStep trimmed h) with ⟨ended, same⟩ | ⟨r, stuck, inked, more⟩
      · refine .inl ⟨ended, ?_⟩
        rw [step, same]
      · refine .inr ⟨r, stuck, inked, ?_⟩
        rw [step, more]
        split <;> rfl

/-- Blanks around a text make no difference to a scan that trims. It gives what the plain scan of
the bare text gives, and where that stops before a blank it goes on as a new scan from there. -/
theorem completion_trimming (types : List TokenType) (text : Text) :
    (∀ u v, Text.AllBlank u → Text.AllBlank v →
      completion ⟨types, true⟩ (u ++ text ++ v) = completion ⟨types, true⟩ text) ∧
    let plain := completion ⟨types, false⟩ (Text.trimBoth Text.isBlank text)
    let trimming := completion ⟨types, true⟩ text
    (plain.stop = .ok () ∧ trimming = plain) ∨
      ∃ r, plain.stop = .error (.unmatched r) ∧
        trimming =
          if Text.startsBlank r then plain.followedBy (completion ⟨types, true⟩ r) else plain := by
  constructor
  · intro u v blankBefore blankBehind
    rw [completion_eq, completion_eq, if_pos rfl, if_pos rfl,
      Text.trimBoth_append blankBefore blankBehind]
  · simp only [completion_eq, Bool.false_eq_true, if_false, if_true]
    rcases munchRun_trimming types (Text.rdropWhile_trimBoth Text.isBlank text) with
      ended | ⟨r, stuck, trimmed, more⟩
    · exact .inl ended
    · refine .inr ⟨r, stuck, ?_⟩
      rw [Text.trimBoth_of_rdropWhile trimmed]
      exact more

/-- No type of a sum matches a blank, so the plain scan stops before the sign. -/
theorem completion_trimming_sum :
    Text.AllBlank " ".toList ∧ Text.AllBlank "\n".toList ∧
      completion (sums true) (" ".toList ++ "12 + 3".toList ++ "\n".toList) =
        completion (sums true) "12 + 3".toList ∧
      completion (sums true) "12 + 3".toList =
        (completion (sums false) "12 + 3".toList).followedBy
          (completion (sums true) " + 3".toList) := by
  have blank : Text.AllBlank " ".toList := List.all_eq_true.mp (by decide)
  have lineEnd : Text.AllBlank "\n".toList := List.all_eq_true.mp (by decide)
  have bare : Text.trimBoth Text.isBlank "12 + 3".toList = "12 + 3".toList := by decide
  have stops : (completion (sums false) "12 + 3".toList).stop =
      .error (.unmatched " + 3".toList) := by decide +kernel
  obtain ⟨around, segments⟩ := completion_trimming (sums true).types "12 + 3".toList
  refine ⟨blank, lineEnd, around _ _ blank lineEnd, ?_⟩
  rw [bare] at segments
  rcases segments with ⟨ended, _⟩ | ⟨r, stuck, more⟩
  · cases stops.symm.trans ended
  · cases stops.symm.trans stuck
    exact more

end Grammar
end MaximalMunch
