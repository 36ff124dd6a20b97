import MaximalMunch.Proofs.Munch

/-!
A scan depends on its window alone. Two scans whose windows show the same text give the same outcomes
for ever, whatever lies around the windows, as long as the number of tokens cut off before makes no
difference: it decides only whether blanks at the front are dropped before anything is matched. So a
scan can be resumed as a new one on what is left.
-/

namespace MaximalMunch

/-- The outcomes of so many scans, each with the text that is left after it. -/
def Scan.outcomes (s : Scan) : Nat → List (Except ScanError (Option Token) × Text)
  | 0 => []
  | n + 1 => (s.next.1, s.next.2.remaining) :: s.next.2.outcomes n

/-- The scan after so many tokens, if there are that many. -/
def Scan.afterTokens? (s : Scan) : Nat → Option Scan
  | 0 => some s
  | n + 1 =>
    match s.next with
    | (.ok (some _), after) => after.afterTokens? n
    | _ => none

/-- On this text it makes no difference whether tokens have been cut off before. -/
def Grammar.Forgets (g : Grammar) (rest : Text) : Prop :=
  g.trimming = false ∨ Text.startsBlank rest = false ∨
    ∀ t ∈ g.types, t.matchLength? (rest.rdropWhile Text.isBlank) = none

namespace Frame

/-- Where the front does not match, its blanks are dropped in any case. -/
theorem munchStep_dropWhile {g : Grammar} {s : Text} (trims : g.trimming = true)
    (h : g.front? s = none) : g.munchStep (s.dropWhile Text.isBlank) = g.munchStep s := by
  have inked := Text.startsBlank_dropWhile s
  rw [Grammar.munchStep, Grammar.munchStep, h, inked]
  cases blank : Text.startsBlank s with
  | true => simp [trims]
  | false =>
      rw [Text.dropWhile_of_startsBlank blank]
      simp [h]

/-- What two prepared windows have in common when they take the same step. -/
def SameStep (g : Grammar) (r q : Text) : Prop :=
  r = q ∨ (r ≠ [] ∧ q ≠ [] ∧ g.munchStep r = g.munchStep q)

theorem next_of_sameStep {g : Grammar} {f h : Frame} (hf : f.grammar = some g)
    (hh : h.grammar = some g) (preparedF : f.Prepared g) (preparedH : h.Prepared g)
    (same : SameStep g f.rest h.rest) :
    f.next.1 = h.next.1 ∧ f.next.2.rest = h.next.2.rest := by
  by_cases left : f.rest = []
  · have none_left : h.rest = [] := by
      rcases same with same | ⟨some_left, _, _⟩
      · rw [← same, left]
      · exact absurd left some_left
    simp [next, hf, hh, prepare_eq_self preparedF, prepare_eq_self preparedH, left, none_left]
  · have left' : h.rest ≠ [] := by
      rcases same with same | ⟨_, some_left, _⟩
      · rwa [← same]
      · exact some_left
    have steps : g.munchStep f.rest = g.munchStep h.rest := by
      rcases same with same | ⟨_, _, same⟩
      · rw [same]
      · exact same
    have stepF := next_eq_munchStep hf preparedF left
    have stepH := next_eq_munchStep hh preparedH left'
    rw [steps] at stepF
    cases k : g.munchStep h.rest with
    | error rest =>
        rw [k] at stepF stepH
        exact ⟨stepF.1.trans stepH.1.symm, stepF.2.trans stepH.2.symm⟩
    | ok found =>
        rw [k] at stepF stepH
        exact ⟨stepF.1.trans stepH.1.symm, stepF.2.trans stepH.2.symm⟩

theorem prepare_rest_of_fresh {g : Grammar} {f : Frame} (trims : g.trimming = true)
    (fresh : f.matched = 0) :
    (f.prepare g).rest = (f.rest.rdropWhile Text.isBlank).dropWhile Text.isBlank := by
  rw [prepare, if_pos trims, trimOutside, if_pos fresh]
  rfl

theorem prepare_rest_of_matched {g : Grammar} {f : Frame} (trims : g.trimming = true)
    (old : 0 < f.matched) : (f.prepare g).rest = f.rest.rdropWhile Text.isBlank := by
  rw [prepare, if_pos trims, trimOutside, if_neg (Nat.ne_of_gt old)]
  rfl

theorem prepare_rest_of_plain {g : Grammar} {f : Frame} (plain : g.trimming = false) :
    (f.prepare g).rest = f.rest := by
  simp [prepare, plain]

/-- One window is new and the other is not: the text makes up for it. -/
theorem sameStep_of_forgets {g : Grammar} {f h : Frame} (trims : g.trimming = true)
    (same : f.rest = h.rest) (fresh : f.matched = 0) (old : 0 < h.matched)
    (forgets : g.Forgets f.rest) :
    SameStep g (f.prepare g).rest (h.prepare g).rest := by
  rw [prepare_rest_of_fresh trims fresh, prepare_rest_of_matched trims old, ← same]
  rcases forgets with plain | inked | unmatched
  · rw [plain] at trims
    contradiction
  · left
    exact Text.dropWhile_of_startsBlank (Text.startsBlank_rdropWhile inked)
  · have none_matches : g.front? (f.rest.rdropWhile Text.isBlank) = none := by
      rw [Grammar.front?_eq, (Scan.longest?_eq_none_iff g.types _).mpr unmatched]
      rfl
    by_cases left : f.rest.rdropWhile Text.isBlank = []
    · left
      simp [left]
    · right
      have some_left := Text.dropWhile_ne_nil (List.rdropWhile_idempotent _ f.rest) left
      exact ⟨some_left, left, munchStep_dropWhile trims none_matches⟩

theorem SameStep.symm {g : Grammar} {r q : Text} (h : SameStep g r q) : SameStep g q r := by
  rcases h with same | ⟨left, left', same⟩
  · exact .inl same.symm
  · exact .inr ⟨left', left, same.symm⟩

/-- What is known of two scans that cannot be told apart: it does not matter how many tokens each
has cut off, or both have cut some, or none. -/
def SameHistory (g : Grammar) (f h : Frame) : Prop :=
  (f.matched = 0 ∧ h.matched = 0) ∨ (0 < f.matched ∧ 0 < h.matched) ∨ g.Forgets f.rest

theorem sameStep_of_sameHistory {g : Grammar} {f h : Frame} (same : f.rest = h.rest)
    (history : SameHistory g f h) : SameStep g (f.prepare g).rest (h.prepare g).rest := by
  cases trims : g.trimming with
  | false =>
      left
      rw [prepare_rest_of_plain trims, prepare_rest_of_plain trims, same]
  | true =>
      -- Windows of two new scans, or of two old ones, are prepared alike.
      rcases Nat.eq_zero_or_pos f.matched with freshF | oldF <;>
        rcases Nat.eq_zero_or_pos h.matched with freshH | oldH
      · left
        rw [prepare_rest_of_fresh trims freshF, prepare_rest_of_fresh trims freshH, same]
      · have forgets : g.Forgets f.rest := by
          rcases history with both | both | forgets
          · omega
          · omega
          · exact forgets
        exact sameStep_of_forgets trims same freshF oldH forgets
      · have forgets : g.Forgets h.rest := by
          rcases history with both | both | forgets
          · omega
          · omega
          · rwa [← same]
        exact (sameStep_of_forgets trims same.symm freshH oldF forgets).symm
      · left
        rw [prepare_rest_of_matched trims oldF, prepare_rest_of_matched trims oldH, same]

theorem next_of_sameHistory {g : Grammar} {f h : Frame} (hf : f.grammar = some g)
    (hh : h.grammar = some g) (same : f.rest = h.rest) (history : SameHistory g f h) :
    f.next.1 = h.next.1 ∧ f.next.2.rest = h.next.2.rest := by
  rw [← next_prepare hf, ← next_prepare hh]
  exact next_of_sameStep ((grammar_prepare g f).trans hf) ((grammar_prepare g h).trans hh)
    (prepared_prepare g f) (prepared_prepare g h) (sameStep_of_sameHistory same history)

/-- After any scan, either a token has been cut off or the history no longer matters. -/
theorem matched_pos_or_forgets {g : Grammar} {f : Frame} (hf : f.grammar = some g) :
    (∃ token, f.next.1 = .ok (some token) ∧ 0 < f.next.2.matched) ∨
      ((∀ token, f.next.1 ≠ .ok (some token)) ∧ g.Forgets f.next.2.rest) := by
  have step := next_outcome hf
  generalize f.next = r at step ⊢
  cases step with
  | ended none_left =>
      right
      refine ⟨by simp, .inr (.inl ?_)⟩
      simp [none_left, Text.startsBlank]
  | token p l offered left chosen => exact .inl ⟨_, rfl, Nat.succ_pos _⟩
  | stuck left first second =>
      right
      refine ⟨by simp, ?_⟩
      cases trims : g.trimming with
      | false => exact .inl trims
      | true =>
          refine .inr (.inl ?_)
          simp only [skip, trims, if_true]
          exact Text.startsBlank_dropWhile _

theorem sameHistory_next {g : Grammar} {f h : Frame} (hf : f.grammar = some g)
    (hh : h.grammar = some g) (same : f.next.1 = h.next.1) :
    SameHistory g f.next.2 h.next.2 := by
  rcases matched_pos_or_forgets hf with ⟨token, gives, oldF⟩ | ⟨_, forgets⟩
  · rcases matched_pos_or_forgets hh with ⟨_, _, oldH⟩ | ⟨nothing, _⟩
    · exact .inr (.inl ⟨oldF, oldH⟩)
    · exact absurd (same.symm.trans gives) (nothing token)
  · exact .inr (.inr forgets)

theorem outcomes_of_sameHistory {g : Grammar} {f h : Frame} (hf : f.grammar = some g)
    (hh : h.grammar = some g) (same : f.rest = h.rest) (history : SameHistory g f h) (n : Nat) :
    f.scan.outcomes n = h.scan.outcomes n := by
  induction n generalizing f h with
  | zero => rfl
  | succ n ih =>
      obtain ⟨gives, leaves⟩ := next_of_sameHistory hf hh same history
      have later := sameHistory_next hf hh gives
      have rest := ih (f.next_kept.2.trans hf) (h.next_kept.2.trans hh) leaves later
      simp only [Scan.outcomes, next_scan, scan_remaining, gives, leaves, rest]

theorem afterTokens?_scan {g : Grammar} {f : Frame} (hf : f.grammar = some g) {n : Nat} {s : Scan}
    (h : f.scan.afterTokens? n = some s) : ∃ after : Frame, after.grammar = some g ∧ after.scan = s := by
  induction n generalizing f with
  | zero => exact ⟨f, hf, Option.some.inj h⟩
  | succ n ih =>
      have keeps := f.next_kept.2.trans hf
      rw [Scan.afterTokens?, next_scan] at h
      generalize f.next = r at h keeps
      obtain ⟨result, after⟩ := r
      cases result with
      | error e => contradiction
      | ok found =>
          cases found with
          | none => contradiction
          | some token => exact ih keeps h

end Frame

/-- Scans of one grammar whose windows show the same text have the same outcomes, if both have cut
off a token, if none has, or if the text makes this indifferent. In the last case what follows is
what a new scan of the text gives. -/
theorem outcomes_eq_of_remaining_eq (g : Grammar) :
    (∀ s t : Scan, s.Inside → t.Inside → s.grammar = some g → t.grammar = some g →
      s.remaining = t.remaining →
      (s.matched = 0 ∧ t.matched = 0) ∨ (0 < s.matched ∧ 0 < t.matched) ∨
        g.Forgets s.remaining →
      ∀ n, s.outcomes n = t.outcomes n) ∧
    ∀ (text : Text) (k : Nat) (s : Scan), (Scan.start (some g) text).afterTokens? k = some s →
      g.Forgets s.remaining →
      ∀ n, s.outcomes n = (Scan.start (some g) s.remaining).outcomes n := by
  constructor
  · intro s t insideS insideT hs ht same history n
    obtain ⟨f, rfl⟩ := Frame.exists_frame insideS
    obtain ⟨h, rfl⟩ := Frame.exists_frame insideT
    simp only [Frame.scan_remaining] at same history
    exact Frame.outcomes_of_sameHistory hs ht same history n
  · intro text k s reached forgets n
    rw [← Frame.scan_start] at reached
    obtain ⟨f, hf, rfl⟩ := Frame.afterTokens?_scan rfl reached
    rw [Frame.scan_remaining] at forgets ⊢
    have fresh : (Frame.start (some g) f.rest).grammar = some g := rfl
    have resumed := Frame.outcomes_of_sameHistory hf fresh rfl (.inr (.inr forgets)) n
    rwa [Frame.scan_start] at resumed

/-- Behind the first number of a sum, and in a new text. No type matches a blank. -/
theorem outcomes_eq_of_sums :
    (∀ n, Scan.outcomes ⟨some (Grammar.sums true), "12 + 3 ".toList, 2, 7, 1⟩ n =
      Scan.outcomes ⟨some (Grammar.sums true), " + 3 ".toList, 0, 5, 0⟩ n) ∧
    ∀ n, Scan.outcomes ⟨some (Grammar.sums true), "12 + 3 ".toList, 2, 6, 1⟩ n =
      (Scan.start (some (Grammar.sums true)) " + 3".toList).outcomes n := by
  have forgets : (Grammar.sums true).Forgets " + 3 ".toList := .inr (.inr (by decide +kernel))
  have forgets' : (Grammar.sums true).Forgets " + 3".toList := .inr (.inr (by decide +kernel))
  have reached : (Scan.start (some (Grammar.sums true)) "12 + 3 ".toList).afterTokens? 1 =
      some ⟨some (Grammar.sums true), "12 + 3 ".toList, 2, 6, 1⟩ := by decide +kernel
  constructor
  · exact (outcomes_eq_of_remaining_eq (Grammar.sums true)).1 _ _
      ⟨by decide, by decide, by decide⟩ ⟨by decide, by decide, by decide⟩ rfl rfl rfl
      (.inr (.inr forgets))
  · exact (outcomes_eq_of_remaining_eq (Grammar.sums true)).2 _ 1 _ reached forgets'

end MaximalMunch
