import MaximalMunch.Proofs.Cursor.Fill

/-!
Maximal munch on plain strings, without window, memory or fold: the longest length that any type
matches is taken off the front, the first type that matches this much names the token, and with
trimming a run of blanks that nothing matches is dropped. The tokens of a text are what this gives.
-/

namespace MaximalMunch

theorem mapError_map {α β ε ε' : Type} (f : α → β) (h : ε → ε') (r : Except ε α) :
    (r.map f).mapError h = (r.mapError h).map f := by
  cases r <;> rfl

namespace Grammar

/-- The greatest length that a type matches at the front. -/
def longestLength? (g : Grammar) (s : Text) : Option Nat :=
  (g.types.filterMap fun t => t.matchLength? s).max?

/-- The token at the front, of the first type that matches the greatest length, and what is left
behind it. -/
def front? (g : Grammar) (s : Text) : Option (Token × Text) :=
  match g.longestLength? s with
  | none => none
  | some n =>
    (g.types.find? fun t => t.matchLength? s == some n).map fun t => (⟨t, s.take n⟩, s.drop n)

/-- The next token and what is left behind it, or the text on which this fails. -/
def munchStep (g : Grammar) (s : Text) : Except Text (Token × Text) :=
  match g.front? s with
  | some found => .ok found
  | none =>
    if g.trimming && Text.startsBlank s then
      let s := s.dropWhile Text.isBlank
      match g.front? s with
      | some found => .ok found
      | none => .error s
    else .error s

theorem drop_length_lt {g : Grammar} {s whole : Text} {found : Token × Text} (left : whole ≠ [])
    (shorter : s.length ≤ whole.length) (h : g.front? s = some found) :
    found.2.length < whole.length := by
  have some_left := List.length_pos_iff.mpr left
  rw [front?] at h
  split at h
  · contradiction
  · next n _ =>
      obtain ⟨t, ht, rfl⟩ := Option.map_eq_some_iff.mp h
      have matched : t.matchLength? s = some n := by simpa using List.find?_some ht
      have pos := TokenType.matchLength?_pos matched
      simp only [List.length_drop]
      omega

/-- A step takes the front of the window, or of what is behind the blanks there. -/
theorem front?_of_munchStep {g : Grammar} {s : Text} {found : Token × Text}
    (h : g.munchStep s = .ok found) :
    ∃ window, (window = s ∨ window = s.dropWhile Text.isBlank) ∧ g.front? window = some found := by
  rw [munchStep] at h
  split at h
  · next first =>
      cases h
      exact ⟨s, .inl rfl, first⟩
  · split at h
    · simp only at h
      split at h
      · next second =>
          cases h
          exact ⟨_, .inr rfl, second⟩
      · contradiction
    · contradiction

theorem munchStep_length_lt {g : Grammar} {s : Text} {found : Token × Text} (left : s ≠ [])
    (h : g.munchStep s = .ok found) : found.2.length < s.length := by
  obtain ⟨window, offered, front⟩ := front?_of_munchStep h
  rcases offered with rfl | rfl
  · exact drop_length_lt left (Nat.le_refl _) front
  · exact drop_length_lt left (List.length_dropWhile_le _ _) front

/-- The tokens of a text that has been trimmed as the grammar says. -/
def munchFrom (g : Grammar) (s : Text) : Except Text (List Token) :=
  if left : s = [] then .ok []
  else
    match h : g.munchStep s with
    | .error rest => .error rest
    | .ok (token, rest) =>
      have := munchStep_length_lt left h
      (g.munchFrom rest).map (token :: ·)
termination_by s.length

theorem munchFrom_nil (g : Grammar) : g.munchFrom [] = .ok [] := by
  rw [munchFrom]
  simp

theorem munchFrom_of_error {g : Grammar} {s rest : Text} (left : s ≠ [])
    (h : g.munchStep s = .error rest) : g.munchFrom s = .error rest := by
  rw [munchFrom, dif_neg left]
  split <;> simp_all

theorem munchFrom_of_ok {g : Grammar} {s rest : Text} {token : Token} (left : s ≠ [])
    (h : g.munchStep s = .ok (token, rest)) :
    g.munchFrom s = (g.munchFrom rest).map (token :: ·) := by
  rw [munchFrom, dif_neg left]
  split <;> simp_all

/-- The tokens of a text, or what is left of it where no type matches. -/
def munch (g : Grammar) (text : Text) : Except Text (List Token) :=
  g.munchFrom (if g.trimming then Text.trimBoth Text.isBlank text else text)

/-- The tokens of a trimmed text up to where no type matches, and how they stop. -/
def munchRun (g : Grammar) (s : Text) : Scan.Completion :=
  if left : s = [] then ⟨[], .ok ()⟩
  else
    match h : g.munchStep s with
    | .error rest => ⟨[], .error (.unmatched rest)⟩
    | .ok (token, rest) =>
      have := munchStep_length_lt left h
      ⟨token :: (g.munchRun rest).tokens, (g.munchRun rest).stop⟩
termination_by s.length

theorem munchRun_nil (g : Grammar) : g.munchRun [] = ⟨[], .ok ()⟩ := by
  rw [munchRun]
  simp

theorem munchRun_of_error {g : Grammar} {s rest : Text} (left : s ≠ [])
    (h : g.munchStep s = .error rest) : g.munchRun s = ⟨[], .error (.unmatched rest)⟩ := by
  rw [munchRun, dif_neg left]
  split <;> simp_all

theorem munchRun_of_ok {g : Grammar} {s rest : Text} {token : Token} (left : s ≠ [])
    (h : g.munchStep s = .ok (token, rest)) :
    g.munchRun s = ⟨token :: (g.munchRun rest).tokens, (g.munchRun rest).stop⟩ := by
  rw [munchRun, dif_neg left]
  split <;> simp_all

/-- Windows on which grammars take the same step are run through alike. -/
theorem munchRun_congr {g g' : Grammar} {s s' : Text} (left : s ≠ []) (left' : s' ≠ [])
    (same : g.munchStep s = g'.munchStep s')
    (rest : ∀ token rest, g'.munchStep s' = .ok (token, rest) → g.munchRun rest = g'.munchRun rest) :
    g.munchRun s = g'.munchRun s' := by
  cases h : g'.munchStep s' with
  | error rest => rw [munchRun_of_error left' h, munchRun_of_error left (same.trans h)]
  | ok found =>
      obtain ⟨token, behind⟩ := found
      rw [munchRun_of_ok left' h, munchRun_of_ok left (same.trans h), rest token behind h]

theorem longestLength?_eq (g : Grammar) (s : Text) :
    g.longestLength? s = (Scan.longest? g.types s).map (·.length) := by
  rw [longestLength?]
  cases h : Scan.longest? g.types s with
  | none =>
      have no_match := (Scan.longest?_eq_none_iff g.types s).mp h
      simpa [List.filterMap_eq_nil_iff] using no_match
  | some l =>
      have chosen := Scan.chosen_of_longest? h
      rw [Option.map_some, List.max?_eq_some_iff]
      refine ⟨List.mem_filterMap.mpr ⟨l.type, chosen.type_mem, chosen.length_eq⟩, ?_⟩
      intro n hn
      obtain ⟨t, ht, matched⟩ := List.mem_filterMap.mp hn
      exact chosen.longest t ht n matched

/-- The choice of the fold and the choice in two passes are the same. -/
theorem front?_eq (g : Grammar) (s : Text) :
    g.front? s =
      (Scan.longest? g.types s).map fun l => (⟨l.type, s.take l.length⟩, s.drop l.length) := by
  rw [front?, longestLength?_eq]
  cases h : Scan.longest? g.types s with
  | none => rfl
  | some l =>
      have chosen := Scan.chosen_of_longest? h
      have found : (g.types.find? fun t => t.matchLength? s == some l.length) = some l.type := by
        rw [List.find?_eq_some_iff_getElem]
        refine ⟨by simp [chosen.length_eq], l.index, chosen.index_lt, ?_, ?_⟩
        · have at_index := chosen.at_index
          rw [List.getElem?_eq_getElem chosen.index_lt] at at_index
          exact Option.some.inj at_index
        · intro j hj
          have inRange : j < g.types.length := Nat.lt_trans hj chosen.index_lt
          have before : g.types[j] ∈ g.types.take l.index :=
            List.mem_take_iff_getElem.mpr ⟨j, by omega, rfl⟩
          have shorter := chosen.first _ before l.length
          simp only [Bool.not_eq_eq_eq_not, Bool.not_true, beq_eq_false_iff_ne]
          intro same
          exact Nat.lt_irrefl _ (shorter same)
      simp only [Option.map_some, found]

end Grammar

namespace Frame

theorem attempt_eq (g : Grammar) (f : Frame) :
    (f.attempt g).map (fun r => (r.1, r.2.rest)) = g.front? f.rest := by
  rw [attempt, Grammar.front?_eq, Option.map_map]
  rfl

theorem skip_rest (g : Grammar) (f : Frame) :
    (f.skip g).rest =
      if g.trimming && Text.startsBlank f.rest then f.rest.dropWhile Text.isBlank
      else f.rest := by
  cases trims : g.trimming with
  | false => simp [skip, trims]
  | true =>
      cases hf : f.rest with
      | nil => simp [skip, trims, trimFront, hf]
      | cons c rest =>
          cases blank : Text.isBlank c <;>
            simp [skip, trims, trimFront, hf, Text.startsBlank, blank]

/-- Where nothing is skipped, the second attempt is the first one again. -/
theorem munchStep_of_none {g : Grammar} {f : Frame} (h : g.front? f.rest = none) :
    g.munchStep f.rest =
      match g.front? (f.skip g).rest with
      | some found => .ok found
      | none => .error (f.skip g).rest := by
  rw [Grammar.munchStep, h, skip_rest]
  cases skips : g.trimming && Text.startsBlank f.rest with
  | true => rfl
  | false => simp [h]

/-- A prepared frame takes the step that its window takes as a plain string. -/
theorem next_eq_munchStep {g : Grammar} {f : Frame} (hg : f.grammar = some g)
    (prepared : f.Prepared g) (left : f.rest ≠ []) :
    match g.munchStep f.rest with
    | .ok (token, rest) => f.next.1 = .ok (some token) ∧ f.next.2.rest = rest
    | .error rest => f.next.1 = .error (.unmatched rest) ∧ f.next.2.rest = rest := by
  have first := f.attempt_eq g
  have second := (f.skip g).attempt_eq g
  simp only [next, hg, prepare_eq_self prepared, left, if_false]
  cases h : f.attempt g with
  | some found =>
      rw [h, Option.map_some] at first
      rw [Grammar.munchStep, ← first]
      exact ⟨rfl, rfl⟩
  | none =>
      rw [h, Option.map_none] at first
      rw [munchStep_of_none first.symm]
      cases k : (f.skip g).attempt g with
      | some found =>
          rw [k, Option.map_some] at second
          rw [← second]
          exact ⟨rfl, rfl⟩
      | none =>
          rw [k, Option.map_none] at second
          rw [← second]
          exact ⟨rfl, rfl⟩

theorem complete_prepared {g : Grammar} {f : Frame} (hg : f.grammar = some g)
    (prepared : f.Prepared g) : f.scan.complete = g.munchRun f.rest := by
  -- Both sides go on with what is left behind the first token, which is a shorter text.
  induction size : f.rest.length using Nat.strongRecOn generalizing f with
  | ind n ih =>
      rw [complete_scan]
      by_cases left : f.rest = []
      · have ended : f.next = (.ok none, f) := by
          simp [next, hg, prepare_eq_self prepared, left]
        rw [ended, left, Grammar.munchRun_nil]
      · have step := next_eq_munchStep hg prepared left
        have keeps := f.next_kept.2.trans hg
        have stays := prepared_next hg
        generalize f.next = r at step keeps stays ⊢
        obtain ⟨result, after⟩ := r
        cases h : g.munchStep f.rest with
        | error rest =>
            rw [h] at step
            obtain ⟨gives, _⟩ := step
            simp only at gives
            rw [gives, Grammar.munchRun_of_error left h]
        | ok found =>
            obtain ⟨token, rest⟩ := found
            rw [h] at step
            obtain ⟨gives, leaves⟩ := step
            simp only at gives leaves keeps stays
            have shorter : rest.length < f.rest.length := Grammar.munchStep_length_lt left h
            rw [gives, Grammar.munchRun_of_ok left h, ← leaves,
              ← ih after.rest.length (by rw [leaves]; omega) keeps stays rfl]

def stuckOn (rest : Text) : CursorError := .scan (.unmatched rest)

theorem munchRun_all (g : Grammar) (s : Text) :
    (g.munchRun s).all = (g.munchFrom s).mapError stuckOn := by
  fun_induction Grammar.munchRun g s with
  | case1 =>
      rw [Grammar.munchFrom_nil]
      rfl
  | case2 s left rest h =>
      rw [Grammar.munchFrom_of_error left h]
      rfl
  | case3 s left token rest h shorter ih =>
      rw [Grammar.munchFrom_of_ok left h, mapError_map, ← ih]
      exact Scan.Completion.all_cons token (g.munchRun rest)

theorem all_complete {g : Grammar} {f : Frame} (hg : f.grammar = some g)
    (prepared : f.Prepared g) :
    f.scan.complete.all = (g.munchFrom f.rest).mapError stuckOn := by
  rw [complete_prepared hg prepared, munchRun_all]

theorem next_prepare {g : Grammar} {f : Frame} (hg : f.grammar = some g) :
    (f.prepare g).next = f.next := by
  have same := (grammar_prepare g f).trans hg
  simp only [next, hg, same, prepare_eq_self (prepared_prepare g f)]

theorem start_prepare_rest (g : Grammar) (text : Text) :
    ((start (some g) text).prepare g).rest =
      if g.trimming then Text.trimBoth Text.isBlank text else text := by
  rw [prepare]
  split
  · exact Text.dropWhile_rdropWhile Text.isBlank text
  · rfl

end Frame

/-- The complete scan of a text. -/
def Grammar.completion (g : Grammar) (text : Text) : Scan.Completion :=
  (Scan.start (some g) text).complete

theorem Grammar.completion_eq (g : Grammar) (text : Text) :
    g.completion text =
      g.munchRun (if g.trimming then Text.trimBoth Text.isBlank text else text) := by
  have prepared := Frame.complete_prepared (Frame.grammar_prepare g (Frame.start (some g) text))
    (Frame.prepared_prepare g (Frame.start (some g) text))
  rw [Frame.start_prepare_rest] at prepared
  rw [completion, ← Frame.scan_start, ← prepared, Frame.complete_scan, Frame.complete_scan,
    Frame.next_prepare rfl]

/-- The tokens of a text are those of maximal munch on plain strings, and so is the text on which
this fails. -/
theorem tokenize_eq_munch (g : Grammar) (text : Text) :
    tokenize (some g) text = (g.munch text).mapError fun rest => .scan (.unmatched rest) := by
  have inside : (Cursor.start (some g) text).scan.Inside := by
    have framed := (Frame.start (some g) text).scan_inside
    rwa [Frame.scan_start] at framed
  have whole : (Cursor.start (some g) text).whole = (Scan.start (some g) text).complete := by
    simp [Cursor.whole, Cursor.start]
  have prepared : (Scan.start (some g) text).complete =
      ((Frame.start (some g) text).prepare g).scan.complete := by
    rw [← Frame.scan_start, Frame.complete_scan, Frame.complete_scan, Frame.next_prepare rfl]
  have all := Frame.all_complete (Frame.grammar_prepare g (Frame.start (some g) text))
    (Frame.prepared_prepare g (Frame.start (some g) text))
  rw [Frame.start_prepare_rest] at all
  rw [tokenize, (Cursor.all_eq inside).1, whole, prepared]
  exact all

/-- Numbers and the sign between them. -/
def Grammar.sums (trimming : Bool) : Grammar :=
  ⟨[(TokenType.make "NUMBER".toList "[0-9]+".toList).toOption.get (by decide +kernel),
    (TokenType.make "PLUS".toList "\\+".toList).toOption.get (by decide +kernel)], trimming⟩

example : (tokenize (some (Grammar.sums true)) " 12 +3".toList).map (·.map (·.value)) =
    .ok ["12".toList, "+".toList, "3".toList] := by
  decide +kernel

end MaximalMunch
