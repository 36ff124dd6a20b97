import MaximalMunch.Proofs.Scan.Frame

/-!
What one scan can do to a frame. It comes to the end, cuts one token off the front or is stuck, and
the three cases say what was trimmed before. A frame is prepared when there is nothing left to trim
ahead of the next scan; every scan leaves a prepared frame, so a stuck scan can be repeated with the
same error.
-/

namespace MaximalMunch.Frame

/-- Trimming with this grammar would take nothing away. -/
def Prepared (g : Grammar) (f : Frame) : Prop :=
  g.trimming = true →
    f.rest.rdropWhile Text.isBlank = f.rest ∧
      (f.matched = 0 → f.rest.dropWhile Text.isBlank = f.rest)

theorem trimFront_eq_self {f : Frame} (h : f.rest.dropWhile Text.isBlank = f.rest) :
    f.trimFront = f := by
  have none_taken : f.rest.takeWhile Text.isBlank = [] := by
    have parts := List.takeWhile_append_dropWhile (p := Text.isBlank) (l := f.rest)
    rw [h] at parts
    exact List.append_left_eq_self.mp parts
  simp [trimFront, h, none_taken]

theorem trimBack_eq_self {f : Frame} (h : f.rest.rdropWhile Text.isBlank = f.rest) :
    f.trimBack = f := by
  have none_taken : f.rest.rtakeWhile Text.isBlank = [] := by
    have parts := List.rdropWhile_append_rtakeWhile (p := Text.isBlank) (l := f.rest)
    rw [h] at parts
    exact List.append_right_eq_self.mp parts
  simp [trimBack, h, none_taken]

theorem prepare_eq_self {g : Grammar} {f : Frame} (h : f.Prepared g) : f.prepare g = f := by
  rw [prepare]
  split
  · next trims =>
      obtain ⟨atBack, atFront⟩ := h trims
      rw [trimOutside, trimBack_eq_self atBack]
      split
      · next fresh => exact trimFront_eq_self (atFront fresh)
      · rfl
  · rfl

theorem prepared_prepare (g : Grammar) (f : Frame) : (f.prepare g).Prepared g := by
  intro trims
  rw [prepare, if_pos trims, trimOutside]
  split
  · refine ⟨?_, fun _ => List.dropWhile_idempotent _ _⟩
    simp only [trimFront, trimBack]
    rw [Text.dropWhile_rdropWhile, List.rdropWhile_idempotent]
  · next fresh =>
      refine ⟨List.rdropWhile_idempotent _ _, fun zero => ?_⟩
      exact absurd zero fresh

theorem skip_skip (g : Grammar) (f : Frame) : (f.skip g).skip g = f.skip g := by
  cases trims : g.trimming with
  | false => simp [skip, trims]
  | true =>
      simp only [skip, trims, if_true]
      exact trimFront_eq_self (List.dropWhile_idempotent _ _)

theorem prepared_skip {g : Grammar} {f : Frame} (h : f.Prepared g) : (f.skip g).Prepared g := by
  intro trims
  rw [skip, if_pos trims]
  refine ⟨?_, fun _ => List.dropWhile_idempotent _ _⟩
  simp only [trimFront]
  rw [← Text.dropWhile_rdropWhile, (h trims).1]

theorem skip_rest_ne_nil {g : Grammar} {f : Frame} (h : f.Prepared g) (left : f.rest ≠ []) :
    (f.skip g).rest ≠ [] := by
  rw [skip]
  split
  · next trims => exact Text.dropWhile_ne_nil (h trims).1 left
  · exact left

theorem prepared_cut {g : Grammar} {f : Frame} (h : f.Prepared g) (l : Scan.Longest) :
    (f.cut l).2.Prepared g := by
  intro trims
  refine ⟨Text.rdropWhile_drop (h trims).1 l.length, fun zero => ?_⟩
  exact absurd zero (Nat.succ_ne_zero _)

/-- What a scan with this grammar gives, and the frame it leaves. -/
inductive Outcome (g : Grammar) (f : Frame) : Except ScanError (Option Token) × Frame → Prop where
  | ended (none_left : (f.prepare g).rest = []) : Outcome g f (.ok none, f.prepare g)
  | token (p : Frame) (l : Scan.Longest)
      (offered : p = f.prepare g ∨ p = (f.prepare g).skip g) (left : p.rest ≠ [])
      (chosen : Scan.longest? g.types p.rest = some l) :
      Outcome g f (.ok (some (p.cut l).1), (p.cut l).2)
  | stuck (left : ((f.prepare g).skip g).rest ≠ [])
      (first : Scan.longest? g.types (f.prepare g).rest = none)
      (second : Scan.longest? g.types ((f.prepare g).skip g).rest = none) :
      Outcome g f (.error (.unmatched ((f.prepare g).skip g).rest), (f.prepare g).skip g)

theorem next_outcome {g : Grammar} {f : Frame} (hg : f.grammar = some g) :
    Outcome g f f.next := by
  rw [next, hg]
  by_cases none_left : (f.prepare g).rest = []
  · simpa only [none_left, if_true] using Outcome.ended none_left
  · have still_left := skip_rest_ne_nil (prepared_prepare g f) none_left
    simp only [none_left, if_false, attempt]
    cases first : Scan.longest? g.types (f.prepare g).rest with
    | some l => exact .token _ l (.inl rfl) none_left first
    | none =>
        cases second : Scan.longest? g.types ((f.prepare g).skip g).rest with
        | some l => exact .token _ l (.inr rfl) still_left second
        | none => exact .stuck still_left first second

/-! ### What every step keeps -/

theorem text_trimFront (f : Frame) : f.trimFront.text = f.text := by
  simp only [trimFront, text, List.append_assoc]
  rw [← List.append_assoc (f.rest.takeWhile _), List.takeWhile_append_dropWhile]

theorem text_trimBack (f : Frame) : f.trimBack.text = f.text := by
  simp only [trimBack, text, List.append_assoc]
  rw [← List.append_assoc (f.rest.rdropWhile _), List.rdropWhile_append_rtakeWhile]

theorem text_eat (f : Frame) (count : Nat) : (f.eat count).text = f.text := by
  simp only [eat, text, List.append_assoc]
  rw [← List.append_assoc (f.rest.take count), List.take_append_drop]

theorem text_prepare (g : Grammar) (f : Frame) : (f.prepare g).text = f.text := by
  rw [prepare, trimOutside]
  split
  · split
    · rw [text_trimFront, text_trimBack]
    · exact text_trimBack f
  · rfl

theorem text_skip (g : Grammar) (f : Frame) : (f.skip g).text = f.text := by
  rw [skip]
  split
  · exact text_trimFront f
  · rfl

theorem grammar_prepare (g : Grammar) (f : Frame) : (f.prepare g).grammar = f.grammar := by
  rw [prepare, trimOutside]
  split
  · split <;> rfl
  · rfl

theorem grammar_skip (g : Grammar) (f : Frame) : (f.skip g).grammar = f.grammar := by
  rw [skip]
  split <;> rfl

theorem matched_prepare (g : Grammar) (f : Frame) : (f.prepare g).matched = f.matched := by
  rw [prepare, trimOutside]
  split
  · split <;> rfl
  · rfl

theorem matched_skip (g : Grammar) (f : Frame) : (f.skip g).matched = f.matched := by
  rw [skip]
  split <;> rfl

theorem matched_offered {g : Grammar} {f p : Frame}
    (offered : p = f.prepare g ∨ p = (f.prepare g).skip g) : p.matched = f.matched := by
  rcases offered with rfl | rfl
  · exact matched_prepare g f
  · rw [matched_skip, matched_prepare]

theorem offered_kept {g : Grammar} {f p : Frame}
    (offered : p = f.prepare g ∨ p = (f.prepare g).skip g) :
    p.text = f.text ∧ p.grammar = f.grammar ∧ p.Prepared g := by
  rcases offered with rfl | rfl
  · exact ⟨text_prepare g f, grammar_prepare g f, prepared_prepare g f⟩
  · refine ⟨?_, ?_, prepared_skip (prepared_prepare g f)⟩
    · rw [text_skip, text_prepare]
    · rw [grammar_skip, grammar_prepare]

theorem next_kept (f : Frame) : f.next.2.text = f.text ∧ f.next.2.grammar = f.grammar := by
  cases hg : f.grammar with
  | none => simp [next, hg]
  | some g =>
      have step := next_outcome hg
      rw [← hg]
      generalize f.next = after at step ⊢
      cases step with
      | ended none_left => exact ⟨text_prepare g f, grammar_prepare g f⟩
      | token p l offered left chosen =>
          obtain ⟨sameText, sameGrammar, _⟩ := offered_kept offered
          exact ⟨(text_eat p l.length).trans sameText, sameGrammar⟩
      | stuck left first second =>
          obtain ⟨sameText, sameGrammar, _⟩ := offered_kept (g := g) (f := f) (.inr rfl)
          exact ⟨sameText, sameGrammar⟩

theorem prepared_next {g : Grammar} {f : Frame} (hg : f.grammar = some g) :
    f.next.2.Prepared g := by
  have step := next_outcome hg
  generalize f.next = after at step ⊢
  cases step with
  | ended none_left => exact prepared_prepare g f
  | token p l offered left chosen => exact prepared_cut (offered_kept offered).2.2 l
  | stuck left first second => exact prepared_skip (prepared_prepare g f)

/-- A scan that fails has trimmed all that it would trim when it is made again. -/
theorem next_of_error {f : Frame} {e : ScanError} (h : f.next.1 = .error e) :
    f.next.2.next = (.error e, f.next.2) := by
  cases hg : f.grammar with
  | none =>
      simp only [next, hg] at h ⊢
      rw [h]
  | some g =>
      have step := next_outcome hg
      have sameGrammar : f.next.2.grammar = some g := (next_kept f).2.trans hg
      have prepared := prepare_eq_self (prepared_next hg)
      generalize f.next = after at step h sameGrammar prepared ⊢
      cases step with
      | ended none_left => contradiction
      | token p l offered left chosen => contradiction
      | stuck left first second =>
          simp only [Except.error.injEq] at h
          simp only at sameGrammar prepared
          simp only [next, sameGrammar, prepared, left, if_false, attempt, second, skip_skip,
            Option.map_none, h]

/-! ### The end of the text -/

theorem rest_of_end {f after : Frame} (h : f.next = (.ok none, after)) : after.rest = [] := by
  cases hg : f.grammar with
  | none => simp [next, hg] at h
  | some g =>
      have step := next_outcome hg
      rw [h] at step
      cases step with
      | ended none_left => exact none_left

theorem next_end {g : Grammar} {f : Frame} (hg : f.grammar = some g) (h : f.rest = []) :
    f.next = (.ok none, f) := by
  have prepared : f.Prepared g := fun _ => ⟨by simp [h], fun _ => by simp [h]⟩
  simp [next, hg, prepare_eq_self prepared, h]

/-- At the end of the text a scan leaves everything as it is. -/
theorem next_of_nil {f : Frame} (h : f.rest = []) : f.next.2 = f := by
  cases hg : f.grammar with
  | none => simp [next, hg]
  | some g => rw [next_end hg h]

end MaximalMunch.Frame
