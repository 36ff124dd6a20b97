import MaximalMunch.Proofs.Munch
import MaximalMunch.Proofs.Scan.Account

/-!
What a scan gives, by its window. A window within its text gives a token of one of the types, the end
of the text, or the error of being stuck, and no other error. Where a scan is stuck, no type matches
what it reports; nothing but blanks has been taken off the window, and scanning again is stuck there
with the same report.
-/

namespace MaximalMunch

namespace Scan

/-- The scan has come to a place where it reports `rest` and stays. -/
structure StuckAt (g : Grammar) (s : Scan) (rest : Text) (after : Scan) : Prop where
  left : rest ≠ []
  remaining_eq : after.remaining = rest
  unmatched : ∀ t ∈ g.types, t.matchLength? rest = none
  dropped : ∃ front back, Gap g.trimming front ∧ Gap g.trimming back ∧
    s.remaining = front ++ rest ++ back ∧
    after.pos = s.pos + front.length ∧ after.stop = s.stop - back.length
  inked : g.trimming = true →
    Text.isBlank (rest.head left) = false ∧ Text.isBlank (rest.getLast left) = false
  text_eq : after.text = s.text
  matched_eq : after.matched = s.matched
  again : after.next = (.error (.unmatched rest), after)

/-- What a scan with this grammar gives, and the scan after it. -/
inductive Gives (g : Grammar) (s : Scan) : Except ScanError (Option Token) × Scan → Prop where
  | token (after : Scan) (token : Token) (front window back : Text) (l : Longest)
      (offered : s.remaining = front ++ window ++ back) (isFront : Gap g.trimming front)
      (isBack : Gap g.trimming back) (chosen : longest? g.types window = some l)
      (declared : g.types[l.index]? = some token.type)
      (value_eq : token.value = window.take l.length) (some_chars : token.value ≠ []) :
      Gives g s (.ok (some token), after)
  | ended (after : Scan) (blank : Gap g.trimming s.remaining) (empty : after.remaining = []) :
      Gives g s (.ok none, after)
  | stuck (after : Scan) (rest : Text) (place : StuckAt g s rest after) :
      Gives g s (.error (.unmatched rest), after)

end Scan

namespace Frame

/-- What is left, what has been handed out and the gaps at both ends make up the window before. -/
theorem Yields.rest_eq {trimmed : Bool} {piece : Option Text} {f after : Frame}
    (step : Yields trimmed piece f after) :
    ∃ front back, Scan.Gap trimmed front ∧ Scan.Gap trimmed back ∧
      f.rest = front ++ piece.getD [] ++ after.rest ++ back ∧
      after.front = f.front ++ front ++ piece.getD [] ∧ after.back = back ++ f.back := by
  obtain ⟨front, isFront, frontEq⟩ := step.front_eq
  obtain ⟨back, isBack, backEq⟩ := step.back_eq
  refine ⟨front, back, isFront, isBack, ?_, frontEq, backEq⟩
  have whole := step.text_eq
  simp only [text, frontEq, backEq, List.append_assoc] at whole
  have window := List.append_cancel_left whole
  simp only [← List.append_assoc] at window ⊢
  exact (List.append_cancel_right window).symm

theorem head_isBlank {t : Text} (h : t.dropWhile Text.isBlank = t) (left : t ≠ []) :
    Text.isBlank (t.head left) = false := by
  have inked := Text.startsBlank_dropWhile t
  rw [h] at inked
  cases t with
  | nil => exact absurd rfl left
  | cons c t => exact inked

theorem getLast_isBlank {t : Text} (h : t.rdropWhile Text.isBlank = t) (left : t ≠ []) :
    Text.isBlank (t.getLast left) = false := by
  simpa using List.rdropWhile_eq_self_iff.mp h left

/-- After skipping there is no blank at the front, and none at the back if there was none before. -/
theorem inked_skip {g : Grammar} {f : Frame} (prepared : f.Prepared g) (trims : g.trimming = true)
    (left : (f.skip g).rest ≠ []) :
    Text.isBlank ((f.skip g).rest.head left) = false ∧
      Text.isBlank ((f.skip g).rest.getLast left) = false := by
  have still : (f.skip g).rest.dropWhile Text.isBlank = (f.skip g).rest := by
    rw [skip, if_pos trims]
    exact List.dropWhile_idempotent _ _
  exact ⟨head_isBlank still left, getLast_isBlank (prepared_skip prepared trims).1 left⟩

theorem stuckAt_of_error {g : Grammar} {f after : Frame} {rest : Text} (hg : f.grammar = some g)
    (h : f.next = (.error (.unmatched rest), after)) : Scan.StuckAt g f.scan rest after.scan := by
  have step := next_outcome hg
  have yields := yields_next f
  have text := f.next_kept.1
  have again := after.next_scan
  have repeated := next_of_error (f := f) (e := .unmatched rest) (by rw [h])
  rw [h] at step yields text repeated
  rw [repeated] at again
  cases step with
  | stuck left first second =>
      obtain ⟨front, back, isFront, isBack, window, frontEq, backEq⟩ := yields.rest_eq
      rw [hg, Option.any_some] at isFront isBack
      have sizes := congrArg List.length window
      have frontSize := congrArg List.length frontEq
      simp only [Scan.piece?, Option.getD_none, List.append_nil, List.length_append]
        at window sizes frontSize
      exact {
        left
        remaining_eq := scan_remaining _
        unmatched := (Scan.longest?_eq_none_iff _ _).mp second
        dropped := by
          refine ⟨front, back, isFront, isBack, ?_, ?_, ?_⟩
          · rw [scan_remaining, window]
          · simp only [scan]
            omega
          · simp only [scan]
            omega
        inked := fun trims => inked_skip (prepared_prepare g f) trims left
        text_eq := text
        matched_eq := matched_offered (.inr rfl)
        again }

end Frame

/-- A scan whose window lies in its text gives a token, ends, or is stuck where it stays; and it
fails in no other way. -/
theorem Scan.next_gives {s : Scan} {g : Grammar} (inside : s.Inside) (hg : s.grammar = some g) :
    Scan.Gives g s s.next := by
  obtain ⟨f, rfl⟩ := Frame.exists_frame inside
  have step := Frame.next_outcome hg
  rw [f.next_scan]
  generalize next : f.next = r at step
  cases step with
  | ended none_left =>
      obtain ⟨front, back, isFront, isBack, window, _⟩ := (Frame.yields_prepare g f).rest_eq
      refine .ended _ ?_ ((Frame.scan_remaining _).trans none_left)
      rw [Frame.scan_remaining, window, none_left]
      simpa using isFront.append isBack
  | token p l offered left chosen =>
      obtain ⟨front, back, isFront, isBack, window, _⟩ := (Frame.yields_offered offered).rest_eq
      have best := Scan.chosen_of_longest? chosen
      have some_chars := Scan.length_pos_of_longest? chosen
      refine .token _ _ front p.rest back l ?_ isFront isBack chosen best.at_index rfl ?_
      · rw [Frame.scan_remaining, window, Option.getD_none, List.append_nil]
      · simp [Frame.cut, left, Nat.ne_of_gt some_chars]
  | stuck left first second => exact .stuck _ _ (Frame.stuckAt_of_error hg next)

/-- Between two tokens of a sum, before a letter: one blank is skipped in front of it and one has been
dropped behind it. -/
theorem Scan.next_gives_sums :
    let s : Scan := ⟨some (Grammar.sums true), "1 x ".toList, 1, 4, 1⟩
    s.Inside ∧ ∃ after, s.next = (.error (.unmatched ['x']), after) ∧
      Scan.StuckAt (Grammar.sums true) s ['x'] after ∧ after.pos = 2 ∧ after.stop = 3 := by
  intro s
  have inside : s.Inside := ⟨by decide, by decide, by decide⟩
  have reached : s.next = (.error (.unmatched ['x']), ⟨s.grammar, s.text, 2, 3, 1⟩) := by
    decide +kernel
  have gives := Scan.next_gives (g := Grammar.sums true) inside rfl
  rw [reached] at gives
  cases gives with
  | stuck after rest place => exact ⟨inside, _, reached, place, rfl, rfl⟩

end MaximalMunch
