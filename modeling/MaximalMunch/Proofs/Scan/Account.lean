import MaximalMunch.Proofs.Scan.Outcome

/-!
What becomes of the text. Whatever is asked of a scan, and in whatever order, the text before its
window is what has been handed out so far, in order, with nothing but blanks between, and only blanks
are behind the window. Where nothing has been trimmed there are no such blanks.
-/

namespace MaximalMunch
namespace Scan

/-- What can be asked of a scan. -/
inductive Step where
  | next
  | eat (count : Nat)
  | trimFront
  | trimBack
  | add (name regex : Text)
  | setTrimming (trimming : Bool)

def piece? : Except ScanError (Option Token) → Option Text
  | .ok (some token) => some token.value
  | _ => none

/-- The text that a step hands out, if it does, and the scan after it. A grammar that refuses a type
stays as it is. -/
def apply (s : Scan) : Step → Option Text × Scan
  | .next => (piece? s.next.1, s.next.2)
  | .eat count => (some (s.eat count).1, (s.eat count).2)
  | .trimFront => (none, s.trimFront.2)
  | .trimBack => (none, s.trimBack.2)
  | .add name regex =>
    (none, s.withGrammar (s.grammar.map fun g => (g.add name regex).toOption.getD g))
  | .setTrimming trimming =>
    (none, s.withGrammar (s.grammar.map fun g => { g with trimming }))

def run (s : Scan) : List Step → List Text × Scan
  | [] => ([], s)
  | step :: rest =>
    let (piece, after) := s.apply step
    let (pieces, last) := after.run rest
    (piece.toList ++ pieces, last)

/-- The step trims, or scans with a grammar that does. -/
def trims (s : Scan) : Step → Bool
  | .next => s.grammar.any (·.trimming)
  | .trimFront | .trimBack => true
  | .eat _ | .add _ _ | .setTrimming _ => false

def runTrims (s : Scan) : List Step → Bool
  | [] => false
  | step :: rest => s.trims step || (s.apply step).2.runTrims rest

/-- What is left out between two pieces: blanks, and nothing where nothing is trimmed. -/
def Gap (trimmed : Bool) (t : Text) : Prop := Text.AllBlank t ∧ (trimmed = false → t = [])

/-- Pieces behind their gaps, with one more gap at the end. -/
def woven (cuts : List (Text × Text)) (last : Text) : Text :=
  cuts.flatMap (fun cut => cut.1 ++ cut.2) ++ last

/-- A scan accounts for a text of which these pieces have been handed out. -/
structure Account (text : Text) (trimmed : Bool) (pieces : List Text) (s : Scan) : Prop where
  text_eq : s.text = text
  inside : s.Inside
  remaining_eq : s.remaining = (text.take s.stop.toNat).drop s.pos.toNat
  front_eq : ∃ (cuts : List (Text × Text)) (last : Text), cuts.map Prod.snd = pieces ∧
    text.take s.pos.toNat = woven cuts last ∧
    (∀ cut ∈ cuts, Gap trimmed cut.1) ∧ Gap trimmed last
  back_gap : Gap trimmed (text.drop s.stop.toNat)

theorem gap_nil (trimmed : Bool) : Gap trimmed [] := ⟨Text.allBlank_nil, fun _ => rfl⟩

theorem gap_of_allBlank {t : Text} (h : Text.AllBlank t) : Gap true t := ⟨h, by simp⟩

theorem Gap.append {trimmed : Bool} {t u : Text} (ht : Gap trimmed t) (hu : Gap trimmed u) :
    Gap trimmed (t ++ u) := by
  refine ⟨ht.1.append hu.1, fun plain => ?_⟩
  rw [ht.2 plain, hu.2 plain, List.append_nil]

theorem Gap.or_left {trimmed : Bool} {t : Text} (h : Gap trimmed t) (also : Bool) :
    Gap (trimmed || also) t := by
  refine ⟨h.1, fun plain => h.2 ?_⟩
  exact (Bool.or_eq_false_iff.mp plain).1

theorem Gap.or_right {trimmed : Bool} {t : Text} (h : Gap trimmed t) (before : Bool) :
    Gap (before || trimmed) t := by
  refine ⟨h.1, fun plain => h.2 ?_⟩
  exact (Bool.or_eq_false_iff.mp plain).2

end Scan

namespace Frame
open Scan (Gap woven)

/-! ### One step -/

/-- One frame yields a piece, or none, behind a gap and becomes another. There may be a gap at the
back as well. -/
structure Yields (trimmed : Bool) (piece : Option Text) (f after : Frame) : Prop where
  text_eq : after.text = f.text
  front_eq : ∃ gap, Gap trimmed gap ∧ after.front = f.front ++ gap ++ piece.getD []
  back_eq : ∃ gap, Gap trimmed gap ∧ after.back = gap ++ f.back

theorem yields_withGrammar (trimmed : Bool) (f : Frame) (grammar : Option Grammar) :
    Yields trimmed none f { f with grammar } :=
  ⟨rfl, ⟨[], Scan.gap_nil trimmed, by simp⟩, ⟨[], Scan.gap_nil trimmed, rfl⟩⟩

theorem yields_self (trimmed : Bool) (f : Frame) : Yields trimmed none f f :=
  yields_withGrammar trimmed f f.grammar

theorem Yields.trans {trimmed : Bool} {piece : Option Text} {f p after : Frame}
    (first : Yields trimmed none f p) (second : Yields trimmed piece p after) :
    Yields trimmed piece f after := by
  obtain ⟨gap, isGap, front⟩ := first.front_eq
  obtain ⟨gap', isGap', front'⟩ := second.front_eq
  obtain ⟨tail, isTail, back⟩ := first.back_eq
  obtain ⟨tail', isTail', back'⟩ := second.back_eq
  refine ⟨second.text_eq.trans first.text_eq, ⟨gap ++ gap', isGap.append isGap', ?_⟩,
    ⟨tail' ++ tail, isTail'.append isTail, ?_⟩⟩
  · rw [front', front]
    simp
  · rw [back', back, List.append_assoc]

theorem yields_trimFront (f : Frame) : Yields true none f f.trimFront := by
  refine ⟨text_trimFront f, ⟨f.rest.takeWhile Text.isBlank, ?_, by simp [trimFront]⟩,
    ⟨[], Scan.gap_nil true, rfl⟩⟩
  exact Scan.gap_of_allBlank (Text.allBlank_takeWhile f.rest)

theorem yields_trimBack (f : Frame) : Yields true none f f.trimBack := by
  refine ⟨text_trimBack f, ⟨[], Scan.gap_nil true, by simp [trimBack]⟩,
    ⟨f.rest.rtakeWhile Text.isBlank, ?_, rfl⟩⟩
  exact Scan.gap_of_allBlank (Text.allBlank_rtakeWhile f.rest)

theorem yields_eat (trimmed : Bool) (f : Frame) (count : Nat) :
    Yields trimmed (some (f.rest.take count)) f (f.eat count) :=
  ⟨text_eat f count, ⟨[], Scan.gap_nil trimmed, by simp [eat]⟩, ⟨[], Scan.gap_nil trimmed, rfl⟩⟩

theorem yields_cut (trimmed : Bool) (f : Frame) (l : Scan.Longest) :
    Yields trimmed (some (f.cut l).1.value) f (f.cut l).2 := by
  have eaten := yields_eat trimmed f l.length
  exact ⟨eaten.text_eq, eaten.front_eq, eaten.back_eq⟩

theorem yields_prepare (g : Grammar) (f : Frame) : Yields g.trimming none f (f.prepare g) := by
  rw [prepare]
  cases g.trimming with
  | false => exact yields_self false f
  | true =>
      rw [if_pos rfl, trimOutside]
      split
      · exact (yields_trimBack f).trans (yields_trimFront f.trimBack)
      · exact yields_trimBack f

theorem yields_skip (g : Grammar) (f : Frame) : Yields g.trimming none f (f.skip g) := by
  rw [skip]
  cases g.trimming with
  | false => exact yields_self false f
  | true => exact yields_trimFront f

theorem yields_offered {g : Grammar} {f p : Frame}
    (offered : p = f.prepare g ∨ p = (f.prepare g).skip g) : Yields g.trimming none f p := by
  rcases offered with rfl | rfl
  · exact yields_prepare g f
  · exact (yields_prepare g f).trans (yields_skip g (f.prepare g))

theorem yields_next (f : Frame) :
    Yields (f.grammar.any (·.trimming)) (Scan.piece? f.next.1) f f.next.2 := by
  cases hg : f.grammar with
  | none =>
      simp only [next, hg]
      exact yields_self _ f
  | some g =>
      rw [Option.any_some]
      have step := next_outcome hg
      generalize f.next = after at step ⊢
      cases step with
      | ended none_left => exact yields_prepare g f
      | token p l offered left chosen =>
          exact (yields_offered offered).trans (yields_cut g.trimming p l)
      | stuck left first second => exact yields_offered (.inr rfl)

theorem apply_scan (f : Frame) (step : Scan.Step) :
    ∃ after : Frame, (f.scan.apply step).2 = after.scan ∧
      Yields (f.scan.trims step) (f.scan.apply step).1 f after := by
  cases step with
  | next =>
      refine ⟨f.next.2, ?_, ?_⟩
      · rw [Scan.apply, next_scan]
      · simp only [Scan.apply, next_scan]
        exact yields_next f
  | eat count =>
      refine ⟨f.eat count, ?_, ?_⟩
      · rw [Scan.apply, eat_scan]
      · simp only [Scan.apply, eat_scan]
        exact yields_eat _ f count
  | trimFront =>
      refine ⟨f.trimFront, ?_, yields_trimFront f⟩
      rw [Scan.apply, trimFront_scan]
  | trimBack =>
      refine ⟨f.trimBack, ?_, yields_trimBack f⟩
      rw [Scan.apply, trimBack_scan]
  | add name regex =>
      exact ⟨{ f with grammar := f.grammar.map fun g => (g.add name regex).toOption.getD g }, rfl,
        yields_withGrammar false f _⟩
  | setTrimming trimming =>
      exact ⟨{ f with grammar := f.grammar.map fun g => { g with trimming } }, rfl,
        yields_withGrammar false f _⟩

/-! ### A run -/

/-- The text outside the window, by the pieces that have been handed out. -/
structure Ledger (trimmed : Bool) (pieces : List Text) (f : Frame) : Prop where
  front_eq : ∃ (cuts : List (Text × Text)) (last : Text), cuts.map Prod.snd = pieces ∧
    f.front = woven cuts last ∧ (∀ cut ∈ cuts, Gap trimmed cut.1) ∧ Gap trimmed last
  back_gap : Gap trimmed f.back

theorem ledger_start (grammar : Option Grammar) (text : Text) :
    Ledger false [] (start grammar text) :=
  ⟨⟨[], [], rfl, rfl, by simp, Scan.gap_nil false⟩, Scan.gap_nil false⟩

/-- A new piece closes the last gap, and an empty one comes behind it. -/
theorem Ledger.yields {before trimmed : Bool} {pieces : List Text} {piece : Option Text}
    {f after : Frame} (ledger : Ledger before pieces f) (step : Yields trimmed piece f after) :
    Ledger (before || trimmed) (pieces ++ piece.toList) after := by
  obtain ⟨cuts, last, cutPieces, front, gaps, lastGap⟩ := ledger.front_eq
  obtain ⟨gap, isGap, front'⟩ := step.front_eq
  obtain ⟨tail, isTail, back'⟩ := step.back_eq
  have longer : Gap (before || trimmed) (last ++ gap) :=
    (lastGap.or_left trimmed).append (isGap.or_right before)
  constructor
  · cases piece with
    | none =>
        refine ⟨cuts, last ++ gap, ?_, ?_, ?_, longer⟩
        · simpa using cutPieces
        · rw [front', front]
          simp [woven]
        · intro cut hc
          exact (gaps cut hc).or_left trimmed
    | some piece =>
        refine ⟨cuts ++ [(last ++ gap, piece)], [], ?_, ?_, ?_, Scan.gap_nil _⟩
        · simp [cutPieces]
        · rw [front', front]
          simp [woven]
        · intro cut hc
          rcases List.mem_append.mp hc with old | new
          · exact (gaps cut old).or_left trimmed
          · rw [List.mem_singleton.mp new]
            exact longer
  · rw [back']
    exact (isTail.or_right before).append (ledger.back_gap.or_left trimmed)

theorem run_ledger (steps : List Scan.Step) {before : Bool} {pieces : List Text} {f : Frame}
    (ledger : Ledger before pieces f) :
    ∃ after : Frame, (f.scan.run steps).2 = after.scan ∧ after.text = f.text ∧
      Ledger (before || f.scan.runTrims steps) (pieces ++ (f.scan.run steps).1) after := by
  -- What is handed out is added at the end of what has been, so the ledger grows along the run.
  induction steps generalizing before pieces f with
  | nil =>
      refine ⟨f, rfl, rfl, ?_⟩
      simpa [Scan.run, Scan.runTrims] using ledger
  | cons step rest ih =>
      obtain ⟨p, moved, step⟩ := apply_scan f step
      obtain ⟨after, reached, text, kept⟩ := ih (ledger.yields step)
      refine ⟨after, ?_, text.trans step.text_eq, ?_⟩
      · simp only [Scan.run, moved, reached]
      · simpa only [Scan.run, Scan.runTrims, moved, List.append_assoc, Bool.or_assoc] using kept

theorem account_of_ledger {trimmed : Bool} {pieces : List Text} {f : Frame}
    (ledger : Ledger trimmed pieces f) : Scan.Account f.text trimmed pieces f.scan := by
  have stop : f.scan.stop.toNat = (f.front ++ f.rest).length := by
    simp only [scan, List.length_append]
    omega
  have before : f.text.take f.scan.pos.toNat = f.front := by
    simp [scan, Frame.text]
  have behind : f.text.drop f.scan.stop.toNat = f.back := by
    rw [stop, Frame.text, List.drop_left]
  refine ⟨rfl, scan_inside f, ?_, ?_, ?_⟩
  · rw [scan_remaining, stop, Frame.text, List.take_left]
    simp [scan]
  · rw [before]
    exact ledger.front_eq
  · rw [behind]
    exact ledger.back_gap

theorem Yields.window {trimmed : Bool} {piece : Option Text} {f after : Frame}
    (step : Yields trimmed piece f after) :
    f.scan.pos ≤ after.scan.pos ∧ after.scan.stop ≤ f.scan.stop := by
  obtain ⟨gap, _, front⟩ := step.front_eq
  obtain ⟨tail, _, back⟩ := step.back_eq
  have sizes := congrArg List.length step.text_eq
  have frontSizes := congrArg List.length front
  have backSizes := congrArg List.length back
  simp only [Frame.text, List.length_append] at sizes frontSizes backSizes
  simp only [scan]
  omega

theorem run_window (steps : List Scan.Step) (f : Frame) :
    f.scan.pos ≤ (f.scan.run steps).2.pos ∧ (f.scan.run steps).2.stop ≤ f.scan.stop := by
  induction steps generalizing f with
  | nil => exact ⟨Int.le_refl _, Int.le_refl _⟩
  | cons step rest ih =>
      obtain ⟨p, moved, step⟩ := apply_scan f step
      obtain ⟨front, back⟩ := step.window
      obtain ⟨front', back'⟩ := ih p
      simp only [Scan.run, moved]
      exact ⟨Int.le_trans front front', Int.le_trans back' back⟩

end Frame

theorem Scan.run_append (s : Scan) (earlier later : List Scan.Step) :
    (s.run (earlier ++ later)).2 = ((s.run earlier).2.run later).2 := by
  induction earlier generalizing s with
  | nil => rfl
  | cons step rest ih => exact ih (s.apply step).2

/-- At the end of any run a scan accounts for all of its text, and at no earlier moment of the run
was its window smaller at either end. -/
theorem Scan.run_account (grammar : Option Grammar) (text : Text) (steps : List Scan.Step) :
    Scan.Account text ((Scan.start grammar text).runTrims steps)
        ((Scan.start grammar text).run steps).1 ((Scan.start grammar text).run steps).2 ∧
      ∀ k, ((Scan.start grammar text).run (steps.take k)).2.pos ≤
          ((Scan.start grammar text).run steps).2.pos ∧
        ((Scan.start grammar text).run steps).2.stop ≤
          ((Scan.start grammar text).run (steps.take k)).2.stop := by
  rw [← Frame.scan_start]
  have opened := Frame.ledger_start grammar text
  constructor
  · obtain ⟨after, reached, sameText, ledger⟩ := Frame.run_ledger steps opened
    have account := Frame.account_of_ledger ledger
    have whole : (Frame.start grammar text).text = text := by simp [Frame.start, Frame.text]
    rw [sameText, whole] at account
    rw [reached]
    simpa using account
  · intro k
    obtain ⟨early, reached, _, _⟩ := Frame.run_ledger (steps.take k) opened
    have later := early.run_window (steps.drop k)
    rw [← reached, ← Scan.run_append, List.take_append_drop] at later
    exact later

end MaximalMunch
