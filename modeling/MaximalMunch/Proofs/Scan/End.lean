import MaximalMunch.Proofs.Munch
import MaximalMunch.Proofs.Scan.Account

/-!
The end of the text is final. Once a scan has come to it, nothing is left in the window; no later
step moves the window or hands anything out, whatever is done to the grammar, and blanks that
trimming has dropped behind the window do not come back.
-/

namespace MaximalMunch

/-- The scan has come to the end, and stays there whatever is asked of it. -/
structure Scan.Ended (s : Scan) : Prop where
  empty : s.pos = s.stop
  next_eq : s.next = (.ok none, s)
  eat_eq : ∀ count : Nat, s.eat count = ([], s)
  trimFront_eq : s.trimFront = (.ok (), s)
  trimBack_eq : s.trimBack = (.ok (), s)

namespace Frame

variable {f : Frame} {g : Grammar}

theorem trimFront_of_nil (h : f.rest = []) : f.trimFront = f :=
  trimFront_eq_self (by simp [h])

theorem trimBack_of_nil (h : f.rest = []) : f.trimBack = f :=
  trimBack_eq_self (by simp [h])

theorem eat_of_nil (h : f.rest = []) (count : Nat) : f.eat count = f := by
  obtain ⟨grammar, front, _, back, matched⟩ := f
  cases h
  simp [eat]

theorem ended_of_nil (hg : f.grammar = some g) (h : f.rest = []) : f.scan.Ended := by
  refine ⟨by simp [scan, h], ?_, ?_, ?_, ?_⟩
  · rw [next_scan, next_end hg h]
  · intro count
    rw [eat_scan, eat_of_nil h, h, List.take_nil]
  · rw [trimFront_scan, trimFront_of_nil h]
  · rw [trimBack_scan, trimBack_of_nil h]

/-- At the end a step changes at most the grammar, and what it hands out is empty. -/
theorem apply_of_nil (hg : f.grammar = some g) (h : f.rest = []) (step : Scan.Step) :
    ∃ piece g', f.scan.apply step = (piece, f.scan.withGrammar (some g')) ∧
      ∀ t ∈ piece, t = [] := by
  have ended := ended_of_nil hg h
  have same : f.scan = f.scan.withGrammar (some g) := by
    rw [← hg]
    rfl
  cases step with
  | next =>
      refine ⟨none, g, ?_, by simp⟩
      rw [Scan.apply, ended.next_eq, ← same]
      rfl
  | eat count =>
      refine ⟨some [], g, ?_, by simp⟩
      rw [Scan.apply, ended.eat_eq, ← same]
  | trimFront =>
      refine ⟨none, g, ?_, by simp⟩
      rw [Scan.apply, ended.trimFront_eq, ← same]
  | trimBack =>
      refine ⟨none, g, ?_, by simp⟩
      rw [Scan.apply, ended.trimBack_eq, ← same]
  | add name regex =>
      refine ⟨none, (g.add name regex).toOption.getD g, ?_, by simp⟩
      simp [Scan.apply, hg]
  | setTrimming trimming =>
      refine ⟨none, { g with trimming }, ?_, by simp⟩
      simp [Scan.apply, hg]

theorem run_of_nil (hg : f.grammar = some g) (h : f.rest = []) (steps : List Scan.Step) :
    ∃ g', (f.scan.run steps).2 = f.scan.withGrammar (some g') ∧
      ∀ t ∈ (f.scan.run steps).1, t = [] := by
  induction steps generalizing f g with
  | nil =>
      refine ⟨g, ?_, by simp [Scan.run]⟩
      rw [← hg]
      rfl
  | cons step rest ih =>
      obtain ⟨piece, g', moved, nothing⟩ := apply_of_nil hg h step
      obtain ⟨last, reached, later⟩ := ih (f := { f with grammar := some g' }) rfl h
      refine ⟨last, ?_, ?_⟩
      · simp only [Scan.run, moved]
        exact reached
      · intro t member
        simp only [Scan.run, moved, List.mem_append, Option.mem_toList] at member
        rcases member with here | there
        · exact nothing t here
        · exact later t there

end Frame

/-- Once a scan has given the end, it gives the end for ever. Whatever is asked of it afterwards and
however its grammar changes, the window stays as it was then and nothing more is handed out of it.
-/
theorem Scan.ended_for_good {grammar : Option Grammar} {text : Text} {before : List Scan.Step}
    (ended : ((Scan.start grammar text).run before).2.next.1 = .ok none) (later : List Scan.Step) :
    let there := ((Scan.start grammar text).run before).2.next.2
    let last := (there.run later).2
    last.Ended ∧ last.pos = there.pos ∧ last.stop = there.stop ∧ last.matched = there.matched ∧
      ∀ piece ∈ (there.run later).1, piece = [] := by
  obtain ⟨f, reached, -, -⟩ := Frame.run_ledger before (Frame.ledger_start grammar text)
  rw [Frame.scan_start] at reached
  intro there last
  have isThere : there = f.next.2.scan := by simp only [there, reached, f.next_scan]
  have gives : f.next = (.ok none, f.next.2) := by
    simp only [reached, f.next_scan] at ended
    rw [← ended]
  have none_left : f.next.2.rest = [] := Frame.rest_of_end gives
  have some_grammar : ∃ g, f.next.2.grammar = some g := by
    cases hg : f.grammar with
    | none => simp [Frame.next, hg] at gives
    | some g => exact ⟨g, f.next_kept.2.trans hg⟩
  obtain ⟨g, hg⟩ := some_grammar
  obtain ⟨g', isLast, nothing⟩ := Frame.run_of_nil hg none_left later
  have stays : last = f.next.2.scan.withGrammar (some g') := by
    rw [← isLast, ← isThere]
  refine ⟨?_, ?_, ?_, ?_, ?_⟩
  · rw [stays]
    exact Frame.ended_of_nil (f := { f.next.2 with grammar := some g' }) rfl none_left
  · rw [stays, isThere]
    rfl
  · rw [stays, isThere]
    rfl
  · rw [stays, isThere]
    rfl
  · rw [isThere]
    exact nothing

/-- The blanks behind a number have been dropped. They are not scanned when trimming is off and a
type for them is added. -/
theorem Scan.ended_for_good_blanks :
    let s := Scan.start (some (Grammar.sums true)) "12  ".toList
    let later := [Scan.Step.setTrimming false, .add ['S'] [' '], .trimFront, .eat 3, .next]
    (s.run [.next]).2.next.1 = .ok none ∧
      ((s.run [.next]).2.next.2.run later).2.next.1 = .ok none ∧
      ((s.run [.next]).2.next.2.run later).2.stop = 2 := by
  intro s later
  have ended : (s.run [.next]).2.next.1 = .ok none := by decide +kernel
  have stop : (s.run [.next]).2.next.2.stop = 2 := by decide +kernel
  clear_value later
  have final := Scan.ended_for_good ended later
  simp only [s] at ended stop final ⊢
  refine ⟨ended, ?_, ?_⟩
  · rw [final.1.next_eq]
  · rw [final.2.2.1, stop]

end MaximalMunch
