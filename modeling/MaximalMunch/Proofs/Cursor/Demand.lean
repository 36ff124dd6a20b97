import MaximalMunch.Proofs.Cursor.Coherence
import MaximalMunch.Proofs.Munch

/-!
A cursor scans what it is asked for and nothing else. As long as its grammar stays the same, the tokens
that it keeps and the place of its scan depend on one number only, the most positions that any request
has asked for. So reading again what has been read, in whatever order, does not move the scan.
-/

namespace MaximalMunch

/-! ### The scan of a cursor -/

/-- The scan after so many scans. -/
def Scan.nextTimes (s : Scan) (n : Nat) : Scan := (fun s => s.next.2)^[n] s

namespace Cursor

variable {c : Cursor}

theorem onward_scan (coherent : c.Coherent) : c.onward.scan = c.scan.next.2 := by
  rw [onward]
  split
  · next ended =>
      obtain ⟨f, of⟩ := Frame.exists_frame coherent.inside
      have reached := coherent.atEnd ended
      have none_left : f.rest = [] := by
        rw [← of] at reached
        simp only [Frame.scan] at reached
        exact List.eq_nil_of_length_eq_zero (by omega)
      rw [← of, f.next_scan, Frame.next_of_nil none_left]
  · split <;> next h => rw [h]

theorem iterate_scan (coherent : c.Coherent) (n : Nat) :
    (onward^[n] c).scan = c.scan.nextTimes n := by
  induction n generalizing c with
  | zero => rfl
  | succ n ih =>
      rw [Function.iterate_succ_apply, ih (coherent.round (onward_round coherent.inside)),
        onward_scan coherent]
      rfl

theorem tokens_prefix_whole (c : Cursor) : c.tokens <+: c.whole.tokens := by
  rw [whole]
  split
  · exact List.prefix_refl _
  · exact List.prefix_append _ _

end Cursor

/-! ### The demand of a run -/

namespace Session

variable {s : Session}

/-- The most positions, from the first one on, that any of these requests asks for. -/
noncomputable def demand (s : Session) : List Request → ℕ∞
  | [] => 0
  | r :: rest => max (s.asks r) ((s.perform r).2.demand rest)

/-- None of these requests begins a new scan or changes the grammar. -/
def Steady (s : Session) : List Request → Prop
  | [] => True
  | r :: rest =>
    (r.resets = false ∧ (s.perform r).2.cursor.grammar = s.cursor.grammar) ∧
      (s.perform r).2.Steady rest

/-- Requests that only read. -/
theorem steady_of_reads (coherent : s.cursor.Coherent) {requests : List Request}
    (reads : ∀ r ∈ requests, r.resets = false ∧ ∀ grammar, r.grammar grammar = grammar) :
    s.Steady requests := by
  induction requests generalizing s with
  | nil => trivial
  | cons r rest ih =>
      obtain ⟨quiet, still⟩ := reads r List.mem_cons_self
      have same := (perform_given coherent r).2
      rw [still] at same
      exact ⟨⟨quiet, same⟩,
        ih (perform_coherent coherent r) fun r hr => reads r (List.mem_cons_of_mem _ hr)⟩

theorem after_leads (coherent : s.cursor.Coherent) {requests : List Request}
    (steady : s.Steady requests) :
    s.cursor.Leads (s.demand requests) (s.after requests).cursor := by
  induction requests generalizing s with
  | nil => exact Cursor.leads_self s.cursor
  | cons r rest ih =>
      obtain ⟨⟨quiet, still⟩, later⟩ := steady
      have step := (perform_moved coherent.inside coherent.active_le r).leads quiet still
      exact step.trans coherent.inside (ih (perform_coherent coherent r) later)

end Session

namespace Cursor

variable {c d : Cursor} {asked : ℕ∞}

theorem atMost_max_of_le {more : ℕ∞} {n : Nat} (satisfied : min more n ≤ asked) :
    atMost (max asked more) n = atMost asked n := by
  have fewer : (atMost more n : ℕ∞) ≤ atMost asked n := by
    rw [natCast_atMost, natCast_atMost]
    exact le_min satisfied (min_le_right _ _)
  rw [atMost_max, Nat.max_eq_left (Nat.cast_le.mp fewer)]

/-- What is kept, and where the scan is, after so many positions of a new scan have been asked for. -/
theorem Leads.from_start {grammar : Option Grammar} {text : Text}
    (h : (start grammar text).Leads asked d) :
    d.tokens = (Scan.start grammar text).complete.tokens.take
        (atMost asked (Scan.start grammar text).complete.tokens.length) ∧
      d.scan = (Scan.start grammar text).nextTimes
        (atMost asked ((Scan.start grammar text).complete.tokens.length + 1)) := by
  have coherent := start_coherent grammar text
  have length := h.tokens_length coherent.inside
  have whole := h.whole coherent.inside
  have none_kept : (start grammar text).tokens.length = 0 := rfl
  rw [start_whole] at whole length
  rw [none_kept, Nat.zero_max] at length
  constructor
  · have kept := List.prefix_iff_eq_take.mp d.tokens_prefix_whole
    rw [whole, length] at kept
    exact kept
  · rw [Leads] at h
    rw [h]
    simp only [reach, none_kept, Nat.sub_zero, start_whole]
    exact iterate_scan coherent _

end Cursor

namespace Session

/-- Since the last new scan, with whatever walks were begun before it, the cursor has kept as many of
the tokens as positions were asked for, and made one scan for each of them and perhaps one for the
end. Requests that ask for no more, or for more when all has been scanned, leave it there. -/
theorem scanned_on_demand (grammar : Option Grammar) (text : Text) (walks : List Walk)
    (requests : List Request) (steady : Steady ⟨Cursor.start grammar text, walks⟩ requests) :
    let s : Session := ⟨Cursor.start grammar text, walks⟩
    let tokens := (Scan.start grammar text).complete.tokens
    let d := (s.after requests).cursor
    (∃ kept scans : Nat, (kept : ℕ∞) = min (s.demand requests) tokens.length ∧
      (scans : ℕ∞) = min (s.demand requests) (tokens.length + 1) ∧
      d.tokens = tokens.take kept ∧ d.tokens.length = kept ∧
      d.scan = (Scan.start grammar text).nextTimes scans) ∧
    ∀ more, (s.after requests).Steady more →
      min ((s.after requests).demand more) (tokens.length + 1) ≤ s.demand requests →
        ((s.after requests).after more).cursor.tokens = d.tokens ∧
          ((s.after requests).after more).cursor.scan = d.scan := by
  intro s tokens d
  have coherent : s.cursor.Coherent := Cursor.start_coherent grammar text
  have leads := after_leads coherent steady
  obtain ⟨kept, scans⟩ := leads.from_start
  refine ⟨⟨_, _, Cursor.natCast_atMost _ _, ?_, kept, ?_, scans⟩, fun more steady' satisfied => ?_⟩
  · rw [Cursor.natCast_atMost, Nat.cast_succ]
  · rw [kept, List.length_take, Nat.min_eq_left (Cursor.atMost_le _ _)]
  · -- What has been asked for altogether is no more than before, as far as there is anything.
    have onward := after_leads (after_coherent coherent requests) steady'
    have further := leads.trans coherent.inside onward
    obtain ⟨kept', scans'⟩ := further.from_start
    have enough : min ((s.after requests).demand more) tokens.length ≤ s.demand requests :=
      le_trans (min_le_min_left _ le_self_add) satisfied
    rw [← Nat.cast_succ] at satisfied
    rw [Cursor.atMost_max_of_le enough] at kept'
    rw [Cursor.atMost_max_of_le satisfied] at scans'
    exact ⟨kept'.trans kept.symm, scans'.trans scans.symm⟩

/-- The active token and a step of a walk ask for one token only, so the text on which the scan will
fail is not met; and the first token is known then. -/
theorem scanned_on_demand_sums :
    let text := "12 + x".toList
    let s : Session := ⟨Cursor.start (some (Grammar.sums true)) text, [Walk.start]⟩
    let first := [Request.ask .activeToken, .advance 0]
    let again := [Request.ask .firstToken, .ask .hasPrevious]
    s.Steady first ∧ (s.after first).Steady again ∧ s.demand first = 1 ∧
      (s.after first).demand again = 1 ∧
      (∃ kept : Nat,
        kept = min (1 : ℕ∞) (Scan.start (some (Grammar.sums true)) text).complete.tokens.length ∧
        (s.after first).cursor.tokens.length = kept) ∧
      ((s.after first).after again).cursor.scan = (s.after first).cursor.scan := by
  intro text s first again
  have coherent : s.cursor.Coherent := Cursor.start_coherent _ _
  have steady : s.Steady first :=
    steady_of_reads coherent (by simp [first, Request.resets, Action.resets, Request.grammar])
  have steady' : (s.after first).Steady again :=
    steady_of_reads (after_coherent coherent first)
      (by simp [again, Request.resets, Action.resets, Request.grammar])
  have one : s.demand first = 1 := by
    simp [s, first, demand, asks, Cursor.asks, perform, Cursor.start, Walk.asks, Walk.start]
  have one' : (s.after first).demand again = 1 := by
    simp [again, demand, asks, Cursor.asks]
  -- From here on it does not matter which requests these are.
  clear_value first again
  obtain ⟨⟨kept, _, counted, _, _, length, _⟩, later⟩ :=
    scanned_on_demand (some (Grammar.sums true)) text [Walk.start] first steady
  have no_more := le_of_eq (one'.trans one.symm)
  have satisfied := later again steady' (le_trans (min_le_left _ _) no_more)
  exact ⟨steady, steady', one, one', ⟨kept, counted.trans (congrArg (min · _) one), length⟩,
    satisfied.2⟩

end Session
end MaximalMunch
