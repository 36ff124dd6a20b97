import MaximalMunch.Proofs.Cursor.Loops

/-!
Scans made one after another, whatever is done with the cursor in between. The tokens kept since a new
scan are those that the scans have given, each of them takes up some place of the text, and the end of
the text is told by the last scan or by none.
-/

namespace MaximalMunch

namespace Scan

/-- The scan tells the end of the text. -/
def ends (s : Scan) : Bool := s.next.1.toOption = some none

/-- A token moves the position. -/
def Progresses (s : Scan) : Prop :=
  ∀ token after, s.next = (.ok (some token), after) → s.pos + 1 ≤ after.pos

theorem progresses {s : Scan} (inside : s.Inside) : s.Progresses :=
  fun _ _ => pos_lt_of_token inside

theorem Inside.pos_le_next {s : Scan} (inside : s.Inside) : s.pos ≤ s.next.2.pos := by
  obtain ⟨f, rfl⟩ := Frame.exists_frame inside
  obtain ⟨gap, _, front⟩ := (Frame.yields_next f).front_eq
  have longer := congrArg List.length front
  simp only [List.length_append] at longer
  rw [f.next_scan]
  simp only [Frame.scan]
  omega

theorem Inside.text_next {s : Scan} (inside : s.Inside) : s.next.2.text = s.text := by
  obtain ⟨f, rfl⟩ := Frame.exists_frame inside
  rw [f.next_scan]
  exact f.next_kept.1

/-- Scans that pass over a text once. -/
structure PassOnce (text : Text) (scans : List Scan) : Prop where
  progresses : ∀ s ∈ scans, s.Progresses
  tokens_le : (scans.filterMap token?).length ≤ text.length
  ends_le : scans.countP ends ≤ 1
  last : ∀ before s rest, scans = before ++ s :: rest → s.ends = true → rest = []

end Scan

namespace Cursor

variable {c d e : Cursor} {scans more : List Scan}

/-! ### Scanning and moving -/

/-- The second cursor is the first after these scans, none of them made after the end of the text. In
between the cursor may be moved and its grammar changed. -/
inductive Made (c : Cursor) : List Scan → Cursor → Prop where
  | still : Made c [] c
  | moved (scans : List Scan) (d : Cursor) (before : Made c scans d) (active : Nat) :
      Made c scans { d with active }
  | changed (scans : List Scan) (d : Cursor) (before : Made c scans d) (grammar : Option Grammar) :
      Made c scans (d.changeGrammar grammar)
  | scanned (scans : List Scan) (d : Cursor) (before : Made c scans d)
      (running : d.exhausted = false) : Made c (scans ++ [d.scan]) d.onward

theorem Made.trans (h : c.Made scans d) (k : d.Made more e) : c.Made (scans ++ more) e := by
  induction k with
  | still => simpa using h
  | moved _ _ _ active ih => exact .moved _ _ ih active
  | changed _ _ _ grammar ih => exact .changed _ _ ih grammar
  | scanned _ _ _ running ih =>
      rw [← List.append_assoc]
      exact .scanned _ _ ih running

theorem made_once (running : c.exhausted = false) : c.Made [c.scan] c.onward :=
  .scanned [] c .still running

theorem made_move (c : Cursor) (active : Nat) : c.Made [] { c with active } :=
  .moved [] c .still active

theorem Fills.made {index : Nat} {r : Except ScanError Unit × Cursor} (h : c.Fills index scans r) :
    c.Made scans r.2 := by
  induction h with
  | there c reached => exact .still
  | failed c error missing running reply => exact made_once running
  | again c found scans r missing running reply later ih => exact (made_once running).trans ih

theorem Made.inside (h : c.Made scans d) (inside : c.scan.Inside) :
    d.scan.Inside ∧ ∀ s ∈ scans, s.Inside := by
  induction h with
  | still => exact ⟨inside, by simp⟩
  | moved _ _ _ _ ih => exact ih
  | changed _ _ _ grammar ih =>
      obtain ⟨there, all⟩ := ih
      exact ⟨there.withGrammar grammar, all⟩
  | scanned scans d _ _ ih =>
      obtain ⟨there, all⟩ := ih
      refine ⟨((onward_round there).agrees there).inside, fun s member => ?_⟩
      rcases List.mem_append.mp member with old | new
      · exact all s old
      · rw [List.mem_singleton.mp new]
        exact there

/-! ### Since a new scan -/

/-- What these scans have made of a new cursor over this text. -/
structure Accounts (text : Text) (scans : List Scan) (d : Cursor) : Prop where
  inside : d.scan.Inside
  text_eq : d.scan.text = text
  tokens_eq : scans.filterMap Scan.token? = d.tokens
  tokens_le : (d.tokens.length : Int) ≤ d.scan.pos
  running : d.exhausted = false → ∀ s ∈ scans, s.ends = false
  ended : d.exhausted = true →
    ∃ before last, scans = before ++ [last] ∧ last.ends = true ∧ ∀ s ∈ before, s.ends = false

variable {text : Text}

theorem start_accounts (grammar : Option Grammar) (text : Text) :
    Accounts text [] (start grammar text) :=
  ⟨Frame.start_inside grammar text, rfl, rfl, by simp [start, Scan.start], by simp,
    by simp [start]⟩

theorem Accounts.move (h : Accounts text scans d) (active : Nat) :
    Accounts text scans { d with active } :=
  ⟨h.inside, h.text_eq, h.tokens_eq, h.tokens_le, h.running, h.ended⟩

theorem Accounts.changeGrammar (h : Accounts text scans d) (grammar : Option Grammar) :
    Accounts text scans (d.changeGrammar grammar) :=
  ⟨h.inside.withGrammar grammar, h.text_eq, h.tokens_eq, h.tokens_le, h.running, h.ended⟩

theorem Accounts.running_on (h : Accounts text scans d) (running : d.exhausted = false)
    (goes_on : d.scan.ends = false) : ∀ s ∈ scans ++ [d.scan], s.ends = false := by
  intro s member
  rcases List.mem_append.mp member with old | new
  · exact h.running running s old
  · rw [List.mem_singleton.mp new]
    exact goes_on

theorem Accounts.onward (h : Accounts text scans d) (running : d.exhausted = false) :
    Accounts text (scans ++ [d.scan]) d.onward := by
  have inside := h.inside.next
  have further := h.inside.pos_le_next
  have same := h.inside.text_next.trans h.text_eq
  have counted := h.tokens_eq
  have before := h.tokens_le
  cases next : d.scan.next with
  | mk reply after =>
      rw [next] at inside further same
      simp only at inside further same
      have given : d.scan.token? = reply.toOption.join := by rw [Scan.token?, next]
      have tells : d.scan.ends = decide (reply.toOption = some none) := by rw [Scan.ends, next]
      cases reply with
      | error e =>
          rw [onward_of_error running next]
          refine ⟨inside, same, ?_, by simp only; omega, fun _ => ?_, by simp [running]⟩
          · simp [List.filterMap_append, counted, given, Except.toOption]
          · exact h.running_on running (by simp [tells, Except.toOption])
      | ok found =>
          cases found with
          | none =>
              rw [onward_of_end running next]
              refine ⟨inside, same, ?_, by simp only; omega, by simp, fun _ => ?_⟩
              · simp [List.filterMap_append, counted, given, Except.toOption]
              · exact ⟨scans, d.scan, rfl, by simp [tells, Except.toOption], h.running running⟩
          | some token =>
              have moved := Scan.pos_lt_of_token h.inside next
              rw [onward_of_token running next]
              refine ⟨inside, same, ?_, ?_, fun _ => ?_, by simp [running]⟩
              · simp [List.filterMap_append, counted, given, Except.toOption]
              · simp only [List.length_append, List.length_singleton]
                omega
              · exact h.running_on running (by simp [tells, Except.toOption])

theorem Made.accounts {grammar : Option Grammar} (h : (start grammar text).Made scans d) :
    Accounts text scans d := by
  induction h with
  | still => exact start_accounts grammar text
  | moved _ _ _ active ih => exact ih.move active
  | changed _ _ _ grammar ih => exact ih.changeGrammar grammar
  | scanned _ _ _ running ih => exact ih.onward running

theorem Accounts.ends_le (h : Accounts text scans d) : scans.countP Scan.ends ≤ 1 := by
  have none_of {scans : List Scan} (open_ended : ∀ s ∈ scans, s.ends = false) :
      scans.countP Scan.ends = 0 :=
    List.countP_eq_zero.mpr fun s member => by simp [open_ended s member]
  cases ended : d.exhausted with
  | false =>
      rw [none_of (h.running ended)]
      exact Nat.zero_le 1
  | true =>
      obtain ⟨before, last, rfl, tells, earlier⟩ := h.ended ended
      simp [List.countP_append, none_of earlier, tells]

theorem Accounts.last (h : Accounts text scans d) (before : List Scan) (s : Scan) (rest : List Scan)
    (split : scans = before ++ s :: rest) (tells : s.ends = true) : rest = [] := by
  cases ended : d.exhausted with
  | false =>
      have silent := h.running ended s (by simp [split])
      rw [tells] at silent
      contradiction
  | true =>
      obtain ⟨earlier, last, whole, _, silent⟩ := h.ended ended
      rcases List.eq_nil_or_concat rest with nothing | ⟨init, x, rfl⟩
      · exact nothing
      · -- The scan would be one of those before the last.
        have both : earlier ++ [last] = (before ++ s :: init) ++ [x] :=
          whole.symm.trans (split.trans (by simp))
        have same : earlier = before ++ s :: init := List.append_inj_left' both rfl
        have quiet := silent s (by simp [same])
        rw [tells] at quiet
        contradiction

theorem Accounts.tokens_length_le (h : Accounts text scans d) :
    (scans.filterMap Scan.token?).length ≤ text.length := by
  have before_stop := h.inside.pos_le_stop
  have within := h.inside.stop_le_length
  have passed := h.tokens_le
  rw [h.text_eq] at within
  rw [h.tokens_eq]
  omega

theorem Made.passOnce {grammar : Option Grammar} (h : (start grammar text).Made scans d) :
    Scan.PassOnce text scans := by
  have accounts : Accounts text scans d := h.accounts
  have insides := (h.inside (Frame.start_inside grammar text)).2
  refine ⟨?_, accounts.tokens_length_le, accounts.ends_le, accounts.last⟩
  intro s member
  exact Scan.progresses (insides s member)

end Cursor
end MaximalMunch
