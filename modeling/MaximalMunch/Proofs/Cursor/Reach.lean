import Mathlib.Data.ENat.Lattice
import MaximalMunch.Proofs.Cursor.Fill

/-!
How far a cursor has scanned. Filling a cursor is scanning for it again and again, and a scan at the
end of the text or after an error changes nothing any more. So all that filling leaves behind is
decided by the number of positions asked for, and asking one time after another comes to the same as
asking once for the most of it.
-/

namespace MaximalMunch

namespace Scan

theorem Inside.next {s : Scan} (inside : s.Inside) : s.next.2.Inside := by
  obtain ⟨f, rfl⟩ := Frame.exists_frame inside
  rw [f.next_scan]
  exact f.next.2.scan_inside

end Scan

namespace Cursor

/-- The cursor after one scan more, which there is none of at the end of the text. -/
def onward (c : Cursor) : Cursor :=
  if c.exhausted then c
  else match c.scan.next with
    | (.error _, scan) => { c with scan }
    | (.ok none, scan) => { c with scan, exhausted := true }
    | (.ok (some token), scan) => { c with scan, tokens := c.tokens ++ [token] }

/-- What one scan more can make of a cursor. -/
inductive Round (c : Cursor) : Cursor → Prop where
  | atEnd (ended : c.exhausted = true) : Round c c
  | failed (f after : Frame) (e : ScanError) (of : f.scan = c.scan) (running : c.exhausted = false)
      (next : f.next = (.error e, after)) : Round c { c with scan := after.scan }
  | ended (f after : Frame) (of : f.scan = c.scan) (running : c.exhausted = false)
      (next : f.next = (.ok none, after)) :
      Round c { c with scan := after.scan, exhausted := true }
  | token (f after : Frame) (token : Token) (of : f.scan = c.scan) (running : c.exhausted = false)
      (next : f.next = (.ok (some token), after)) :
      Round c { c with scan := after.scan, tokens := c.tokens ++ [token] }

variable {c : Cursor}

theorem onward_round (inside : c.scan.Inside) : c.Round c.onward := by
  rw [onward]
  split
  · next ended => exact .atEnd ended
  · next missing =>
      have running : c.exhausted = false := by simpa using missing
      obtain ⟨f, of⟩ := Frame.exists_frame inside
      rw [← of, f.next_scan]
      cases next : f.next with
      | mk result after =>
          cases result with
          | error e => exact .failed f after e of running next
          | ok found =>
              cases found with
              | none => exact .ended f after of running next
              | some token => exact .token f after token of running next

theorem onward_of_exhausted (ended : c.exhausted = true) : c.onward = c := by
  rw [onward, if_pos ended]

theorem onward_of_error {e : ScanError} {scan : Scan} (running : c.exhausted = false)
    (h : c.scan.next = (.error e, scan)) : c.onward = { c with scan } := by
  simp [onward, running, h]

theorem onward_of_end {scan : Scan} (running : c.exhausted = false)
    (h : c.scan.next = (.ok none, scan)) : c.onward = { c with scan, exhausted := true } := by
  simp [onward, running, h]

theorem onward_of_token {token : Token} {scan : Scan} (running : c.exhausted = false)
    (h : c.scan.next = (.ok (some token), scan)) :
    c.onward = { c with scan, tokens := c.tokens ++ [token] } := by
  simp [onward, running, h]

theorem Round.agrees {d : Cursor} (inside : c.scan.Inside) (round : c.Round d) : c.Agrees d := by
  cases round with
  | atEnd ended => exact .refl inside
  | failed f after e of running next => exact (agrees_error of running next).1
  | ended f after of running next => exact agrees_end of running next
  | token f after token of running next => exact agrees_token of running next

/-- A scan adds a token as long as there is one to come. -/
theorem Round.tokens_length {d : Cursor} (inside : c.scan.Inside) (round : c.Round d) :
    d.tokens.length = min (c.tokens.length + 1) c.whole.tokens.length := by
  have whole := (round.agrees inside).whole
  cases round with
  | atEnd ended =>
      rw [whole_of_exhausted ended]
      simp
  | failed f after e of running next =>
      rw [(agrees_error of running next).2] at whole
      simp [← whole]
  | ended f after of running next =>
      rw [whole_of_exhausted rfl] at whole
      simp [← whole]
  | token f after token of running next =>
      have kept := tokens_length_le_whole
        { c with scan := after.scan, tokens := c.tokens ++ [token] }
      rw [whole] at kept
      simp only [List.length_append, List.length_singleton] at kept ⊢
      omega

/-- When all tokens are there a first scan tells that there are no more, and a second one nothing. -/
theorem Round.onward_eq {d : Cursor} (inside : c.scan.Inside) (round : c.Round d)
    (all : c.tokens.length = c.whole.tokens.length) : d.onward = d := by
  have length := round.tokens_length inside
  cases round with
  | atEnd ended => exact onward_of_exhausted ended
  | failed f after e of running next =>
      have failing : f.next.1 = .error e := by rw [next]
      have repeated : after.next = (.error e, after) := by
        simpa only [next] using Frame.next_of_error failing
      simp [onward, running, after.next_scan, repeated]
  | ended f after of running next => exact onward_of_exhausted rfl
  | token f after token of running next =>
      simp only [List.length_append, List.length_singleton] at length
      omega

theorem onward_agrees (inside : c.scan.Inside) : c.Agrees c.onward :=
  (onward_round inside).agrees inside

theorem onward_activate (c : Cursor) (active : Nat) :
    onward { c with active } = { c.onward with active } := by
  simp only [onward]
  split
  · rfl
  · split <;> rfl

/-! ### Many scans -/

theorem iterate_agrees (inside : c.scan.Inside) (n : Nat) : c.Agrees (onward^[n] c) := by
  induction n with
  | zero => exact .refl inside
  | succ n ih =>
      rw [Function.iterate_succ_apply']
      exact ih.trans (onward_agrees ih.inside)

theorem iterate_tokens_length (inside : c.scan.Inside) (n : Nat) :
    (onward^[n] c).tokens.length = min (c.tokens.length + n) c.whole.tokens.length := by
  induction n with
  | zero =>
      have kept := c.tokens_length_le_whole
      simp [kept]
  | succ n ih =>
      have before := iterate_agrees inside n
      rw [Function.iterate_succ_apply', (onward_round before.inside).tokens_length before.inside, ih,
        before.whole]
      omega

/-- There are no more scans that change anything than there are tokens to come, and one. -/
theorem iterate_settled (inside : c.scan.Inside) {n : Nat}
    (enough : c.whole.tokens.length < c.tokens.length + n) :
    (onward^[n] c).onward = onward^[n] c := by
  have kept := c.tokens_length_le_whole
  cases n with
  | zero => omega
  | succ n =>
      have before := iterate_agrees inside n
      have length := iterate_tokens_length inside n
      rw [Function.iterate_succ_apply']
      refine (onward_round before.inside).onward_eq before.inside ?_
      rw [length, before.whole]
      omega

theorem iterate_eq_of_settled (inside : c.scan.Inside) {m n : Nat}
    (enough : c.whole.tokens.length < c.tokens.length + m) (more : m ≤ n) :
    onward^[n] c = onward^[m] c := by
  obtain ⟨k, rfl⟩ := Nat.exists_eq_add_of_le more
  rw [Nat.add_comm, Function.iterate_add_apply,
    Function.iterate_fixed (iterate_settled inside enough)]

/-! ### Positions asked for -/

/-- So many of `n` positions are asked for. -/
def atMost (asked : ℕ∞) (n : Nat) : Nat :=
  match asked with
  | none => n
  | some k => min k n

@[simp] theorem atMost_natCast (k n : Nat) : atMost k n = min k n := rfl

@[simp] theorem atMost_top (n : Nat) : atMost ⊤ n = n := rfl

@[simp] theorem atMost_zero (n : Nat) : atMost 0 n = 0 := Nat.zero_min n

@[simp] theorem atMost_succ (k n : Nat) : atMost (k + 1) n = min (k + 1) n := by
  rw [← atMost_natCast]
  rfl

theorem atMost_max (asked more : ℕ∞) (n : Nat) :
    atMost (max asked more) n = max (atMost asked n) (atMost more n) := by
  cases asked with
  | top => cases more <;> simp
  | coe k =>
      cases more with
      | top => simp
      | coe m =>
          rw [← Nat.mono_cast.map_max]
          simp only [atMost_natCast]
          omega

theorem natCast_atMost (asked : ℕ∞) (n : Nat) : (atMost asked n : ℕ∞) = min asked n := by
  cases asked with
  | top => simp
  | coe k => rw [atMost_natCast, Nat.mono_cast.map_min]

theorem min_atMost_succ (asked : ℕ∞) (n : Nat) : min (atMost asked (n + 1)) n = atMost asked n := by
  cases asked with
  | top => simp
  | coe k =>
      simp only [atMost_natCast]
      omega

theorem atMost_le (asked : ℕ∞) (n : Nat) : atMost asked n ≤ n := by
  cases asked <;> simp

/-- The cursor with so many positions asked for. The position behind the last token is the last that
one can ask for. -/
def reach (c : Cursor) (asked : ℕ∞) : Cursor :=
  onward^[atMost asked (c.whole.tokens.length + 1) - c.tokens.length] c

theorem reach_agrees (inside : c.scan.Inside) (asked : ℕ∞) : c.Agrees (c.reach asked) :=
  iterate_agrees inside _

theorem reach_tokens_length (inside : c.scan.Inside) (asked : ℕ∞) :
    (c.reach asked).tokens.length =
      max c.tokens.length (atMost asked c.whole.tokens.length) := by
  have kept := c.tokens_length_le_whole
  have cut := min_atMost_succ asked c.whole.tokens.length
  rw [reach, iterate_tokens_length inside]
  omega

/-- What has been asked for is there. -/
theorem reach_eq_self {asked : ℕ∞} (there : atMost asked (c.whole.tokens.length + 1) ≤
    c.tokens.length) : c.reach asked = c := by
  rw [reach, Nat.sub_eq_zero_of_le there]
  rfl

@[simp] theorem reach_zero (c : Cursor) : c.reach 0 = c := reach_eq_self (by simp)

theorem reach_succ_of_lt {index : Nat} (there : index < c.tokens.length) :
    c.reach (index + 1) = c := by
  refine reach_eq_self ?_
  rw [atMost_succ]
  omega

theorem reach_reach (inside : c.scan.Inside) (asked more : ℕ∞) :
    (c.reach asked).reach more = c.reach (max asked more) := by
  have kept := c.tokens_length_le_whole
  have length := reach_tokens_length inside asked
  have whole := (reach_agrees inside asked).whole
  have cut := min_atMost_succ asked c.whole.tokens.length
  have bound := atMost_le more (c.whole.tokens.length + 1)
  have bound' := atMost_le asked (c.whole.tokens.length + 1)
  rw [reach, length, whole]
  simp only [reach, ← Function.iterate_add_apply, atMost_max]
  by_cases settled : atMost asked (c.whole.tokens.length + 1) ≤ c.whole.tokens.length
  · congr 2
    omega
  · -- All has been asked for, so what is asked for then changes nothing.
    have enough : c.whole.tokens.length < c.tokens.length +
        (atMost asked (c.whole.tokens.length + 1) - c.tokens.length) := by omega
    rw [iterate_eq_of_settled inside enough (by omega), max_eq_left (by omega)]

/-- Who asks for a position without a token has asked for everything. -/
theorem reach_eq_top {index : Nat} (missing : c.whole.tokens.length ≤ index) :
    c.reach (index + 1) = c.reach ⊤ := by
  rw [reach, reach, atMost_succ, atMost_top, Nat.min_eq_right (Nat.succ_le_succ missing)]

theorem reach_activate (c : Cursor) (active : Nat) (asked : ℕ∞) :
    reach { c with active } asked = { c.reach asked with active } := by
  have whole : whole { c with active } = c.whole := rfl
  simp only [reach, whole]
  induction atMost asked (c.whole.tokens.length + 1) - c.tokens.length with
  | zero => rfl
  | succ n ih => rw [Function.iterate_succ_apply', Function.iterate_succ_apply', ih, onward_activate]

theorem reach_of_exhausted (ended : c.exhausted = true) (asked : ℕ∞) : c.reach asked = c :=
  Function.iterate_fixed (onward_of_exhausted ended) _

theorem onward_eq_reach (c : Cursor) : c.onward = c.reach (c.tokens.length + 1) := by
  have kept := c.tokens_length_le_whole
  have once : atMost (c.tokens.length + 1) (c.whole.tokens.length + 1) - c.tokens.length = 1 := by
    rw [atMost_succ]
    omega
  rw [reach, once]
  rfl

/-- A scan that finds no token is as far as one gets. -/
theorem onward_eq_reach_of_none (inside : c.scan.Inside) {index : Nat}
    (missing : c.tokens.length ≤ index) (none_found : c.onward.tokens = c.tokens) :
    c.onward = c.reach (index + 1) := by
  have length := (onward_round inside).tokens_length inside
  rw [none_found] at length
  have all : c.whole.tokens.length ≤ c.tokens.length := by omega
  rw [onward_eq_reach, reach_eq_top all, reach_eq_top (Nat.le_trans all missing)]

/-- A scan for a position that is missing is one of those that reach it. -/
theorem onward_reach (inside : c.scan.Inside) {index : Nat} (missing : c.tokens.length ≤ index) :
    c.onward.reach (index + 1) = c.reach (index + 1) := by
  rw [onward_eq_reach, reach_reach inside, max_eq_right]
  exact add_le_add_left (Nat.cast_le.mpr missing) 1

/-! ### Filling and reading -/

theorem fillBy_eq_reach {index fuel : Nat} (inside : c.scan.Inside)
    (enough : c.scan.size < fuel) : (c.fillBy index fuel).2 = c.reach (index + 1) := by
  induction fuel generalizing c with
  | zero => omega
  | succ fuel ih =>
      rw [fillBy]
      split
      · next there =>
          rw [Bool.or_eq_true, decide_eq_true_eq] at there
          cases there with
          | inl kept => exact (reach_succ_of_lt kept).symm
          | inr ended => exact (reach_of_exhausted ended _).symm
      · next missing =>
          have running : c.exhausted = false := by simp_all
          have short : c.tokens.length ≤ index := by simp_all
          have kept := inside.next
          split
          · next e scan h =>
              have once := onward_of_error running h
              rw [← onward_eq_reach_of_none inside short (by rw [once]), once]
          · next scan h =>
              have once := onward_of_end running h
              rw [← onward_eq_reach_of_none inside short (by rw [once]), once]
          · next token scan h =>
              have once := onward_of_token running h
              have smaller := Scan.size_lt_of_next h
              rw [h] at kept
              rw [← onward_reach inside short, once, ih kept (by simp only; omega)]

theorem fill_eq_reach (inside : c.scan.Inside) (index : Nat) :
    (c.fill index).2 = c.reach (index + 1) :=
  fillBy_eq_reach inside (Nat.lt_succ_self _)

theorem read_eq_reach (inside : c.scan.Inside) (index : Nat) :
    c.read index = (c.whole.read index, c.reach (index + 1)) := by
  refine Prod.ext (read_eq inside index).1 ?_
  rw [← fill_eq_reach inside, read]
  split
  · next filled => rw [filled]
  · next filled => rw [filled]

theorem all_eq_reach (inside : c.scan.Inside) : c.all = (c.whole.all, c.reach ⊤) := by
  refine Prod.ext (all_eq inside).1 ?_
  rw [← reach_eq_top c.whole_length_le, ← fill_eq_reach inside, all]
  split
  · next filled => rw [filled]
  · next filled => rw [filled]

end Cursor
end MaximalMunch
