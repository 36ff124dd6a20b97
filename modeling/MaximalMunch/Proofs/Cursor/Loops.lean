import MaximalMunch.Proofs.Cursor.Coherence

/-!
The loops that fill a cursor, said without a bound on their rounds: filling up to a position scans
until there is a token there or the text has ended, and reading everything does so again and again.
Both come to an end, because every token moves the front of the window, an empty match being none, and
any other reply of a scan is the last one.
-/

namespace MaximalMunch

/-- The token that a scan gives. -/
def Scan.token? (s : Scan) : Option Token := s.next.1.toOption.join

/-! ### One scan -/

namespace Frame

/-- The front of the window moves over the token and what has been trimmed before it. -/
theorem front_length_of_token {f after : Frame} {token : Token}
    (h : f.next = (.ok (some token), after)) : f.front.length < after.front.length := by
  have step := yields_next f
  rw [h] at step
  have some_chars : token.value ≠ [] := piece_ne_nil (f := f) (by rw [h]; rfl)
  obtain ⟨gap, _, front⟩ := step.front_eq
  have longer := congrArg List.length front
  simp only [Scan.piece?, Option.getD_some, List.length_append] at longer
  have value := List.length_pos_iff.mpr some_chars
  omega

end Frame

theorem Scan.pos_lt_of_token {s after : Scan} {token : Token} (inside : s.Inside)
    (h : s.next = (.ok (some token), after)) : s.pos + 1 ≤ after.pos := by
  obtain ⟨f, rfl⟩ := Frame.exists_frame inside
  rw [f.next_scan] at h
  obtain ⟨gives, rfl⟩ := Prod.mk.inj h
  have moved : f.front.length < f.next.2.front.length :=
    Frame.front_length_of_token (Prod.ext gives rfl)
  simp only [Frame.scan]
  omega

namespace Cursor

variable {c : Cursor} {scans : List Scan} {r : Except ScanError Unit × Cursor}

/-! ### The loops -/

/-- The loop that scans until there is a token at a position or the text has ended: the scans that it
makes, each as it is before the call, and how the loop comes out. -/
inductive Fills (index : Nat) : Cursor → List Scan → Except ScanError Unit × Cursor → Prop where
  | there (c : Cursor) (reached : index < c.tokens.length ∨ c.exhausted = true) :
      Fills index c [] (.ok (), c)
  | failed (c : Cursor) (error : ScanError) (missing : c.tokens.length ≤ index)
      (running : c.exhausted = false) (reply : c.scan.next.1 = .error error) :
      Fills index c [c.scan] (.error error, c.onward)
  | again (c : Cursor) (found : Option Token) (scans : List Scan)
      (r : Except ScanError Unit × Cursor) (missing : c.tokens.length ≤ index)
      (running : c.exhausted = false) (reply : c.scan.next.1 = .ok found)
      (later : Fills index c.onward scans r) : Fills index c (c.scan :: scans) r

/-- The loop that fills up to the position behind the last token until the text has ended. -/
inductive FillsAll : Cursor → List Scan → Except ScanError Unit × Cursor → Prop where
  | over (c : Cursor) (ended : c.exhausted = true) : FillsAll c [] (.ok (), c)
  | failed (c d : Cursor) (error : ScanError) (scans : List Scan) (running : c.exhausted = false)
      (fills : Fills c.tokens.length c scans (.error error, d)) :
      FillsAll c scans (.error error, d)
  | again (c d : Cursor) (scans more : List Scan) (r : Except ScanError Unit × Cursor)
      (running : c.exhausted = false) (fills : Fills c.tokens.length c scans (.ok (), d))
      (later : FillsAll d more r) : FillsAll c (scans ++ more) r

/-- The scans that filling makes, at most so many. -/
def fillScansBy (c : Cursor) (index : Nat) : Nat → List Scan
  | 0 => []
  | fuel + 1 =>
    if index < c.tokens.length || c.exhausted then []
    else match c.scan.next with
      | (.error _, _) => [c.scan]
      | (.ok none, _) => [c.scan]
      | (.ok (some token), scan) =>
        c.scan :: fillScansBy { c with scan, tokens := c.tokens ++ [token] } index fuel

def fillScans (c : Cursor) (index : Nat) : List Scan := c.fillScansBy index (c.scan.size + 1)

def allScans (c : Cursor) : List Scan := c.fillScans (c.tokens.length + c.scan.size)

theorem fillScansBy_length (c : Cursor) (index fuel : Nat) :
    (c.fillScansBy index fuel).length ≤ fuel := by
  induction fuel generalizing c with
  | zero => exact Nat.le_refl 0
  | succ fuel ih =>
      rw [fillScansBy]
      split
      · exact Nat.zero_le _
      · split
        · exact Nat.succ_le_succ (Nat.zero_le _)
        · exact Nat.succ_le_succ (Nat.zero_le _)
        · exact Nat.succ_le_succ (ih _)

/-- The loop ends before the bound on its rounds is met. -/
theorem fillBy_fills {index fuel : Nat} (enough : c.scan.size < fuel) :
    c.Fills index (c.fillScansBy index fuel) (c.fillBy index fuel) := by
  induction fuel generalizing c with
  | zero => omega
  | succ fuel ih =>
      rw [fillScansBy, fillBy]
      split
      · next there =>
          rw [Bool.or_eq_true, decide_eq_true_eq] at there
          exact .there c there
      · next open_ended =>
          have missing : c.tokens.length ≤ index := by simp_all
          have running : c.exhausted = false := by simp_all
          split
          · next e scan next =>
              have fails := Fills.failed c e missing running (by rw [next])
              simpa only [onward_of_error running next, next] using fails
          · next scan next =>
              have ends : Fills index c.onward [] (.ok (), c.onward) :=
                .there _ (.inr (by rw [onward_of_end running next]))
              have again := Fills.again c none [] _ missing running (by rw [next]) ends
              simpa only [onward_of_end running next, next] using again
          · next token scan next =>
              have smaller := Scan.size_lt_of_next next
              have later := @ih c.onward (by rw [onward_of_token running next]; simp only; omega)
              have again := Fills.again c (some token) _ _ missing running (by rw [next]) later
              simpa only [onward_of_token running next, next] using again

theorem fill_fills (c : Cursor) (index : Nat) : c.Fills index (c.fillScans index) (c.fill index) :=
  fillBy_fills (Nat.lt_succ_self _)

/-- For the position behind the last token one scan is enough, whatever its reply. -/
theorem fills_once (running : c.exhausted = false) :
    c.Fills c.tokens.length [c.scan] (c.scan.next.1.map fun _ => (), c.onward) := by
  cases next : c.scan.next with
  | mk reply scan =>
      have replied : c.scan.next.1 = reply := by rw [next]
      cases reply with
      | error e => exact .failed c e (Nat.le_refl _) running replied
      | ok found =>
          refine .again c found [] _ (Nat.le_refl _) running replied (.there _ ?_)
          cases found with
          | none => simp [onward_of_end running next]
          | some token => simp [onward_of_token running next]

/-- Filling beyond the last character goes through the rounds of the outer loop. -/
theorem Fills.all {index : Nat} (h : c.Fills index scans r)
    (beyond : c.exhausted = false → c.tokens.length + c.scan.size ≤ index) :
    c.FillsAll scans r := by
  induction h with
  | there c reached =>
      refine .over c ?_
      rcases reached with kept | ended
      · by_contra running
        have far := beyond (by simpa using running)
        omega
      · exact ended
  | failed c error missing running reply =>
      have once := fills_once running
      rw [reply] at once
      exact .failed c _ error _ running once
  | again c found scans r missing running reply later ih =>
      have once := fills_once running
      have far := beyond running
      rw [reply] at once
      refine .again c _ _ _ _ running once (ih ?_)
      cases next : c.scan.next with
      | mk gives scan =>
          rw [next] at reply
          subst reply
          cases found with
          | none => simp [onward_of_end running next]
          | some token =>
              intro _
              have smaller := Scan.size_lt_of_next next
              simp only [onward_of_token running next, List.length_append, List.length_singleton]
              omega

theorem fill_fillsAll (c : Cursor) :
    c.FillsAll c.allScans (c.fill (c.tokens.length + c.scan.size)) :=
  (c.fill_fills _).all fun _ => Nat.le_refl _

end Cursor
end MaximalMunch
