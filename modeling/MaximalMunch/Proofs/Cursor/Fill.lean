import MaximalMunch.Cursor
import MaximalMunch.Proofs.Scan.Complete

/-!
What a cursor knows and what it will know. The tokens it has kept and those it has still to scan make
up a whole that no reading changes, and reading a position is reading that whole. The bounded loop
that fills the cursor therefore never runs out of rounds before it is through.
-/

namespace MaximalMunch
namespace Scan.Completion

/-- The token at a position; behind the last one there is the end or the error. -/
def read (w : Completion) (index : Nat) : Except CursorError (Option Token) :=
  match w.tokens[index]? with
  | some token => .ok (some token)
  | none =>
    match w.stop with
    | .ok _ => .ok none
    | .error e => .error (.scan e)

def all (w : Completion) : Except CursorError (List Token) :=
  match w.stop with
  | .ok _ => .ok w.tokens
  | .error e => .error (.scan e)

theorem all_cons (token : Token) (w : Completion) :
    all ⟨token :: w.tokens, w.stop⟩ = w.all.map (token :: ·) := by
  obtain ⟨tokens, stop⟩ := w
  cases stop <;> rfl

end Scan.Completion

namespace Cursor

/-- The tokens kept, and all that a complete scan adds to them. -/
def whole (c : Cursor) : Scan.Completion :=
  if c.exhausted then ⟨c.tokens, .ok ()⟩
  else ⟨c.tokens ++ c.scan.complete.tokens, c.scan.complete.stop⟩

/-- The second cursor differs from the first at most in how far it has scanned. -/
structure Agrees (c after : Cursor) : Prop where
  whole : after.whole = c.whole
  active : after.active = c.active
  grammar : after.grammar = c.grammar
  text : after.text = c.text
  inside : after.scan.Inside

theorem Agrees.refl {c : Cursor} (inside : c.scan.Inside) : c.Agrees c :=
  ⟨rfl, rfl, rfl, rfl, inside⟩

theorem Agrees.trans {a b c : Cursor} (h : a.Agrees b) (k : b.Agrees c) : a.Agrees c :=
  ⟨k.whole.trans h.whole, k.active.trans h.active, k.grammar.trans h.grammar,
    k.text.trans h.text, k.inside⟩

/-- How filling up to a position can come out. -/
inductive Filled (c : Cursor) (index : Nat) : Except ScanError Unit × Cursor → Prop where
  | reached (after : Cursor) (agrees : c.Agrees after)
      (there : index < after.tokens.length ∨ after.exhausted = true) :
      Filled c index (.ok (), after)
  | failed (e : ScanError) (after : Cursor) (agrees : c.Agrees after)
      (short : after.tokens.length ≤ index) (stuck : after.whole = ⟨after.tokens, .error e⟩) :
      Filled c index (.error e, after)

theorem Filled.of_agrees {c middle : Cursor} {index : Nat}
    {r : Except ScanError Unit × Cursor} (h : c.Agrees middle) (k : middle.Filled index r) :
    c.Filled index r := by
  cases k with
  | reached after agrees there => exact .reached after (h.trans agrees) there
  | failed e after agrees short stuck => exact .failed e after (h.trans agrees) short stuck

/-- A round of the loop changes nothing but what has been scanned. -/
theorem agrees_of_next {c : Cursor} {f : Frame} (hf : f.scan = c.scan) (tokens : List Token)
    (exhausted : Bool)
    (same : Cursor.whole { c with scan := f.next.2.scan, tokens, exhausted } = c.whole) :
    c.Agrees { c with scan := f.next.2.scan, tokens, exhausted } := by
  have kept := f.next_kept
  refine ⟨same, rfl, ?_, ?_, f.next.2.scan_inside⟩
  · simp only [grammar, ← hf]
    exact kept.2
  · simp only [text, ← hf]
    exact kept.1

theorem agrees_token {c : Cursor} {f after : Frame} {token : Token} (hf : f.scan = c.scan)
    (running : c.exhausted = false) (h : f.next = (.ok (some token), after)) :
    c.Agrees { c with scan := after.scan, tokens := c.tokens ++ [token] } := by
  have step := f.complete_scan
  have agrees := agrees_of_next hf (c.tokens ++ [token]) c.exhausted
  rw [h] at step agrees
  exact agrees (by simp [whole, running, ← hf, step])

theorem agrees_end {c : Cursor} {f after : Frame} (hf : f.scan = c.scan)
    (running : c.exhausted = false) (h : f.next = (.ok none, after)) :
    c.Agrees { c with scan := after.scan, exhausted := true } := by
  have step := f.complete_scan
  have agrees := agrees_of_next hf c.tokens true
  rw [h] at step agrees
  exact agrees (by simp [whole, running, ← hf, step])

/-- A failing round can be repeated, so what is still to come stays the same error. -/
theorem agrees_error {c : Cursor} {f after : Frame} {e : ScanError} (hf : f.scan = c.scan)
    (running : c.exhausted = false) (h : f.next = (.error e, after)) :
    c.Agrees { c with scan := after.scan } ∧
      Cursor.whole { c with scan := after.scan } = ⟨c.tokens, .error e⟩ := by
  have failing : f.next.1 = .error e := by rw [h]
  have repeated : after.next = (.error e, after) := by
    simpa only [h] using Frame.next_of_error failing
  have step := f.complete_scan
  have again := after.complete_scan
  have agrees := agrees_of_next hf c.tokens c.exhausted
  rw [h] at step agrees
  rw [repeated] at again
  constructor
  · exact agrees (by simp [whole, running, ← hf, step, again])
  · simp [whole, running, again]

theorem fillBy_filled {c : Cursor} {index fuel : Nat} (inside : c.scan.Inside)
    (enough : c.scan.size < fuel) : c.Filled index (c.fillBy index fuel) := by
  induction fuel generalizing c with
  | zero => omega
  | succ fuel ih =>
      rw [fillBy]
      split
      · next there =>
          refine .reached c (.refl inside) ?_
          simpa using there
      · next missing =>
          have running : c.exhausted = false := by simp_all
          have short : c.tokens.length ≤ index := by simp_all
          obtain ⟨f, hf⟩ := Frame.exists_frame inside
          rw [← hf, f.next_scan]
          rw [← hf, f.scan_size] at enough
          cases h : f.next with
          | mk result after =>
              cases result with
              | error e =>
                  obtain ⟨agrees, stuck⟩ := agrees_error hf running h
                  exact .failed e _ agrees short stuck
              | ok found =>
                  cases found with
                  | none => exact .reached _ (agrees_end hf running h) (.inr rfl)
                  | some token =>
                      have shorter := Frame.rest_length_lt_of_next h
                      refine .of_agrees (agrees_token hf running h) (ih after.scan_inside ?_)
                      rw [after.scan_size]
                      omega

theorem fill_filled {c : Cursor} (inside : c.scan.Inside) (index : Nat) :
    c.Filled index (c.fill index) :=
  fillBy_filled inside (Nat.lt_succ_self _)

theorem whole_of_exhausted {c : Cursor} (h : c.exhausted = true) : c.whole = ⟨c.tokens, .ok ()⟩ := by
  rw [whole, if_pos h]

theorem whole_getElem? {c : Cursor} {index : Nat} (h : index < c.tokens.length) :
    c.whole.tokens[index]? = c.tokens[index]? := by
  rw [whole]
  split
  · rfl
  · exact List.getElem?_append_left h

/-- Reading a position reads the whole, and changes it no more than filling does. -/
theorem read_eq {c : Cursor} (inside : c.scan.Inside) (index : Nat) :
    (c.read index).1 = c.whole.read index ∧ c.Agrees (c.read index).2 := by
  have filled := fill_filled inside index
  rw [read]
  generalize c.fill index = r at filled ⊢
  cases filled with
  | reached after agrees there =>
      refine ⟨?_, agrees⟩
      rw [← agrees.whole, Scan.Completion.read]
      rcases there with kept | exhausted
      · have here := List.getElem?_eq_getElem kept
        simp only [whole_getElem? kept, here]
      · rw [whole_of_exhausted exhausted]
        cases here : after.tokens[index]? <;> simp only [here]
  | failed e after agrees short stuck =>
      refine ⟨?_, agrees⟩
      rw [← agrees.whole, Scan.Completion.read, stuck]
      simp [short]

theorem tokens_length_le_whole (c : Cursor) : c.tokens.length ≤ c.whole.tokens.length := by
  rw [whole]
  split
  · exact Nat.le_refl _
  · simp

theorem whole_length_le (c : Cursor) :
    c.whole.tokens.length ≤ c.tokens.length + c.scan.size := by
  rw [whole]
  split
  · exact Nat.le_add_right _ _
  · have bound := c.scan.tokens_length_le_size
    simp only [List.length_append]
    omega

/-- No token lies at the position that reading everything asks for. -/
theorem Agrees.exhausted {c after : Cursor} (agrees : c.Agrees after)
    (there : c.tokens.length + c.scan.size < after.tokens.length ∨ after.exhausted = true) :
    after.exhausted = true := by
  rcases there with kept | exhausted
  · have few := c.whole_length_le
    have some_kept := after.tokens_length_le_whole
    rw [agrees.whole] at some_kept
    omega
  · exact exhausted

theorem all_eq {c : Cursor} (inside : c.scan.Inside) :
    c.all.1 = c.whole.all ∧ c.Agrees c.all.2 := by
  have filled := fill_filled inside (c.tokens.length + c.scan.size)
  rw [all]
  generalize c.fill (c.tokens.length + c.scan.size) = r at filled ⊢
  cases filled with
  | reached after agrees there =>
      refine ⟨?_, agrees⟩
      rw [← agrees.whole, whole_of_exhausted (agrees.exhausted there)]
      rfl
  | failed e after agrees short stuck =>
      refine ⟨?_, agrees⟩
      rw [← agrees.whole, stuck]
      rfl

theorem start_whole (grammar : Option Grammar) (text : Text) :
    (start grammar text).whole = (Scan.start grammar text).complete := by
  simp [whole, start]

end Cursor

/-- The tokens of a text are those of its complete scan. -/
theorem tokenize_eq_complete (grammar : Option Grammar) (text : Text) :
    tokenize grammar text = (Scan.start grammar text).complete.all := by
  rw [tokenize, (Cursor.all_eq (Frame.start_inside grammar text)).1, Cursor.start_whole]

end MaximalMunch
