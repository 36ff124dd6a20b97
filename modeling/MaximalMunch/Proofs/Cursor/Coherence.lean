import MaximalMunch.Proofs.Cursor.Requests
import MaximalMunch.Proofs.Scan.Account

/-!
What holds of a cursor at any time. Its position is that of a kept token or right behind the last of
them, the scan has cut off as many tokens as are kept, and these lie in the text one behind another
before the window of the scan. No request breaks this, whether it is answered or refused, and the
scan is always one of the text and the grammar that were given last.
-/

namespace MaximalMunch

/-! ### Pieces of a text -/

namespace Text

/-- The pieces lie in the text one behind another, none of them empty and none beyond `limit`. -/
def Laid (text : Text) (pieces : List Text) (limit : Nat) : Prop :=
  ∃ spans : List (Nat × Nat), spans.map (fun span => (text.take span.2).drop span.1) = pieces ∧
    spans.Pairwise (fun a b => a.2 ≤ b.1) ∧ ∀ span ∈ spans, span.1 < span.2 ∧ span.2 ≤ limit

theorem laid_nil (text : Text) (limit : Nat) : Laid text [] limit :=
  ⟨[], rfl, List.Pairwise.nil, by simp⟩

theorem Laid.mono {text : Text} {pieces : List Text} {limit further : Nat}
    (h : Laid text pieces limit) (more : limit ≤ further) : Laid text pieces further := by
  obtain ⟨spans, same, ordered, within⟩ := h
  refine ⟨spans, same, ordered, fun span member => ?_⟩
  obtain ⟨proper, before⟩ := within span member
  exact ⟨proper, Nat.le_trans before more⟩

theorem Laid.concat {text : Text} {pieces : List Text} {limit : Nat} (h : Laid text pieces limit)
    (lo hi : Nat) (behind : limit ≤ lo) (proper : lo < hi) :
    Laid text (pieces ++ [(text.take hi).drop lo]) hi := by
  obtain ⟨spans, same, ordered, within⟩ := h
  refine ⟨spans ++ [(lo, hi)], ?_, ?_, ?_⟩
  · rw [List.map_append, same]
    rfl
  · refine List.pairwise_append.mpr ⟨ordered, List.pairwise_singleton _ _, ?_⟩
    intro a old b new
    rw [List.mem_singleton.mp new]
    exact Nat.le_trans (within a old).2 behind
  · intro span member
    cases List.mem_append.mp member with
    | inl old =>
        obtain ⟨shape, before⟩ := within span old
        exact ⟨shape, by omega⟩
    | inr new =>
        rw [List.mem_singleton.mp new]
        exact ⟨proper, Nat.le_refl _⟩

end Text

/-! ### One scan -/

namespace Frame

/-- A scan counts the token that it gives. -/
theorem matched_next (f : Frame) :
    f.next.2.matched = f.matched + (Scan.piece? f.next.1).toList.length := by
  cases hg : f.grammar with
  | none => simp [next, hg, Scan.piece?]
  | some g =>
      have step := next_outcome hg
      generalize f.next = after at step ⊢
      cases step with
      | ended none_left => exact matched_prepare g f
      | token p l offered left chosen => exact congrArg (· + 1) (matched_offered offered)
      | stuck left first second => exact matched_offered (.inr rfl)

theorem piece_ne_nil {f : Frame} {piece : Text} (h : Scan.piece? f.next.1 = some piece) :
    piece ≠ [] := by
  cases hg : f.grammar with
  | none => simp [next, hg, Scan.piece?] at h
  | some g =>
      have step := next_outcome hg
      generalize f.next = after at step h
      cases step with
      | ended none_left => simp [Scan.piece?] at h
      | token p l offered left chosen =>
          have some_chars := Scan.length_pos_of_longest? chosen
          have value : p.rest.take l.length = piece := Option.some.inj h
          rw [← value]
          simp [left, Nat.ne_of_gt some_chars]
      | stuck left first second => simp [Scan.piece?] at h

/-- What a scan cuts off lies behind all that was cut off before. -/
theorem laid_next {f : Frame} {pieces : List Text} (h : f.text.Laid pieces f.front.length) :
    f.text.Laid (pieces ++ (Scan.piece? f.next.1).toList) f.next.2.front.length := by
  have step := yields_next f
  obtain ⟨gap, _, front⟩ := step.front_eq
  cases found : Scan.piece? f.next.1 with
  | none =>
      rw [found] at front
      simp only [Option.toList_none, List.append_nil]
      refine h.mono ?_
      rw [front]
      simp
  | some piece =>
      rw [found] at front
      have some_chars := List.length_pos_iff.mpr (piece_ne_nil found)
      have place : (f.text.take f.next.2.front.length).drop (f.front ++ gap).length = piece := by
        rw [← step.text_eq, text, List.append_assoc, List.take_left, front, Option.getD_some,
          List.drop_left]
      have longer := congrArg List.length front
      simp only [List.length_append, Option.getD_some] at longer
      have laid := h.concat (f.front ++ gap).length f.next.2.front.length (by simp)
        (by rw [List.length_append]; omega)
      rw [place] at laid
      exact laid

end Frame

/-! ### Cursors -/

namespace Cursor

/-- What ties the parts of a cursor together. -/
structure Coherent (c : Cursor) : Prop where
  inside : c.scan.Inside
  active_le : c.active ≤ c.tokens.length
  matched_eq : c.scan.matched = c.tokens.length
  atEnd : c.exhausted = true → c.scan.stop ≤ c.scan.pos
  laid : c.scan.text.Laid (c.tokens.map (·.value)) c.scan.pos.toNat

variable {c d : Cursor}

theorem start_coherent (grammar : Option Grammar) (text : Text) : (start grammar text).Coherent :=
  ⟨Frame.start_inside grammar text, Nat.le_refl _, rfl, by simp [start], Text.laid_nil _ _⟩

theorem Coherent.move (h : c.Coherent) {active : Nat} (fits : active ≤ c.tokens.length) :
    Coherent { c with active } :=
  ⟨h.inside, fits, h.matched_eq, h.atEnd, h.laid⟩

theorem Coherent.changeGrammar (h : c.Coherent) (grammar : Option Grammar) :
    (c.changeGrammar grammar).Coherent :=
  ⟨h.inside.withGrammar grammar, h.active_le, h.matched_eq, h.atEnd, h.laid⟩

/-- The tokens kept after a scan, whether it gives one or none. -/
theorem Coherent.scanned (h : c.Coherent) {f : Frame} (of : f.scan = c.scan) (tokens : List Token)
    (exhausted : Bool)
    (kept : tokens.map (·.value) = c.tokens.map (·.value) ++ (Scan.piece? f.next.1).toList)
    (ended : exhausted = true → f.next.2.rest = []) :
    Coherent { c with scan := f.next.2.scan, tokens, exhausted } := by
  have counted := f.matched_next
  have size := congrArg List.length kept
  have active := h.active_le
  have matched := h.matched_eq
  have laid := h.laid
  simp only [List.length_append, List.length_map] at size
  rw [← of] at matched laid
  refine ⟨f.next.2.scan_inside, ?_, ?_, ?_, ?_⟩
  · simp only
    omega
  · simp only [Frame.scan_matched] at matched ⊢
    omega
  · intro reached
    simp [Frame.scan, ended reached]
  · have further := Frame.laid_next (f := f) (by simpa [Frame.scan] using laid)
    rw [← kept, ← f.next_kept.1] at further
    simpa [Frame.scan] using further

theorem Coherent.round (h : c.Coherent) (round : c.Round d) : d.Coherent := by
  cases round with
  | atEnd ended => exact h
  | failed f after e of running next =>
      have scanned := h.scanned of c.tokens c.exhausted
      rw [next] at scanned
      exact scanned (by simp [Scan.piece?]) (by simp [running])
  | ended f after of running next =>
      have scanned := h.scanned of c.tokens true
      rw [next] at scanned
      exact scanned (by simp [Scan.piece?]) fun _ => Frame.rest_of_end next
  | token f after token of running next =>
      have scanned := h.scanned of (c.tokens ++ [token]) c.exhausted
      rw [next] at scanned
      exact scanned (by simp [Scan.piece?]) (by simp [running])

theorem Coherent.reach (h : c.Coherent) (asked : ℕ∞) : (c.reach asked).Coherent := by
  rw [Cursor.reach]
  induction atMost asked (c.whole.tokens.length + 1) - c.tokens.length with
  | zero => exact h
  | succ n ih =>
      rw [Function.iterate_succ_apply']
      exact ih.round (onward_round ih.inside)

theorem Coherent.leads (h : c.Coherent) {asked : ℕ∞} (leads : c.Leads asked d)
    (fits : d.active ≤ d.tokens.length) : d.Coherent := by
  rw [Leads] at leads
  have tokens : d.tokens = (c.reach asked).tokens := by rw [leads]
  rw [tokens] at fits
  rw [leads]
  exact (h.reach asked).move fits

end Cursor

namespace Session

variable {s : Session}

theorem perform_coherent (h : s.cursor.Coherent) (r : Request) :
    (s.perform r).2.cursor.Coherent := by
  have moved := perform_moved h.inside h.active_le r
  generalize (s.perform r).2.cursor = d at moved
  cases moved with
  | renewed _ => exact Cursor.start_coherent _ _
  | changed _ _ => exact h.changeGrammar _
  | led _ _ _ leads fits => exact h.leads leads fits

theorem after_coherent (h : s.cursor.Coherent) (requests : List Request) :
    (s.after requests).cursor.Coherent := by
  induction requests generalizing s with
  | nil => exact h
  | cons r rest ih => exact ih (perform_coherent h r)

theorem perform_given (h : s.cursor.Coherent) (r : Request) :
    (s.perform r).2.cursor.text = r.text s.cursor.text ∧
      (s.perform r).2.cursor.grammar = r.grammar s.cursor.grammar :=
  (perform_moved h.inside h.active_le r).given h.inside

theorem after_given (h : s.cursor.Coherent) (requests : List Request) :
    (s.after requests).cursor.text = requests.foldl Request.text s.cursor.text ∧
      (s.after requests).cursor.grammar = requests.foldl Request.grammar s.cursor.grammar := by
  induction requests generalizing s with
  | nil => exact ⟨rfl, rfl⟩
  | cons r rest ih =>
      obtain ⟨text, grammar⟩ := perform_given h r
      rw [List.foldl_cons, List.foldl_cons, ← text, ← grammar]
      exact ih (perform_coherent h r)

/-- Whatever has been asked of a cursor, and however it was answered, its parts fit together; and its
scan is one of the text that was given last, with the grammar that was given last as it has been
changed in place since. -/
theorem coherent_of_requests (grammar : Option Grammar) (text : Text) (requests : List Request) :
    ((start grammar text).after requests).cursor.Coherent ∧
      ((start grammar text).after requests).cursor.scan.text =
        requests.foldl Request.text text ∧
      ((start grammar text).after requests).cursor.scan.grammar =
        requests.foldl Request.grammar grammar := by
  have started : (start grammar text).cursor.Coherent := Cursor.start_coherent grammar text
  exact ⟨after_coherent started requests, after_given started requests⟩

end Session
end MaximalMunch
