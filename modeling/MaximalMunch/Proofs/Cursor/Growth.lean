import MaximalMunch.Cursor
import MaximalMunch.Proofs.Cursor.Fill

/-!
What has been read stays read. Whatever is asked of a cursor, the tokens it has kept stay where they
are, new ones come behind them, and once the end of the text has been reached there are no new ones
and no scan fails. An answer that tells what is at a position tells what the cursor then keeps there.
-/

namespace MaximalMunch

/-- The error comes only when the text has been scanned to its end. -/
def CursorError.pastEnd : CursorError → Bool
  | .noNext | .negativeIndex _ | .indexTooLarge _ _ => true
  | .scan _ | .noPrevious => false

namespace Cursor

/-- The second cursor keeps the tokens of the first, and no others if that was at the end. -/
structure Grows (c after : Cursor) : Prop where
  kept : c.tokens <+: after.tokens
  closed : c.exhausted = true → after.tokens = c.tokens ∧ after.exhausted = true

theorem Grows.refl (c : Cursor) : c.Grows c := ⟨List.prefix_refl _, fun ended => ⟨rfl, ended⟩⟩

theorem Grows.trans {a b c : Cursor} (h : a.Grows b) (k : b.Grows c) : a.Grows c := by
  refine ⟨h.kept.trans k.kept, fun ended => ?_⟩
  obtain ⟨same, endedThere⟩ := h.closed ended
  obtain ⟨sameThere, endedLast⟩ := k.closed endedThere
  exact ⟨sameThere.trans same, endedLast⟩

/-- What the cursor knows to be at a position: a token that is kept, or the end of the text. -/
structure Shows (c : Cursor) (index : Nat) (found : Option Token) : Prop where
  there : c.tokens[index]? = found
  ended : found = none → c.exhausted = true

theorem Grows.shows {c after : Cursor} (h : c.Grows after) {index : Nat} {found : Option Token}
    (k : c.Shows index found) : after.Shows index found := by
  cases found with
  | none =>
      obtain ⟨same, ended⟩ := h.closed (k.ended rfl)
      refine ⟨?_, fun _ => ended⟩
      rw [same]
      exact k.there
  | some token =>
      refine ⟨?_, by simp⟩
      obtain ⟨inRange, here⟩ := List.getElem?_eq_some_iff.mp k.there
      obtain ⟨more, whole⟩ := h.kept
      rw [← whole, List.getElem?_append_left inRange]
      exact k.there

theorem fillBy_grows (c : Cursor) (index fuel : Nat) : c.Grows (c.fillBy index fuel).2 := by
  induction fuel generalizing c with
  | zero => exact .refl c
  | succ fuel ih =>
      rw [fillBy]
      split
      · exact .refl c
      · next missing =>
          have running : c.exhausted = false := by simp_all
          have open_ended {P : Prop} : c.exhausted = true → P := by simp [running]
          split
          · exact ⟨List.prefix_refl _, open_ended⟩
          · exact ⟨List.prefix_refl _, open_ended⟩
          · next token _ _ =>
              refine Grows.trans ⟨?_, open_ended⟩ (ih _)
              exact List.prefix_append _ _

theorem fill_of_exhausted {c : Cursor} (ended : c.exhausted = true) (index : Nat) :
    c.fill index = (.ok (), c) := by
  rw [fill, fillBy]
  simp [ended]

/-! ### How an operation comes out -/

/-- The operation has kept what was known. An answer is borne out by the cursor after it, and at the
end of the text no scan fails. -/
structure Reads {α : Type} (c : Cursor) (shown : α → Cursor → Prop)
    (r : Except CursorError α × Cursor) : Prop where
  inside : r.2.scan.Inside
  grows : c.Grows r.2
  answer : ∀ a, r.1 = .ok a → shown a r.2
  refusal : ∀ e, r.1 = .error e → e.pastEnd = true → r.2.exhausted = true
  calm : c.exhausted = true → ∀ e, r.1 ≠ .error (.scan e)

variable {α β : Type} {c d : Cursor} {shown : α → Cursor → Prop} {shown' : β → Cursor → Prop}

theorem reads_move (inside : c.scan.Inside) (active : Nat) :
    c.Reads (fun (_ : Unit) _ => True) (.ok (), { c with active }) :=
  ⟨inside, ⟨List.prefix_refl _, fun ended => ⟨rfl, ended⟩⟩, by simp, by simp, by simp⟩

/-- The operation goes on with what another one has left. -/
theorem Reads.andThen {a : α} {r : Except CursorError β × Cursor} (h : c.Reads shown (.ok a, d))
    (k : d.Reads shown' r) : c.Reads shown' r :=
  ⟨k.inside, h.grows.trans k.grows, k.answer, k.refusal,
    fun ended => k.calm (h.grows.closed ended).2⟩

theorem Reads.fail {e : CursorError} (h : c.Reads shown (.error e, d)) :
    c.Reads shown' (.error e, d) :=
  ⟨h.inside, h.grows, by simp,
    fun _ failed => h.refusal _ (congrArg Except.error (Except.error.inj failed)),
    fun ended _ failed => h.calm ended _ (congrArg Except.error (Except.error.inj failed))⟩

theorem Reads.answers {a : α} (h : c.Reads shown (.ok a, d)) {b : β} (borne : shown' b d) :
    c.Reads shown' (.ok b, d) := by
  refine ⟨h.inside, h.grows, ?_, by simp, by simp⟩
  rintro _ ⟨⟩
  exact borne

theorem Reads.refuses {a : α} (h : c.Reads shown (.ok a, d)) {e : CursorError}
    (noScan : ∀ failed, e ≠ .scan failed) (borne : e.pastEnd = true → d.exhausted = true) :
    c.Reads shown' (.error e, d) := by
  refine ⟨h.inside, h.grows, by simp, ?_, ?_⟩
  · rintro _ ⟨⟩
    exact borne
  · rintro _ failed ⟨⟩
    exact noScan failed rfl

/-- At the end of the text the cursor stays there. -/
theorem Reads.atEnd {r : Except CursorError α × Cursor} (ended : c.exhausted = true)
    (h : c.Reads shown r) : c.Reads (fun a d => shown a d ∧ d.exhausted = true) r :=
  ⟨h.inside, h.grows, fun a ha => ⟨h.answer a ha, (h.grows.closed ended).2⟩, h.refusal, h.calm⟩

/-! ### The operations -/

/-- What is made of a filled cursor holds of every cursor that may come out of filling. -/
theorem reads_of_filled {index : Nat} (a : Cursor → α)
    (borne : ∀ after, c.Agrees after → index < after.tokens.length ∨ after.exhausted = true →
      shown (a after) after) {filled : Except ScanError Unit × Cursor} :
    c.Filled index filled → c.Grows filled.2 → (c.exhausted = true → filled = (.ok (), c)) →
      c.Reads shown
        (match filled with
          | (.error e, c) => (.error (.scan e), c)
          | (.ok _, c) => (.ok (a c), c)) := by
  intro outcome grows calm
  cases outcome with
  | reached after agrees there =>
      refine ⟨agrees.inside, grows, ?_, by simp, by simp⟩
      rintro _ ⟨⟩
      exact borne after agrees there
  | failed e after agrees short stuck =>
      refine ⟨agrees.inside, grows, by simp, ?_, ?_⟩
      · rintro _ ⟨⟩ past
        contradiction
      · intro ended
        cases calm ended

theorem read_reads (inside : c.scan.Inside) (index : Nat) :
    c.Reads (fun found d => d.Shows index found ∧ d.active = c.active) (c.read index) := by
  refine reads_of_filled (fun d => d.tokens[index]?) ?_ (fill_filled inside index)
    (c.fillBy_grows index _) fun ended => fill_of_exhausted ended index
  intro after agrees there
  refine ⟨⟨rfl, fun missing => ?_⟩, agrees.active⟩
  rcases there with kept | ended
  · rw [List.getElem?_eq_getElem kept] at missing
    contradiction
  · exact ended

theorem all_reads (inside : c.scan.Inside) :
    c.Reads (fun tokens d => d.tokens = tokens ∧ d.exhausted = true) c.all := by
  refine reads_of_filled (fun d => d.tokens) ?_ (fill_filled inside _) (c.fillBy_grows _ _)
    fun ended => fill_of_exhausted ended _
  intro after agrees there
  exact ⟨rfl, agrees.exhausted there⟩

theorem activeToken_reads (inside : c.scan.Inside) :
    c.Reads (fun found d => d.Shows d.active found) c.activeToken := by
  have read := read_reads inside c.active
  refine ⟨read.inside, read.grows, ?_, read.refusal, read.calm⟩
  intro found given
  obtain ⟨here, active⟩ := read.answer found given
  rw [activeToken, active]
  exact here

theorem stepBack_reads (inside : c.scan.Inside) : c.Reads (fun _ _ => True) c.stepBack := by
  rw [stepBack]
  split
  · exact (reads_move inside c.active).refuses (by simp) (by simp [CursorError.pastEnd])
  · exact (reads_move inside _).answers trivial

theorem stepForward_reads (inside : c.scan.Inside) :
    c.Reads (fun _ _ => True) c.stepForward := by
  have here := activeToken_reads inside
  rw [stepForward]
  generalize c.activeToken = r at here ⊢
  obtain ⟨answer, d⟩ := r
  cases answer with
  | error e => exact here.fail
  | ok found =>
      cases found with
      | none => exact here.refuses (by simp) fun _ => (here.answer none rfl).ended rfl
      | some token =>
          have there := here.andThen (read_reads here.inside (d.active + 1))
          simp only
          generalize d.read (d.active + 1) = r at there ⊢
          obtain ⟨answer, after⟩ := r
          cases answer with
          | error e => exact there.fail
          | ok following => exact there.andThen ((reads_move there.inside _).answers trivial)

/-- Reading the active token after a move. -/
theorem Reads.activeToken {r : Except CursorError Unit × Cursor} :
    c.Reads (fun _ _ => True) r →
      c.Reads (fun found d => d.Shows d.active found)
        (match r with
          | (.error e, c) => (.error e, c)
          | (.ok _, c) => c.activeToken) := by
  intro h
  obtain ⟨answer, d⟩ := r
  cases answer with
  | error e => exact h.fail
  | ok _ => exact h.andThen (activeToken_reads h.inside)

theorem previousToken_reads (inside : c.scan.Inside) :
    c.Reads (fun found d => d.Shows d.active found) c.previousToken :=
  (stepBack_reads inside).activeToken

theorem nextToken_reads (inside : c.scan.Inside) :
    c.Reads (fun found d => d.Shows d.active found) c.nextToken :=
  (stepForward_reads inside).activeToken

theorem hasNext_reads (inside : c.scan.Inside) :
    c.Reads (fun value d => value = false → d.exhausted = true) c.hasNext := by
  have here := activeToken_reads inside
  rw [hasNext]
  generalize c.activeToken = r at here ⊢
  obtain ⟨answer, d⟩ := r
  cases answer with
  | error e => exact here.fail
  | ok found =>
      cases found with
      | none => exact here.answers fun _ => (here.answer none rfl).ended rfl
      | some token =>
          have there := here.andThen (nextToken_reads here.inside)
          simp only
          generalize d.nextToken = r at there ⊢
          obtain ⟨answer, after⟩ := r
          cases answer with
          | error e => exact there.fail
          | ok following =>
              refine there.andThen ((reads_move there.inside _).answers fun missing => ?_)
              exact (there.answer following rfl).ended (by simpa using missing)

theorem firstToken_reads (inside : c.scan.Inside) :
    c.Reads (fun found d => d.Shows d.active found) c.firstToken :=
  (reads_move inside 0).andThen (activeToken_reads inside)

theorem lastToken_reads (inside : c.scan.Inside) :
    c.Reads (fun found d => d.Shows d.active found ∧ d.exhausted = true) c.lastToken := by
  have all := all_reads inside
  rw [lastToken]
  generalize c.all = r at all ⊢
  obtain ⟨answer, d⟩ := r
  cases answer with
  | error e => exact all.fail
  | ok tokens =>
      obtain ⟨same, ended⟩ := all.answer tokens rfl
      cases tokens with
      | nil =>
          refine all.answers ⟨⟨?_, fun _ => ended⟩, ended⟩
          simp only at same
          simp [same]
      | cons first rest =>
          have moved := reads_move all.inside ((first :: rest).length - 1)
          exact all.andThen (moved.andThen ((activeToken_reads moved.inside).atEnd ended))

theorem tokenAt_reads (inside : c.scan.Inside) (index : Int) :
    c.Reads (fun token d => d.Shows index.toNat (some token) ∧ d.exhausted = true)
      (c.tokenAt index) := by
  have all := all_reads inside
  rw [tokenAt]
  generalize c.all = r at all ⊢
  obtain ⟨answer, d⟩ := r
  cases answer with
  | error e => exact all.fail
  | ok tokens =>
      obtain ⟨same, ended⟩ := all.answer tokens rfl
      simp only at same ended ⊢
      split
      · exact all.refuses (by simp) fun _ => ended
      · cases here : tokens[index.toNat]? with
        | none => exact all.refuses (by simp) fun _ => ended
        | some token => exact all.answers ⟨⟨by rw [same, here], fun _ => ended⟩, ended⟩

/-! ### Walks -/

theorem walk_reads (inside : c.scan.Inside) (w : Walk) :
    c.Reads (fun found d => w.finished = false → d.Shows w.position found)
      ((w.next c).1, (w.next c).2.2) := by
  have here := read_reads inside w.position
  rw [Walk.next]
  split
  · next finished => exact (reads_move inside c.active).answers (by simp [finished])
  · generalize c.read w.position = r at here ⊢
    obtain ⟨answer, d⟩ := r
    cases answer with
    | error e => exact here.fail
    | ok found =>
        obtain ⟨there, _⟩ := here.answer found rfl
        cases found with
        | none => exact here.answers fun _ => there
        | some token => exact here.answers fun _ => there

/-- A walk that is followed for long enough gives all that lies ahead of it. -/
theorem collectBy_reads (inside : c.scan.Inside) {w : Walk} (going : w.finished = false) {fuel : Nat}
    (enough : c.whole.tokens.length - w.position < fuel) :
    c.Reads (fun tokens d => d.tokens.drop w.position = tokens ∧ d.exhausted = true)
      (w.collectBy c fuel) := by
  -- On the fuel: a read leaves the whole as it was, so at each step one token fewer lies ahead.
  induction fuel generalizing c w with
  | zero => omega
  | succ fuel ih =>
      have agrees := (read_eq inside w.position).2
      have here := read_reads inside w.position
      rw [Walk.collectBy, Walk.next, going]
      simp only [Bool.false_eq_true, if_false]
      generalize c.read w.position = r at agrees here ⊢
      obtain ⟨answer, d⟩ := r
      cases answer with
      | error e => exact here.fail
      | ok found =>
          obtain ⟨there, _⟩ := here.answer found rfl
          cases found with
          | none =>
              refine here.answers ⟨?_, there.ended rfl⟩
              exact List.drop_eq_nil_of_le (List.getElem?_eq_none_iff.mp there.there)
          | some token =>
              obtain ⟨kept, _⟩ := List.getElem?_eq_some_iff.mp there.there
              have more : d.whole.tokens.length - (w.position + 1) < fuel := by
                have some_kept := d.tokens_length_le_whole
                rw [agrees.whole] at some_kept ⊢
                simp only at kept
                omega
              have later := @ih d here.inside ⟨w.position + 1, false⟩ rfl more
              simp only
              generalize Walk.collectBy ⟨w.position + 1, false⟩ d fuel = r at later ⊢
              obtain ⟨answer, after⟩ := r
              cases answer with
              | error e => exact (here.andThen later).fail
              | ok tokens =>
                  obtain ⟨ahead, ended⟩ := later.answer tokens rfl
                  obtain ⟨inRange, first⟩ :=
                    List.getElem?_eq_some_iff.mp (later.grows.shows there).there
                  refine (here.andThen later).answers ⟨?_, ended⟩
                  simp only at ahead inRange first ⊢
                  rw [List.drop_eq_getElem_cons inRange, first, ahead]

theorem collect_reads (inside : c.scan.Inside) :
    c.Reads (fun tokens d => d.tokens = tokens ∧ d.exhausted = true) c.collect := by
  have few := c.whole_length_le
  refine @collectBy_reads c inside Walk.start rfl _ ?_
  simp only [Walk.start]
  omega

end Cursor
end MaximalMunch
