import MaximalMunch.Proofs.Cursor.Reach
import MaximalMunch.Proofs.Cursor.Session

/-!
What an action leaves of a cursor: the positions that it asks for have been scanned, and the active
position may have moved. It moves only to positions that are there, and a failing action does not move
it at all.
-/

namespace MaximalMunch

theorem error_of_answered {α σ : Type} {answer : α → Answer} {r : Except CursorError α × σ}
    {e : CursorError} (failed : (answered answer r).1 = .error e) : r.1 = .error e := by
  obtain ⟨result, s⟩ := r
  cases result with
  | error e' => simpa [answered, Except.map] using failed
  | ok a => simp [answered, Except.map] at failed

theorem Scan.Completion.read_of_lt {w : Scan.Completion} {index : Nat} (h : index < w.tokens.length) :
    w.read index = .ok (some w.tokens[index]) := by
  simp only [read, List.getElem?_eq_getElem h]

theorem Scan.Completion.read_of_le {w : Scan.Completion} {index : Nat}
    (h : w.tokens.length ≤ index) :
    w.read index = .ok none ∨ ∃ e, w.read index = .error (.scan e) := by
  rw [read, List.getElem?_eq_none h]
  cases w.stop with
  | error e => exact .inr ⟨e, rfl⟩
  | ok _ => exact .inl rfl

theorem Scan.Completion.lt_of_read {w : Scan.Completion} {index : Nat} {token : Token}
    (h : w.read index = .ok (some token)) : index < w.tokens.length := by
  by_contra missing
  cases read_of_le (Nat.le_of_not_lt missing) with
  | inl ended => simp [ended] at h
  | inr failed =>
      obtain ⟨e, failed⟩ := failed
      simp [failed] at h

namespace Eager

/-- The eager cursor that stands where this one does. -/
def of (c : Cursor) : Eager := ⟨c.grammar, c.text, c.whole, c.active⟩

variable {m : Eager} {e : CursorError}

theorem stepBack_index_le (m : Eager) : m.stepBack.2.index ≤ m.index := by
  rw [stepBack]
  split
  · exact Nat.le_refl _
  · exact Nat.sub_le _ _

theorem stepForward_of_ok (done : m.stepForward.1 = .ok ()) :
    (∃ token, m.whole.read m.index = .ok (some token)) ∧
      m.stepForward.2 = { m with index := m.index + 1 } := by
  rw [stepForward] at done ⊢
  cases here : m.whole.read m.index with
  | error e => simp [here] at done
  | ok found =>
      cases found with
      | none => simp [here] at done
      | some token =>
          refine ⟨⟨token, rfl⟩, ?_⟩
          cases there : m.whole.read (m.index + 1) with
          | error e => simp [here, there] at done
          | ok following => rfl

/-- There is a token right before a position that is not beyond the end. -/
theorem readAfter_stepBack (fits : m.index ≤ m.whole.tokens.length) (h : m.index ≠ 0) :
    readAfter m.stepBack =
      (.ok m.whole.tokens[m.index - 1]?, { m with index := m.index - 1 }) := by
  have there : m.index - 1 < m.whole.tokens.length := by omega
  rw [stepBack, if_neg h]
  simp only [readAfter, activeToken, Scan.Completion.read_of_lt there,
    List.getElem?_eq_getElem there]

theorem stepForward_of_error (failed : m.stepForward.1 = .error e) : m.stepForward.2 = m := by
  rw [stepForward] at failed ⊢
  cases here : m.whole.read m.index with
  | error e' => rfl
  | ok found =>
      cases found with
      | none => rfl
      | some token =>
          cases there : m.whole.read (m.index + 1) with
          | error e' => rfl
          | ok following => simp [here, there] at failed

theorem readAfter_stepForward_of_error (failed : (readAfter m.stepForward).1 = .error e) :
    (readAfter m.stepForward).2 = m := by
  cases here : m.whole.read m.index with
  | error e' => simp [readAfter, stepForward, here]
  | ok found =>
      cases found with
      | none => simp [readAfter, stepForward, here]
      | some token =>
          rw [Cursor.readAfter_stepForward here] at failed ⊢
          split at failed
          · rfl
          · contradiction

theorem lastToken_of_error (failed : m.lastToken.1 = .error e) : m.lastToken.2 = m := by
  rw [lastToken] at failed ⊢
  split
  · rfl
  · split
    · rfl
    · next all _ _ last => simp [all, last] at failed

/-- Errors come before any move. -/
theorem perform_index_of_error (fits : m.index ≤ m.whole.tokens.length) {a : Action}
    (failed : (m.perform a).1 = .error e) : (m.perform a).2.index = m.index := by
  cases a with
  | activeToken | hasPrevious | hasNext | tokenAt _ | allTokens => rfl
  | stepBack =>
      have refused := error_of_answered failed
      simp only [perform, answered]
      rw [stepBack] at refused ⊢
      split
      · rfl
      · next moved => simp [moved] at refused
  | stepForward => exact congrArg index (stepForward_of_error (error_of_answered failed))
  | previousToken =>
      have refused := error_of_answered failed
      simp only [perform, answered]
      by_cases first : m.index = 0
      · simp [readAfter, stepBack, first]
      · rw [readAfter_stepBack fits first] at refused
        contradiction
  | nextToken => exact congrArg index (readAfter_stepForward_of_error (error_of_answered failed))
  | firstToken =>
      -- Without a first token there is none before the active position either.
      have refused : m.whole.read 0 = .error e := error_of_answered failed
      have none_there : ¬ 0 < m.whole.tokens.length := by
        intro there
        rw [Scan.Completion.read_of_lt there] at refused
        contradiction
      simp only [perform, answered, firstToken]
      omega
  | lastToken => exact congrArg index (lastToken_of_error (error_of_answered failed))
  | reset | setText _ | setGrammar _ => contradiction

theorem readAfter_snd (r : Except CursorError Unit × Eager) : (readAfter r).2 = r.2 := by
  obtain ⟨_ | _, _⟩ := r <;> rfl

theorem lastToken_index_le (m : Eager) :
    m.lastToken.2.index ≤ max m.index m.whole.tokens.length := by
  rw [lastToken]
  split
  · exact Nat.le_max_left _ _
  · next tokens all =>
      have same : tokens = m.whole.tokens := by
        rw [Scan.Completion.all] at all
        split at all
        · exact (Except.ok.inj all).symm
        · contradiction
      split
      · exact Nat.le_max_left _ _
      · simp only [same]
        omega

/-- Apart from going to the last token, only a step forward from a token leads on. -/
theorem perform_index_le {a : Action} (quiet : a.resets = false) :
    (m.perform a).2.index ≤ m.index ∨
      ((a = .stepForward ∨ a = .nextToken) ∧ (∃ token, m.whole.read m.index = .ok (some token)) ∧
        (m.perform a).2.index = m.index + 1) ∨
      (a = .lastToken ∧ (m.perform a).2.index ≤ max m.index m.whole.tokens.length) := by
  have forward : m.stepForward.2.index ≤ m.index ∨
      ((∃ token, m.whole.read m.index = .ok (some token)) ∧
        m.stepForward.2.index = m.index + 1) := by
    cases done : m.stepForward.1 with
    | error e => exact .inl (Nat.le_of_eq (congrArg index (stepForward_of_error done)))
    | ok _ =>
        obtain ⟨present, moved⟩ := stepForward_of_ok done
        exact .inr ⟨present, congrArg index moved⟩
  cases a with
  | activeToken | hasPrevious | hasNext | tokenAt _ | allTokens => exact .inl (Nat.le_refl _)
  | stepBack => exact .inl m.stepBack_index_le
  | previousToken =>
      have same : (m.perform .previousToken).2 = m.stepBack.2 := readAfter_snd _
      rw [same]
      exact .inl m.stepBack_index_le
  | firstToken => exact .inl (Nat.zero_le _)
  | stepForward =>
      cases forward with
      | inl still => exact .inl still
      | inr moved => exact .inr (.inl ⟨.inl rfl, moved⟩)
  | nextToken =>
      have same : (m.perform .nextToken).2 = m.stepForward.2 := readAfter_snd _
      rw [same]
      cases forward with
      | inl still => exact .inl still
      | inr moved => exact .inr (.inl ⟨.inr rfl, moved⟩)
  | lastToken => exact .inr (.inr ⟨rfl, m.lastToken_index_le⟩)
  | reset | setText _ | setGrammar _ => contradiction

end Eager

namespace Cursor

variable {c d : Cursor} {asked more : ℕ∞}

theorem follows_of (inside : c.scan.Inside) : c.Follows (Eager.of c) :=
  ⟨rfl, rfl, rfl, rfl, inside⟩

/-! ### What is scanned -/

/-- How many positions, from the first one on, an action asks for. An action that reads everything
asks for all there are. -/
def asks (c : Cursor) : Action → ℕ∞
  | .activeToken => c.active + 1
  | .firstToken => 1
  | .stepForward | .nextToken | .hasNext =>
    match c.activeToken.1 with
    | .ok (some _) => (c.active + 1 : Nat) + 1
    | _ => c.active + 1
  | .lastToken | .tokenAt _ | .allTokens => ⊤
  | .hasPrevious | .stepBack | .previousToken | .reset | .setText _ | .setGrammar _ => 0

/-- The second cursor is the first with so many positions asked for, wherever it stands. -/
def Leads (c : Cursor) (asked : ℕ∞) (d : Cursor) : Prop :=
  d = { c.reach asked with active := d.active }

theorem leads_reach (c : Cursor) (asked : ℕ∞) : c.Leads asked (c.reach asked) := rfl

theorem leads_move (c : Cursor) (active : Nat) : c.Leads 0 { c with active } := by
  rw [Leads, reach_zero]

theorem Leads.move (h : c.Leads asked d) (active : Nat) : c.Leads asked { d with active } := by
  rw [Leads, h]

theorem Leads.trans (inside : c.scan.Inside) {e : Cursor} (h : c.Leads asked d)
    (k : d.Leads more e) : c.Leads (max asked more) e := by
  rw [Leads] at h k ⊢
  rw [h, reach_activate, reach_reach inside] at k
  exact k

theorem Leads.whole (inside : c.scan.Inside) (h : c.Leads asked d) : d.whole = c.whole := by
  rw [h]
  exact (reach_agrees inside asked).whole

theorem Leads.text (inside : c.scan.Inside) (h : c.Leads asked d) : d.text = c.text := by
  rw [h]
  exact (reach_agrees inside asked).text

theorem Leads.grammar (inside : c.scan.Inside) (h : c.Leads asked d) : d.grammar = c.grammar := by
  rw [h]
  exact (reach_agrees inside asked).grammar

theorem Leads.inside (inside : c.scan.Inside) (h : c.Leads asked d) : d.scan.Inside := by
  rw [h]
  exact (reach_agrees inside asked).inside

theorem Leads.tokens_length (inside : c.scan.Inside) (h : c.Leads asked d) :
    d.tokens.length = max c.tokens.length (atMost asked c.whole.tokens.length) := by
  rw [h]
  exact reach_tokens_length inside asked

theorem Leads.read (inside : c.scan.Inside) (h : c.Leads asked d) (index : Nat) :
    (d.read index).1 = c.whole.read index ∧ c.Leads (max asked (index + 1)) (d.read index).2 ∧
      (d.read index).2.active = d.active := by
  have insideD := h.inside inside
  rw [read_eq_reach insideD, h.whole inside]
  exact ⟨rfl, h.trans inside (leads_reach d _), (reach_agrees insideD _).active⟩

theorem Leads.all (inside : c.scan.Inside) (h : c.Leads asked d) :
    d.all.1 = c.whole.all ∧ c.Leads ⊤ d.all.2 ∧ d.all.2.active = d.active := by
  have insideD := h.inside inside
  have everything := h.trans inside (leads_reach d ⊤)
  rw [max_eq_right le_top] at everything
  rw [all_eq_reach insideD, h.whole inside]
  exact ⟨rfl, everything, (reach_agrees insideD _).active⟩

theorem leads_self (c : Cursor) : c.Leads 0 c := leads_move c c.active

theorem activeToken_leads (inside : c.scan.Inside) :
    c.activeToken.1 = c.whole.read c.active ∧ c.Leads (c.active + 1) c.activeToken.2 ∧
      c.activeToken.2.active = c.active := by
  have here := (leads_self c).read inside c.active
  rwa [max_eq_right zero_le] at here

theorem asks_of_token (inside : c.scan.Inside) {token : Token}
    (here : c.whole.read c.active = .ok (some token)) :
    c.asks .stepForward = (c.active + 1 : Nat) + 1 := by
  simp only [asks, (activeToken_leads inside).1, here]

theorem max_succ_succ (index : Nat) :
    max ((index : ℕ∞) + 1) ((index + 1 : Nat) + 1) = (index + 1 : Nat) + 1 :=
  max_eq_right (by rw [Nat.cast_succ]; exact le_self_add)

theorem stepForward_leads (inside : c.scan.Inside) :
    c.Leads (c.asks .stepForward) c.stepForward.2 := by
  obtain ⟨answer, first, active⟩ := activeToken_leads inside
  rw [stepForward, asks]
  generalize c.activeToken = r at answer first active ⊢
  obtain ⟨found, d⟩ := r
  cases found with
  | error e => exact first
  | ok found =>
      cases found with
      | none => exact first
      | some token =>
          have second := (first.read inside (c.active + 1)).2.1
          rw [max_succ_succ] at second
          simp only at active ⊢
          rw [active]
          generalize d.read (c.active + 1) = r at second ⊢
          obtain ⟨following, after⟩ := r
          cases following with
          | error e => exact second
          | ok following => exact second.move _

theorem stepForward_of_ok (inside : c.scan.Inside) (done : c.stepForward.1 = .ok ()) :
    (∃ token, c.whole.read c.active = .ok (some token)) ∧
      c.stepForward.2.active = c.active + 1 := by
  obtain ⟨same, follows⟩ := stepForward_mirrors (follows_of inside)
  rw [done] at same
  obtain ⟨present, moved⟩ := Eager.stepForward_of_ok same.symm
  rw [moved] at follows
  exact ⟨present, follows.active⟩

theorem nextToken_leads (inside : c.scan.Inside) : c.Leads (c.asks .nextToken) c.nextToken.2 := by
  have step := stepForward_leads inside
  have moved := stepForward_of_ok inside
  have same : c.asks .nextToken = c.asks .stepForward := rfl
  rw [nextToken, same]
  generalize c.stepForward = r at step moved ⊢
  obtain ⟨answer, d⟩ := r
  cases answer with
  | error e => exact step
  | ok _ =>
      -- What is read after the move has been asked for before it.
      obtain ⟨⟨token, here⟩, active⟩ := moved rfl
      simp only at active
      have again := (step.read inside (c.active + 1)).2.1
      rw [asks_of_token inside here, max_self] at again
      rw [asks_of_token inside here]
      simp only [activeToken, active]
      exact again

theorem hasNext_leads (inside : c.scan.Inside) : c.Leads (c.asks .hasNext) c.hasNext.2 := by
  obtain ⟨answer, first, active⟩ := activeToken_leads inside
  have same : c.asks .hasNext = c.asks .stepForward := rfl
  rw [hasNext, same]
  generalize reading : c.activeToken = r at answer first active ⊢
  obtain ⟨found, d⟩ := r
  cases found with
  | error e =>
      simp only [asks, reading]
      exact first
  | ok found =>
      cases found with
      | none =>
          simp only [asks, reading]
          exact first
      | some token =>
          simp only at answer first active ⊢
          have still : d.whole.read d.active = .ok (some token) := by
            rw [first.whole inside, active, answer]
          have asked : d.asks .nextToken = (c.active + 1 : Nat) + 1 := by
            rw [← active]
            exact asks_of_token (first.inside inside) still
          have second := first.trans inside (nextToken_leads (first.inside inside))
          rw [asked, max_succ_succ] at second
          rw [asks_of_token inside answer.symm]
          generalize d.nextToken = r at second ⊢
          obtain ⟨following, after⟩ := r
          cases following with
          | error e => exact second
          | ok following => exact second.move _

theorem stepBack_leads (c : Cursor) : c.Leads 0 c.stepBack.2 := by
  rw [stepBack]
  split
  · exact leads_self c
  · exact leads_move c _

/-- The token before the active position has been asked for already. -/
theorem previousToken_leads (inside : c.scan.Inside) (fits : c.active ≤ c.tokens.length) :
    c.Leads 0 c.previousToken.2 := by
  rw [previousToken, stepBack]
  cases active : c.active with
  | zero => exact leads_self c
  | succ index =>
      have there : index < c.tokens.length := by omega
      have read := read_eq_reach (c := { c with active := index }) inside index
      simp only [activeToken, read, reach_activate, reach_succ_of_lt there]
      exact leads_move c index

theorem firstToken_leads (inside : c.scan.Inside) : c.Leads 1 c.firstToken.2 := by
  have read := ((leads_move c 0).read inside 0).2.1
  rwa [max_eq_right zero_le, Nat.cast_zero, zero_add] at read

theorem lastToken_leads (inside : c.scan.Inside) : c.Leads ⊤ c.lastToken.2 := by
  obtain ⟨_, all, _⟩ := (leads_self c).all inside
  rw [lastToken]
  generalize c.all = r at all ⊢
  obtain ⟨answer, d⟩ := r
  cases answer with
  | error e => exact all
  | ok tokens =>
      cases tokens with
      | nil => exact all
      | cons first rest =>
          have last := ((all.move rest.length).read inside rest.length).2.1
          rwa [max_eq_left le_top] at last

theorem tokenAt_leads (inside : c.scan.Inside) (index : Int) :
    c.Leads ⊤ (c.tokenAt index).2 := by
  obtain ⟨_, all, _⟩ := (leads_self c).all inside
  rw [tokenAt]
  generalize c.all = r at all ⊢
  obtain ⟨answer, d⟩ := r
  cases answer with
  | error e => exact all
  | ok tokens =>
      simp only
      split
      · exact all
      · split <;> exact all

/-- An action scans for the positions that it asks for, and for no others. -/
theorem perform_leads (inside : c.scan.Inside) (fits : c.active ≤ c.tokens.length) {a : Action}
    (quiet : a.resets = false) : c.Leads (c.asks a) (c.perform a).2 := by
  cases a with
  | activeToken => exact (activeToken_leads inside).2.1
  | stepBack => exact stepBack_leads c
  | stepForward => exact stepForward_leads inside
  | previousToken => exact previousToken_leads inside fits
  | nextToken => exact nextToken_leads inside
  | hasPrevious => exact leads_self c
  | hasNext => exact hasNext_leads inside
  | firstToken => exact firstToken_leads inside
  | lastToken => exact lastToken_leads inside
  | tokenAt index => exact tokenAt_leads inside index
  | allTokens => exact ((leads_self c).all inside).2.1
  | reset | setText _ | setGrammar _ => contradiction

/-! ### Where the cursor stands -/

theorem perform_active (inside : c.scan.Inside) (a : Action) :
    (c.perform a).2.active = ((Eager.of c).perform a).2.index :=
  (perform_mirrors (follows_of inside) a).2.active

theorem perform_active_of_error (inside : c.scan.Inside) (fits : c.active ≤ c.tokens.length)
    {a : Action} {e : CursorError} (failed : (c.perform a).1 = .error e) :
    (c.perform a).2.active = c.active := by
  have same := (perform_mirrors (follows_of inside) a).1
  rw [failed] at same
  rw [perform_active inside]
  exact Eager.perform_index_of_error (Nat.le_trans fits c.tokens_length_le_whole) same.symm

/-- The cursor stands on a token that is kept or right behind the last one of them. -/
theorem perform_fits (inside : c.scan.Inside) (fits : c.active ≤ c.tokens.length) {a : Action}
    (quiet : a.resets = false) : (c.perform a).2.active ≤ (c.perform a).2.tokens.length := by
  have length := (perform_leads inside fits quiet).tokens_length inside
  have bound := Eager.perform_index_le (m := Eager.of c) quiet
  rw [← perform_active inside] at bound
  simp only [Eager.of] at bound
  rw [length]
  rcases bound with still | ⟨which, ⟨token, here⟩, moved⟩ | ⟨rfl, last⟩
  · omega
  · have asked : c.asks a = (c.active + 1 : Nat) + 1 := by
      rcases which with rfl | rfl <;> exact asks_of_token inside here
    have there := Scan.Completion.lt_of_read here
    rw [asked, atMost_succ]
    omega
  · have everything : c.asks .lastToken = ⊤ := rfl
    rw [everything, atMost_top]
    omega

end Cursor
end MaximalMunch
