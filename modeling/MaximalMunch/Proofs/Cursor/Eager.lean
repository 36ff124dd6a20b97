import MaximalMunch.Proofs.Cursor.Fill

/-!
A cursor that scans nothing. It has the complete scan from the beginning and answers every question
out of it. The lazy cursor cannot be told from it: any run of actions gives the same answers, errors
included, and the same active positions.
-/

namespace MaximalMunch

/-- What can be asked of a cursor. -/
inductive Action where
  | activeToken
  | stepBack
  | stepForward
  | previousToken
  | nextToken
  | hasPrevious
  | hasNext
  | firstToken
  | lastToken
  | tokenAt (index : Int)
  | allTokens
  | reset
  | setText (text : Text)
  | setGrammar (grammar : Option Grammar)

inductive Answer where
  | done
  | flag (value : Bool)
  | token (token : Option Token)
  | tokens (tokens : List Token)

/-- An answer as it is given, with the cursor after it. -/
def answered {α σ : Type} (answer : α → Answer) (r : Except CursorError α × σ) :
    Except CursorError Answer × σ :=
  (r.1.map answer, r.2)

def Cursor.perform (c : Cursor) : Action → Except CursorError Answer × Cursor
  | .activeToken => answered .token c.activeToken
  | .stepBack => answered (fun _ => .done) c.stepBack
  | .stepForward => answered (fun _ => .done) c.stepForward
  | .previousToken => answered .token c.previousToken
  | .nextToken => answered .token c.nextToken
  | .hasPrevious => (.ok (.flag c.hasPrevious), c)
  | .hasNext => answered .flag c.hasNext
  | .firstToken => answered .token c.firstToken
  | .lastToken => answered .token c.lastToken
  | .tokenAt index => answered (fun t => .token (some t)) (c.tokenAt index)
  | .allTokens => answered .tokens c.all
  | .reset => (.ok .done, c.reset)
  | .setText text => (.ok .done, c.setText text)
  | .setGrammar grammar => (.ok .done, c.setGrammar grammar)

/-- The answers to a run of actions, each with the active position after it. -/
def Cursor.trace (c : Cursor) : List Action → List (Except CursorError Answer × Nat)
  | [] => []
  | a :: rest =>
    let (answer, c) := c.perform a
    (answer, c.active) :: c.trace rest

/-! ### The eager cursor -/

/-- The grammar and the text serve only to scan anew. -/
structure Eager where
  grammar : Option Grammar
  text : Text
  whole : Scan.Completion
  index : Nat

namespace Eager

def start (grammar : Option Grammar) (text : Text) : Eager :=
  ⟨grammar, text, (Scan.start grammar text).complete, 0⟩

def activeToken (m : Eager) : Except CursorError (Option Token) := m.whole.read m.index

def stepBack (m : Eager) : Except CursorError Unit × Eager :=
  if m.index = 0 then (.error .noPrevious, m) else (.ok (), { m with index := m.index - 1 })

def stepForward (m : Eager) : Except CursorError Unit × Eager :=
  match m.whole.read m.index with
  | .error e => (.error e, m)
  | .ok none => (.error .noNext, m)
  | .ok (some _) =>
    match m.whole.read (m.index + 1) with
    | .error e => (.error e, m)
    | .ok _ => (.ok (), { m with index := m.index + 1 })

def readAfter (r : Except CursorError Unit × Eager) : Except CursorError (Option Token) × Eager :=
  match r with
  | (.error e, m) => (.error e, m)
  | (.ok _, m) => (m.activeToken, m)

def hasNext (m : Eager) : Except CursorError Bool :=
  match m.whole.read m.index with
  | .error e => .error e
  | .ok none => .ok false
  | .ok (some _) => (m.whole.read (m.index + 1)).map Option.isSome

def firstToken (m : Eager) : Except CursorError (Option Token) × Eager :=
  (m.whole.read 0, { m with index := 0 })

def lastToken (m : Eager) : Except CursorError (Option Token) × Eager :=
  match m.whole.all with
  | .error e => (.error e, m)
  | .ok tokens =>
    match tokens.getLast? with
    | none => (.ok none, m)
    | some token => (.ok (some token), { m with index := tokens.length - 1 })

def tokenAt (m : Eager) (index : Int) : Except CursorError Token :=
  match m.whole.all with
  | .error e => .error e
  | .ok tokens =>
    if index < 0 then .error (.negativeIndex index)
    else match tokens[index.toNat]? with
      | some token => .ok token
      | none => .error (.indexTooLarge index ((tokens.length : Int) - 1))

def perform (m : Eager) : Action → Except CursorError Answer × Eager
  | .activeToken => answered .token (m.activeToken, m)
  | .stepBack => answered (fun _ => .done) m.stepBack
  | .stepForward => answered (fun _ => .done) m.stepForward
  | .previousToken => answered .token (readAfter m.stepBack)
  | .nextToken => answered .token (readAfter m.stepForward)
  | .hasPrevious => (.ok (.flag (0 < m.index)), m)
  | .hasNext => answered .flag (m.hasNext, m)
  | .firstToken => answered .token m.firstToken
  | .lastToken => answered .token m.lastToken
  | .tokenAt index => answered (fun t => .token (some t)) (m.tokenAt index, m)
  | .allTokens => answered .tokens (m.whole.all, m)
  | .reset => (.ok .done, start m.grammar m.text)
  | .setText text => (.ok .done, start m.grammar text)
  | .setGrammar grammar => (.ok .done, start grammar m.text)

def trace (m : Eager) : List Action → List (Except CursorError Answer × Nat)
  | [] => []
  | a :: rest =>
    let (answer, m) := m.perform a
    (answer, m.index) :: m.trace rest

end Eager

/-! ### The simulation -/

namespace Cursor

/-- The lazy cursor stands where the eager one does, and has the same tokens before it. -/
structure Follows (c : Cursor) (m : Eager) : Prop where
  whole : c.whole = m.whole
  active : c.active = m.index
  grammar : c.grammar = m.grammar
  text : c.text = m.text
  inside : c.scan.Inside

theorem start_follows (grammar : Option Grammar) (text : Text) :
    (start grammar text).Follows (Eager.start grammar text) := by
  refine ⟨rfl, rfl, rfl, rfl, ?_⟩
  have inside := (Frame.start grammar text).scan_inside
  rwa [Frame.scan_start] at inside

theorem Follows.of_agrees {c after : Cursor} {m : Eager} (h : c.Follows m)
    (agrees : c.Agrees after) : after.Follows m :=
  ⟨agrees.whole.trans h.whole, agrees.active.trans h.active, agrees.grammar.trans h.grammar,
    agrees.text.trans h.text, agrees.inside⟩

theorem Follows.moveTo {c : Cursor} {m : Eager} (h : c.Follows m) (index : Nat) :
    Follows { c with active := index } { m with index := index } :=
  ⟨h.whole, rfl, h.grammar, h.text, h.inside⟩

theorem Follows.read {c : Cursor} {m : Eager} (h : c.Follows m) (index : Nat) :
    ∃ after : Cursor, c.read index = (m.whole.read index, after) ∧ after.Follows m := by
  obtain ⟨same, agrees⟩ := read_eq h.inside index
  rw [h.whole] at same
  exact ⟨(c.read index).2, Prod.ext same rfl, h.of_agrees agrees⟩

theorem Follows.all {c : Cursor} {m : Eager} (h : c.Follows m) :
    ∃ after : Cursor, c.all = (m.whole.all, after) ∧ after.Follows m := by
  obtain ⟨same, agrees⟩ := all_eq h.inside
  rw [h.whole] at same
  exact ⟨c.all.2, Prod.ext same rfl, h.of_agrees agrees⟩

/-- The same result, and cursors that still stand at the same place. -/
def Mirrors {α : Type} (r : Except CursorError α × Cursor) (q : Except CursorError α × Eager) :
    Prop :=
  r.1 = q.1 ∧ r.2.Follows q.2

theorem Mirrors.answered {α : Type} {r : Except CursorError α × Cursor}
    {q : Except CursorError α × Eager} (h : Mirrors r q) (answer : α → Answer) :
    Mirrors (answered answer r) (answered answer q) :=
  ⟨congrArg (Except.map answer) h.1, h.2⟩

theorem activeToken_mirrors {c : Cursor} {m : Eager} (h : c.Follows m) :
    Mirrors c.activeToken (m.activeToken, m) := by
  obtain ⟨after, read, follows⟩ := h.read m.index
  rw [activeToken, h.active, read]
  exact ⟨rfl, follows⟩

theorem stepBack_mirrors {c : Cursor} {m : Eager} (h : c.Follows m) :
    Mirrors c.stepBack m.stepBack := by
  rw [stepBack, Eager.stepBack]
  have same := h.active
  cases at_index : c.active with
  | zero =>
      rw [at_index] at same
      rw [if_pos same.symm]
      exact ⟨rfl, h⟩
  | succ index =>
      rw [at_index] at same
      rw [if_neg (by omega), ← same]
      exact ⟨rfl, h.moveTo index⟩

theorem stepForward_mirrors {c : Cursor} {m : Eager} (h : c.Follows m) :
    Mirrors c.stepForward m.stepForward := by
  obtain ⟨here, readHere, followsHere⟩ := h.read m.index
  rw [stepForward, activeToken, h.active, readHere, Eager.stepForward]
  cases m.whole.read m.index with
  | error e => exact ⟨rfl, followsHere⟩
  | ok found =>
      cases found with
      | none => exact ⟨rfl, followsHere⟩
      | some token =>
          obtain ⟨there, readThere, followsThere⟩ := followsHere.read (m.index + 1)
          simp only [followsHere.active, readThere]
          cases m.whole.read (m.index + 1) with
          | error e => exact ⟨rfl, followsThere⟩
          | ok following =>
              refine ⟨rfl, ?_⟩
              simp only [followsThere.active]
              exact followsThere.moveTo (m.index + 1)

theorem readAfter_mirrors {r : Except CursorError Unit × Cursor}
    {q : Except CursorError Unit × Eager} (h : Mirrors r q) :
    Mirrors
      (match r with
        | (.error e, c) => (.error e, c)
        | (.ok _, c) => c.activeToken)
      (Eager.readAfter q) := by
  obtain ⟨result, c⟩ := r
  obtain ⟨result', m⟩ := q
  obtain ⟨same, follows⟩ := h
  simp only at same follows
  subst same
  cases result with
  | error e => exact ⟨rfl, follows⟩
  | ok _ => exact activeToken_mirrors follows

theorem nextToken_mirrors {c : Cursor} {m : Eager} (h : c.Follows m) :
    Mirrors c.nextToken (Eager.readAfter m.stepForward) :=
  readAfter_mirrors (stepForward_mirrors h)

theorem previousToken_mirrors {c : Cursor} {m : Eager} (h : c.Follows m) :
    Mirrors c.previousToken (Eager.readAfter m.stepBack) :=
  readAfter_mirrors (stepBack_mirrors h)

theorem readAfter_stepForward {m : Eager} {token : Token}
    (here : m.whole.read m.index = .ok (some token)) :
    Eager.readAfter m.stepForward =
      match m.whole.read (m.index + 1) with
      | .error e => (.error e, m)
      | .ok following => (.ok following, { m with index := m.index + 1 }) := by
  rw [Eager.stepForward, here]
  cases there : m.whole.read (m.index + 1) with
  | error e => simp [Eager.readAfter]
  | ok following => simp [Eager.readAfter, Eager.activeToken, there]

theorem hasNext_mirrors {c : Cursor} {m : Eager} (h : c.Follows m) :
    Mirrors c.hasNext (m.hasNext, m) := by
  obtain ⟨here, readHere, followsHere⟩ := h.read m.index
  rw [hasNext, activeToken, h.active, readHere, Eager.hasNext]
  cases present : m.whole.read m.index with
  | error e => exact ⟨rfl, followsHere⟩
  | ok found =>
      cases found with
      | none => exact ⟨rfl, followsHere⟩
      | some token =>
          have moved := nextToken_mirrors followsHere
          rw [readAfter_stepForward present] at moved
          simp only
          generalize here.nextToken = r at moved ⊢
          obtain ⟨result, after⟩ := r
          cases there : m.whole.read (m.index + 1) with
          | error e =>
              rw [there] at moved
              obtain ⟨same, follows⟩ := moved
              simp only at same
              subst same
              exact ⟨rfl, follows⟩
          | ok following =>
              rw [there] at moved
              obtain ⟨same, follows⟩ := moved
              simp only at same
              subst same
              -- The lazy cursor has moved and is set back; the eager one has not moved.
              have back := follows.moveTo m.index
              simp only [followsHere.active]
              exact ⟨rfl, back⟩

theorem firstToken_mirrors {c : Cursor} {m : Eager} (h : c.Follows m) :
    Mirrors c.firstToken m.firstToken :=
  activeToken_mirrors (h.moveTo 0)

theorem read_last {w : Scan.Completion} {tokens : List Token} {token : Token}
    (all : w.all = .ok tokens) (last : tokens.getLast? = some token) :
    w.read (tokens.length - 1) = .ok (some token) := by
  have same : w.tokens = tokens := by
    rw [Scan.Completion.all] at all
    split at all
    · exact Except.ok.inj all
    · contradiction
  rw [List.getLast?_eq_getElem?] at last
  simp only [Scan.Completion.read, same, last]

theorem lastToken_mirrors {c : Cursor} {m : Eager} (h : c.Follows m) :
    Mirrors c.lastToken m.lastToken := by
  obtain ⟨after, all, follows⟩ := h.all
  rw [lastToken, all, Eager.lastToken]
  cases whole : m.whole.all with
  | error e => exact ⟨rfl, follows⟩
  | ok tokens =>
      cases last : tokens.getLast? with
      | none =>
          rw [List.getLast?_eq_none_iff] at last
          subst last
          exact ⟨rfl, follows⟩
      | some token =>
          have moved := activeToken_mirrors (follows.moveTo (tokens.length - 1))
          rw [Eager.activeToken, read_last whole last] at moved
          cases tokens with
          | nil => contradiction
          | cons first rest =>
              simp only [last]
              exact moved

theorem tokenAt_mirrors {c : Cursor} {m : Eager} (h : c.Follows m) (index : Int) :
    Mirrors (c.tokenAt index) (m.tokenAt index, m) := by
  obtain ⟨after, all, follows⟩ := h.all
  rw [tokenAt, all, Eager.tokenAt]
  cases m.whole.all with
  | error e => exact ⟨rfl, follows⟩
  | ok tokens =>
      simp only
      split
      · exact ⟨rfl, follows⟩
      · cases tokens[index.toNat]? <;> exact ⟨rfl, follows⟩

theorem all_mirrors {c : Cursor} {m : Eager} (h : c.Follows m) :
    Mirrors c.all (m.whole.all, m) := by
  obtain ⟨after, all, follows⟩ := h.all
  rw [all]
  exact ⟨rfl, follows⟩

theorem hasPrevious_eq {c : Cursor} {m : Eager} (h : c.Follows m) :
    c.hasPrevious = decide (0 < m.index) := by
  rw [hasPrevious, h.active]

theorem perform_mirrors {c : Cursor} {m : Eager} (h : c.Follows m) (a : Action) :
    Mirrors (c.perform a) (m.perform a) := by
  cases a with
  | activeToken => exact (activeToken_mirrors h).answered .token
  | stepBack => exact (stepBack_mirrors h).answered fun _ => .done
  | stepForward => exact (stepForward_mirrors h).answered fun _ => .done
  | previousToken => exact (previousToken_mirrors h).answered .token
  | nextToken => exact (nextToken_mirrors h).answered .token
  | hasPrevious =>
      simp only [Cursor.perform, Eager.perform, hasPrevious_eq h]
      exact ⟨rfl, h⟩
  | hasNext => exact (hasNext_mirrors h).answered .flag
  | firstToken => exact (firstToken_mirrors h).answered .token
  | lastToken => exact (lastToken_mirrors h).answered .token
  | tokenAt index => exact (tokenAt_mirrors h index).answered fun t => .token (some t)
  | allTokens => exact (all_mirrors h).answered .tokens
  | reset =>
      simp only [Cursor.perform, Eager.perform, reset, h.grammar, h.text]
      exact ⟨rfl, start_follows m.grammar m.text⟩
  | setText text =>
      simp only [Cursor.perform, Eager.perform, setText, h.grammar]
      exact ⟨rfl, start_follows m.grammar text⟩
  | setGrammar grammar =>
      simp only [Cursor.perform, Eager.perform, setGrammar, h.text]
      exact ⟨rfl, start_follows grammar m.text⟩

theorem trace_mirrors {c : Cursor} {m : Eager} (h : c.Follows m) (actions : List Action) :
    c.trace actions = m.trace actions := by
  induction actions generalizing c m with
  | nil => rfl
  | cons a rest ih =>
      obtain ⟨same, follows⟩ := perform_mirrors h a
      simp only [trace, Eager.trace, same, follows.active, ih follows]

/-- The lazy cursor and the eager one give the same answers to every run of actions. The complete
scan that the eager one has stops at the end or, where there is a grammar, only on a text that no
type matches. -/
theorem trace_eq_eager :
    (∀ (g : Grammar) (text : Text),
      (Scan.start (some g) text).complete.stop = .ok () ∨
        ∃ rest, (Scan.start (some g) text).complete.stop = .error (.unmatched rest)) ∧
    ∀ (grammar : Option Grammar) (text : Text) (actions : List Action),
      (start grammar text).trace actions = (Eager.start grammar text).trace actions := by
  refine ⟨?_, fun grammar text actions => trace_mirrors (start_follows grammar text) actions⟩
  intro g text
  rw [← Frame.scan_start]
  exact Frame.stop_of_grammar rfl

end Cursor
end MaximalMunch
