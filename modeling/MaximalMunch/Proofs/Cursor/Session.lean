import MaximalMunch.Proofs.Cursor.Eager
import MaximalMunch.Proofs.Cursor.Growth

/-!
Sessions. A cursor and the walks begun over its tokens are asked one thing after another; besides the
actions of the cursor these are steps of a walk, whole walks, and changes of the grammar in place.
What an answer reports of positions is a list, with the end of the text for a missing token.
-/

namespace MaximalMunch

structure Session where
  cursor : Cursor
  walks : List Walk

inductive Request where
  | ask (action : Action)
  | add (name regex : Text)
  | setTrimming (trimming : Bool)
  | walk
  | advance (walk : Nat)
  | collect

inductive RequestError where
  | cursor (error : CursorError)
  | grammar (error : GrammarError)
  /-- There is no grammar to change. -/
  | noGrammar

/-- The action begins a new scan. -/
def Action.resets : Action → Bool
  | .reset | .setText _ | .setGrammar _ => true
  | _ => false

def Request.resets : Request → Bool
  | .ask action => action.resets
  | _ => false

namespace Session

def start (grammar : Option Grammar) (text : Text) : Session := ⟨Cursor.start grammar text, []⟩

/-- Changes the grammar in place. A change that is refused leaves it as it was. -/
def change (s : Session) (edit : Grammar → Except GrammarError Grammar) :
    Except RequestError Answer × Session :=
  match s.cursor.grammar with
  | none => (.error .noGrammar, s)
  | some g =>
    match edit g with
    | .error e => (.error (.grammar e), s)
    | .ok g => (.ok .done, { s with cursor := s.cursor.changeGrammar (some g) })

/-- A walk that was never begun gives nothing, like one that is over. -/
def perform (s : Session) : Request → Except RequestError Answer × Session
  | .ask action =>
    let (answer, cursor) := s.cursor.perform action
    (answer.mapError .cursor, { s with cursor })
  | .add name regex => s.change fun g => g.add name regex
  | .setTrimming trimming => s.change fun g => .ok { g with trimming }
  | .walk => (.ok .done, { s with walks := s.walks ++ [Walk.start] })
  | .advance walk =>
    match s.walks[walk]? with
    | none => (.ok (.token none), s)
    | some w =>
      let (answer, w, cursor) := w.next s.cursor
      ((answer.map .token).mapError .cursor, ⟨cursor, s.walks.set walk w⟩)
  | .collect =>
    let (answer, cursor) := s.cursor.collect
    ((answer.map .tokens).mapError .cursor, { s with cursor })

/-- The session after these requests, whatever they are answered. -/
def after (s : Session) : List Request → Session
  | [] => s
  | r :: rest => (s.perform r).2.after rest

end Session

/-! ### Reports -/

/-- Each token at its position, and the end behind the last one. -/
def reportAll (tokens : List Token) : List (Nat × Option Token) :=
  (List.range (tokens.length + 1)).map fun i => (i, tokens[i]?)

/-- What an answer reports, by the active position after the action. -/
def Action.reports (active : Nat) : Action → Answer → List (Nat × Option Token)
  | .tokenAt index, .token found => [(index.toNat, found)]
  | _, .token found => [(active, found)]
  | _, .tokens tokens => reportAll tokens
  | _, _ => []

/-- The answer tells that the text has been scanned to its end, whatever it reports. -/
def Action.tellsEnd : Action → Answer → Bool
  | .hasNext, .flag value => !value
  | .lastToken, _ | .tokenAt _, _ => true
  | _, _ => false

/-- The answer tells so, or refuses what goes beyond the end. -/
def Request.tellsEnd : Request → Except RequestError Answer → Bool
  | .ask action, .ok answer => action.tellsEnd answer
  | .ask _, .error (.cursor e) => e.pastEnd
  | _, _ => false

namespace Session

/-- What the answer to a request reports. A walk that is over reports nothing. -/
def reports (s : Session) (r : Request) : List (Nat × Option Token) :=
  match r, s.perform r with
  | .ask action, (.ok answer, after) => action.reports after.cursor.active answer
  | .advance walk, (.ok (.token found), _) =>
    match s.walks[walk]? with
    | some w => if w.finished then [] else [(w.position, found)]
    | none => []
  | .collect, (.ok (.tokens tokens), _) => reportAll tokens
  | _, _ => []

/-- The answer reports the end of the text, or tells that it has been reached. -/
def showsEnd (s : Session) (r : Request) : Bool :=
  (s.reports r).any (·.2.isNone) || r.tellsEnd (s.perform r).1

/-- What a request keeps that does not begin a new scan. -/
structure Keeps (s : Session) (r : Request) : Prop where
  inside : (s.perform r).2.cursor.scan.Inside
  grows : s.cursor.Grows (s.perform r).2.cursor
  reports : ∀ index found, (index, found) ∈ s.reports r →
    (s.perform r).2.cursor.Shows index found
  tells : s.showsEnd r = true → (s.perform r).2.cursor.exhausted = true
  calm : s.cursor.exhausted = true → ∀ e, (s.perform r).1 ≠ .error (.cursor (.scan e))

end Session

namespace Cursor

/-- The reports are what the cursor knows. -/
def Bears (d : Cursor) (reports : List (Nat × Option Token)) : Prop :=
  ∀ index found, (index, found) ∈ reports → d.Shows index found

theorem bears_singleton {d : Cursor} {index : Nat} {found : Option Token} :
    d.Bears [(index, found)] ↔ d.Shows index found := by
  simp [Bears]

theorem bears_nil (d : Cursor) : d.Bears [] := by simp [Bears]

theorem bears_reportAll {d : Cursor} {tokens : List Token} (kept : d.tokens = tokens)
    (ended : d.exhausted = true) : d.Bears (reportAll tokens) := by
  intro index found member
  obtain ⟨i, _, report⟩ := List.mem_map.mp member
  cases report
  exact ⟨by rw [kept], fun _ => ended⟩

theorem Reads.mapped {α : Type} {c : Cursor} {shown : α → Cursor → Prop}
    {shown' : Answer → Cursor → Prop} {r : Except CursorError α × Cursor} (h : c.Reads shown r)
    (answer : α → Answer) (borne : ∀ a d, shown a d → shown' (answer a) d) :
    c.Reads shown' (answered answer r) := by
  obtain ⟨result, d⟩ := r
  cases result with
  | error e => exact h.fail
  | ok a => exact h.answers (borne a d (h.answer a rfl))

/-- An answer that reports the active position, and does no more than that. -/
theorem Reads.reportsActive {c : Cursor} {r : Except CursorError (Option Token) × Cursor}
    (h : c.Reads (fun found d => d.Shows d.active found) r) (a : Action)
    (reports : ∀ active found, a.reports active (.token found) = [(active, found)])
    (silent : ∀ found, a.tellsEnd (.token found) = false) :
    c.Reads
      (fun answer d => d.Bears (a.reports d.active answer) ∧
        (a.tellsEnd answer = true → d.exhausted = true))
      (answered .token r) := by
  refine h.mapped .token fun found d shows => ⟨?_, ?_⟩
  · rw [reports]
    exact bears_singleton.mpr shows
  · simp [silent]

theorem perform_reads {c : Cursor} (inside : c.scan.Inside) {a : Action} (quiet : a.resets = false) :
    c.Reads
      (fun answer d => d.Bears (a.reports d.active answer) ∧
        (a.tellsEnd answer = true → d.exhausted = true))
      (c.perform a) := by
  have silent (a : Action) (tells : a.tellsEnd .done = false) (d : Cursor) :
      d.Bears (a.reports d.active .done) ∧ (a.tellsEnd .done = true → d.exhausted = true) := by
    refine ⟨?_, by simp [tells]⟩
    cases a <;> exact bears_nil d
  cases a with
  | activeToken =>
      exact (activeToken_reads inside).reportsActive .activeToken (fun _ _ => rfl) fun _ => rfl
  | previousToken =>
      exact (previousToken_reads inside).reportsActive .previousToken (fun _ _ => rfl) fun _ => rfl
  | nextToken =>
      exact (nextToken_reads inside).reportsActive .nextToken (fun _ _ => rfl) fun _ => rfl
  | firstToken =>
      exact (firstToken_reads inside).reportsActive .firstToken (fun _ _ => rfl) fun _ => rfl
  | stepBack => exact (stepBack_reads inside).mapped _ fun _ d _ => silent .stepBack rfl d
  | stepForward =>
      exact (stepForward_reads inside).mapped _ fun _ d _ => silent .stepForward rfl d
  | hasPrevious =>
      refine (reads_move inside c.active).answers ⟨bears_nil c, ?_⟩
      simp [Action.tellsEnd]
  | hasNext =>
      refine (hasNext_reads inside).mapped .flag fun value d ended => ⟨bears_nil d, ?_⟩
      simpa [Action.tellsEnd] using ended
  | lastToken =>
      refine (lastToken_reads inside).mapped .token fun found d known => ⟨?_, fun _ => known.2⟩
      exact bears_singleton.mpr known.1
  | tokenAt index =>
      refine (tokenAt_reads inside index).mapped _ fun token d known => ⟨?_, fun _ => known.2⟩
      exact bears_singleton.mpr known.1
  | allTokens =>
      refine (all_reads inside).mapped .tokens fun tokens d known => ⟨?_, by simp [Action.tellsEnd]⟩
      exact bears_reportAll known.1 known.2
  | reset | setText _ | setGrammar _ => contradiction

end Cursor

namespace Session

variable {s : Session}

theorem any_isNone_of_bears {d : Cursor} {reports : List (Nat × Option Token)}
    (bears : d.Bears reports) (found : reports.any (·.2.isNone) = true) : d.exhausted = true := by
  obtain ⟨⟨index, report⟩, member, missing⟩ := List.any_eq_true.mp found
  exact (bears index report member).ended (by simpa using missing)

/-- A request that is answered by an operation of the cursor. -/
theorem keeps_of_reads {r : Request} {shown : Answer → Cursor → Prop}
    {q : Except CursorError Answer × Cursor} (reads : s.cursor.Reads shown q)
    (answers : (s.perform r).1 = q.1.mapError .cursor) (leaves : (s.perform r).2.cursor = q.2)
    (bears : q.2.Bears (s.reports r))
    (tells : r.tellsEnd (q.1.mapError .cursor) = true → q.2.exhausted = true) : s.Keeps r := by
  constructor
  · rw [leaves]
    exact reads.inside
  · rw [leaves]
    exact reads.grows
  · rw [leaves]
    exact bears
  · intro shows
    rw [showsEnd, Bool.or_eq_true, answers] at shows
    rw [leaves]
    rcases shows with reported | told
    · exact any_isNone_of_bears bears reported
    · exact tells told
  · intro ended e failed
    rw [answers] at failed
    obtain ⟨answer, d⟩ := q
    cases answer with
    | error e' =>
        cases failed
        exact reads.calm ended e rfl
    | ok answer => contradiction

theorem ask_keeps (inside : s.cursor.scan.Inside) {a : Action} (quiet : a.resets = false) :
    s.Keeps (.ask a) := by
  have reads := Cursor.perform_reads inside quiet
  refine keeps_of_reads reads rfl rfl ?_ ?_
  · simp only [perform, reports]
    generalize s.cursor.perform a = q at reads ⊢
    obtain ⟨answer, d⟩ := q
    cases answer with
    | error e => exact Cursor.bears_nil d
    | ok answer => exact (reads.answer answer rfl).1
  · generalize s.cursor.perform a = q at reads ⊢
    obtain ⟨answer, d⟩ := q
    cases answer with
    | error e => exact reads.refusal e rfl
    | ok answer => exact (reads.answer answer rfl).2

theorem change_cursor (s : Session) (edit : Grammar → Except GrammarError Grammar) :
    ∃ grammar, (s.change edit).2.cursor = s.cursor.changeGrammar grammar := by
  rw [change]
  split
  · exact ⟨s.cursor.grammar, rfl⟩
  · split
    · exact ⟨s.cursor.grammar, rfl⟩
    · next g _ => exact ⟨some g, rfl⟩

theorem change_error (s : Session) (edit : Grammar → Except GrammarError Grammar) (e : CursorError) :
    (s.change edit).1 ≠ .error (.cursor e) := by
  rw [change]
  split
  · simp
  · split <;> simp

/-- Tokens that are kept do not depend on the grammar. -/
theorem grows_changeGrammar (c : Cursor) (grammar : Option Grammar) :
    c.Grows (c.changeGrammar grammar) :=
  ⟨List.prefix_refl _, fun ended => ⟨rfl, ended⟩⟩

theorem change_keeps (inside : s.cursor.scan.Inside) {r : Request}
    {edit : Grammar → Except GrammarError Grammar} (performs : s.perform r = s.change edit)
    (silent : s.reports r = []) (tells : ∀ answer, r.tellsEnd answer = false) : s.Keeps r := by
  obtain ⟨grammar, changed⟩ := s.change_cursor edit
  refine ⟨?_, ?_, by simp [silent], by simp [showsEnd, silent, tells], ?_⟩
  · rw [performs, changed]
    exact inside.withGrammar grammar
  · rw [performs, changed]
    exact grows_changeGrammar s.cursor grammar
  · intro _ e
    rw [performs]
    exact s.change_error edit _

theorem advance_keeps (inside : s.cursor.scan.Inside) (walk : Nat) : s.Keeps (.advance walk) := by
  cases begun : s.walks[walk]? with
  | none =>
      have performs : s.perform (.advance walk) = (.ok (.token none), s) := by
        simp only [perform, begun]
      have reads : s.cursor.Reads (fun _ _ => True) (.ok (Answer.token none), s.cursor) :=
        (Cursor.reads_move inside s.cursor.active).answers trivial
      refine keeps_of_reads reads (by rw [performs]; rfl) (by rw [performs]) ?_
        (by simp [Request.tellsEnd])
      simp only [reports, performs, begun]
      exact Cursor.bears_nil _
  | some w =>
      have reads := Cursor.walk_reads inside w
      have performs : s.perform (.advance walk) =
          (((w.next s.cursor).1.map .token).mapError .cursor,
            ⟨(w.next s.cursor).2.2, s.walks.set walk (w.next s.cursor).2.1⟩) := by
        simp only [perform, begun]
      have answers : s.cursor.Reads (fun _ _ => True)
          (answered .token ((w.next s.cursor).1, (w.next s.cursor).2.2)) :=
        reads.mapped .token fun _ _ _ => trivial
      refine keeps_of_reads answers (by rw [performs]; rfl) (by rw [performs]; rfl) ?_
        (by simp [Request.tellsEnd])
      simp only [reports, performs, answered]
      generalize w.next s.cursor = q at reads ⊢
      obtain ⟨answer, w', d⟩ := q
      cases answer with
      | error e => exact Cursor.bears_nil d
      | ok found =>
          simp only [Except.map, Except.mapError, begun]
          cases going : w.finished with
          | true => exact Cursor.bears_nil d
          | false => exact Cursor.bears_singleton.mpr (reads.answer found rfl going)

theorem collect_keeps (inside : s.cursor.scan.Inside) : s.Keeps .collect := by
  have reads := Cursor.collect_reads inside
  have answers : s.cursor.Reads (fun _ _ => True) (answered .tokens s.cursor.collect) :=
    reads.mapped .tokens fun _ _ _ => trivial
  refine keeps_of_reads answers rfl rfl ?_ (by simp [Request.tellsEnd])
  simp only [reports, perform, answered]
  generalize s.cursor.collect = q at reads ⊢
  obtain ⟨answer, d⟩ := q
  cases answer with
  | error e => exact Cursor.bears_nil d
  | ok tokens =>
      obtain ⟨kept, ended⟩ := reads.answer tokens rfl
      exact Cursor.bears_reportAll kept ended

theorem walk_keeps (inside : s.cursor.scan.Inside) : s.Keeps .walk := by
  have reads : s.cursor.Reads (fun _ _ => True) (.ok Answer.done, s.cursor) :=
    (Cursor.reads_move inside s.cursor.active).answers trivial
  exact keeps_of_reads reads rfl rfl (Cursor.bears_nil _) (by simp [Request.tellsEnd])

theorem perform_keeps (inside : s.cursor.scan.Inside) {r : Request} (quiet : r.resets = false) :
    s.Keeps r := by
  cases r with
  | ask action => exact ask_keeps inside quiet
  | add name regex => exact change_keeps inside rfl rfl fun _ => rfl
  | setTrimming trimming =>
      have performs : s.perform (.setTrimming trimming) =
          s.change fun g => .ok { g with trimming } := rfl
      exact change_keeps inside performs rfl fun _ => rfl
  | walk => exact walk_keeps inside
  | advance walk => exact advance_keeps inside walk
  | collect => exact collect_keeps inside

/-- A request that begins a new scan is answered without any report. -/
theorem perform_resets (s : Session) {r : Request} (resets : r.resets = true) :
    (∃ grammar text, (s.perform r).2.cursor = Cursor.start grammar text) ∧
      (s.perform r).1 = .ok .done ∧ s.reports r = [] ∧ s.showsEnd r = false := by
  cases r with
  | ask action =>
      cases action with
      | reset | setText _ | setGrammar _ => exact ⟨⟨_, _, rfl⟩, rfl, rfl, rfl⟩
      | _ => contradiction
  | _ => contradiction

theorem perform_inside (inside : s.cursor.scan.Inside) (r : Request) :
    (s.perform r).2.cursor.scan.Inside := by
  cases resets : r.resets with
  | false => exact (perform_keeps inside resets).inside
  | true =>
      obtain ⟨⟨grammar, text, new⟩, _⟩ := s.perform_resets resets
      rw [new]
      exact Frame.start_inside grammar text

theorem after_inside (inside : s.cursor.scan.Inside) (requests : List Request) :
    (s.after requests).cursor.scan.Inside := by
  induction requests generalizing s with
  | nil => exact inside
  | cons r rest ih => exact ih (perform_inside inside r)

theorem after_grows (inside : s.cursor.scan.Inside) {requests : List Request}
    (quiet : ∀ r ∈ requests, r.resets = false) : s.cursor.Grows (s.after requests).cursor := by
  induction requests generalizing s with
  | nil => exact .refl _
  | cons r rest ih =>
      have step := perform_keeps inside (quiet r List.mem_cons_self)
      exact step.grows.trans (ih step.inside fun r hr => quiet r (List.mem_cons_of_mem _ hr))

end Session
end MaximalMunch
