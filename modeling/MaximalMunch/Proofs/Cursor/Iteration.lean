import MaximalMunch.Proofs.Cursor.Moves
import MaximalMunch.Proofs.Cursor.Session
import MaximalMunch.Proofs.Munch

/-!
Walks do not disturb each other, nor the cursor. Where a walk stands is the number of tokens that it
has been given, whatever else was asked meanwhile; so without a new scan its tokens are those of the
text from the first one on, and a walk that was given nothing once is over for good.
-/

namespace MaximalMunch

/-! ### A step of a walk -/

namespace Walk

variable {c : Cursor} {w : Walk}

/-- The token in an answer, if there is one. -/
def token? (answer : Except CursorError (Option Token)) : Option Token := answer.toOption.join

theorem next_of_finished (finished : w.finished = true) (c : Cursor) :
    w.next c = (.ok none, w, c) := by
  rw [next, if_pos finished]

/-- A walk that is not over reads its position. A token moves it to the next one, and anything else
ends it. -/
theorem next_of_going (going : w.finished = false) (c : Cursor) :
    w.next c =
      ((c.read w.position).1,
        ⟨w.position + (token? (c.read w.position).1).toList.length,
          (token? (c.read w.position).1).isNone⟩,
        (c.read w.position).2) := by
  rw [next, going]
  generalize c.read w.position = r
  obtain ⟨result, d⟩ := r
  cases result with
  | error e => simp [token?, Except.toOption]
  | ok found =>
      cases found with
      | none => simp [token?, Except.toOption]
      | some token => simp [token?, Except.toOption]

theorem next_agrees (inside : c.scan.Inside) (w : Walk) : c.Agrees (w.next c).2.2 := by
  cases going : w.finished with
  | true =>
      rw [next_of_finished going]
      exact .refl inside
  | false =>
      rw [next_of_going going]
      exact (Cursor.read_eq inside w.position).2

theorem next_walk (w : Walk) (c : Cursor) :
    (w.next c).2.1 =
      ⟨w.position + (token? (w.next c).1).toList.length,
        w.finished || (token? (w.next c).1).isNone⟩ := by
  cases going : w.finished with
  | true =>
      rw [next_of_finished going]
      simp [token?, Except.toOption, ← going]
  | false => simp [next_of_going going]

end Walk

/-! ### A walk among other requests -/

/-- The request is a step of this walk. -/
def Request.advances (walk : Nat) : Request → Bool
  | .advance other => other = walk
  | _ => false

namespace Session

variable {s : Session} {walk : Nat} {w : Walk}

/-- The token that a walk is given by a request. -/
def given? (s : Session) (walk : Nat) (r : Request) : Option Token :=
  match r.advances walk, (s.perform r).1 with
  | true, .ok (.token found) => found
  | _, _ => none

/-- The request is a step of the walk, and gives it nothing. -/
def stops (s : Session) (walk : Nat) (r : Request) : Bool :=
  r.advances walk && (s.given? walk r).isNone

/-- The tokens that a walk is given by these requests. -/
def given (s : Session) (walk : Nat) : List Request → List Token
  | [] => []
  | r :: rest => (s.given? walk r).toList ++ (s.perform r).2.given walk rest

/-- One of these requests gives the walk nothing although it is a step of it. -/
def stopped (s : Session) (walk : Nat) : List Request → Bool
  | [] => false
  | r :: rest => s.stops walk r || (s.perform r).2.stopped walk rest

theorem change_walks (s : Session) (edit : Grammar → Except GrammarError Grammar) :
    (s.change edit).2.walks = s.walks := by
  rw [change]
  split
  · rfl
  · split <;> rfl

theorem perform_advance (begun : s.walks[walk]? = some w) :
    s.perform (.advance walk) =
      (((w.next s.cursor).1.map .token).mapError .cursor,
        ⟨(w.next s.cursor).2.2, s.walks.set walk (w.next s.cursor).2.1⟩) := by
  simp only [perform, begun]

theorem advance_given (begun : s.walks[walk]? = some w) :
    s.given? walk (.advance walk) = Walk.token? (w.next s.cursor).1 := by
  rw [given?, perform_advance begun]
  simp only [Request.advances, decide_true]
  cases (w.next s.cursor).1 with
  | error e => rfl
  | ok found => rfl

theorem given_of_other {r : Request} (other : r.advances walk = false) :
    s.given? walk r = none := by
  rw [given?, other]

/-- No request moves a walk but the steps of that walk. -/
theorem perform_other {r : Request} (other : r.advances walk = false)
    (begun : walk < s.walks.length) : (s.perform r).2.walks[walk]? = s.walks[walk]? := by
  cases r with
  | ask _ | collect => rfl
  | add _ _ | setTrimming _ => simp only [perform, change_walks]
  | walk =>
      simp only [perform]
      exact List.getElem?_append_left begun
  | advance another =>
      have apart : another ≠ walk := by simpa [Request.advances] using other
      cases there : s.walks[another]? with
      | none => simp only [perform, there]
      | some w =>
          rw [perform_advance there]
          exact List.getElem?_set_ne apart

/-- A walk stands behind the tokens that it was given, until it is given nothing. -/
theorem perform_walk (begun : s.walks[walk]? = some w) (r : Request) :
    (s.perform r).2.walks[walk]? =
      some ⟨w.position + (s.given? walk r).toList.length, w.finished || s.stops walk r⟩ := by
  obtain ⟨inRange, _⟩ := List.getElem?_eq_some_iff.mp begun
  cases own : r.advances walk with
  | false => simp [perform_other own inRange, begun, stops, own, given_of_other own]
  | true =>
      cases r with
      | advance another =>
          obtain rfl : another = walk := by simpa [Request.advances] using own
          rw [stops, own, advance_given begun, perform_advance begun]
          simp only [Bool.true_and]
          rw [List.getElem?_set_self inRange, Walk.next_walk]
      | _ => contradiction

theorem after_walk (begun : s.walks[walk]? = some w) (requests : List Request) :
    (s.after requests).walks[walk]? =
      some ⟨w.position + (s.given walk requests).length, w.finished || s.stopped walk requests⟩ := by
  induction requests generalizing s w with
  | nil => simpa [after, given, stopped] using begun
  | cons r rest ih =>
      have step := ih (perform_walk begun r)
      simpa [after, given, stopped, Nat.add_assoc, Bool.or_assoc] using step

theorem token_there (inside : s.cursor.scan.Inside) (begun : s.walks[walk]? = some w) {r : Request}
    {token : Token} (gift : s.given? walk r = some token) :
    (s.perform r).2.cursor.tokens[w.position]? = some token := by
  cases own : r.advances walk with
  | false =>
      rw [given_of_other own] at gift
      contradiction
  | true =>
      cases r with
      | advance another =>
          obtain rfl : another = walk := by simpa [Request.advances] using own
          have reads := Cursor.walk_reads inside w
          rw [advance_given begun, Walk.token?] at gift
          have answer : (w.next s.cursor).1 = .ok (some token) := by
            cases found : (w.next s.cursor).1 with
            | error e => simp [found, Except.toOption] at gift
            | ok found' => simpa [found, Except.toOption] using gift
          have going : w.finished = false := by
            by_contra finished
            rw [Walk.next_of_finished (by simpa using finished)] at answer
            simp at answer
          rw [perform_advance begun]
          exact (reads.answer _ answer going).there
      | _ => contradiction

/-- What a walk is given stays at its position until a new scan is begun. -/
theorem given_prefix (inside : s.cursor.scan.Inside) (begun : s.walks[walk]? = some w)
    {requests : List Request} (quiet : ∀ r ∈ requests, r.resets = false) :
    s.given walk requests <+: (s.after requests).cursor.tokens.drop w.position := by
  -- On the requests: each token given is kept at the position that the walk then leaves.
  induction requests generalizing s w with
  | nil => exact List.nil_prefix
  | cons r rest ih =>
      have keeps := perform_keeps inside (quiet r List.mem_cons_self)
      have later (r : Request) (member : r ∈ rest) : r.resets = false :=
        quiet r (List.mem_cons_of_mem _ member)
      have grows := after_grows keeps.inside later
      have onward := ih keeps.inside (perform_walk begun r) later
      rw [given, after]
      cases gift : s.given? walk r with
      | none => simpa [gift] using onward
      | some token =>
          have shows : (s.perform r).2.cursor.Shows w.position (some token) :=
            ⟨token_there inside begun gift, by simp⟩
          obtain ⟨inRange, first⟩ := List.getElem?_eq_some_iff.mp (grows.shows shows).there
          rw [gift] at onward
          rw [List.drop_eq_getElem_cons inRange, first]
          simpa using onward

end Session

/-! ### Errors -/

theorem Scan.Completion.error_of_read {c : Scan.Completion} {index : Nat} {e : CursorError}
    (failed : c.read index = .error e) : ∃ e', c.stop = .error e' ∧ e = .scan e' := by
  rw [read] at failed
  split at failed
  · contradiction
  · cases stop : c.stop with
    | ok _ => simp [stop] at failed
    | error e' => exact ⟨e', rfl, by simpa [stop] using failed.symm⟩

/-- Without a grammar that is the error; with one, only a text that nothing matches is. -/
theorem Cursor.whole_stop {c : Cursor} (inside : c.scan.Inside) {e : ScanError}
    (failed : c.whole.stop = .error e) :
    (c.grammar = none ∧ e = .noGrammar) ∨ (c.grammar.isSome ∧ ∃ rest, e = .unmatched rest) := by
  rw [whole] at failed
  split at failed
  · contradiction
  · obtain ⟨f, of⟩ := Frame.exists_frame inside
    rw [← of] at failed
    have same : c.grammar = f.grammar := by rw [grammar, ← of, f.scan_grammar]
    rw [same]
    cases current : f.grammar with
    | none =>
        have step : f.scan.next = (.error .noGrammar, f.scan) := by
          simp [Scan.next, Frame.scan_grammar, current]
        rw [Scan.complete_of_error step] at failed
        exact .inl ⟨rfl, (Except.error.inj failed).symm⟩
    | some g =>
        refine .inr ⟨rfl, ?_⟩
        cases Frame.stop_of_grammar current with
        | inl ended =>
            rw [ended] at failed
            contradiction
        | inr stuck =>
            obtain ⟨rest, stuck⟩ := stuck
            rw [stuck] at failed
            exact ⟨rest, (Except.error.inj failed).symm⟩

namespace Session

variable {s : Session} {walk : Nat} {w : Walk}

theorem advance_going (inside : s.cursor.scan.Inside) (begun : s.walks[walk]? = some w)
    (going : w.finished = false) :
    (s.perform (.advance walk)).1 =
      ((s.cursor.whole.read w.position).map .token).mapError .cursor := by
  rw [perform_advance begun, Walk.next_of_going going, (Cursor.read_eq inside w.position).1]

theorem advance_finished (begun : s.walks[walk]? = some w) (finished : w.finished = true) :
    s.perform (.advance walk) = (.ok (.token none), s) := by
  obtain ⟨inRange, same⟩ := List.getElem?_eq_some_iff.mp begun
  rw [perform_advance begun, Walk.next_of_finished finished, ← same, List.set_getElem_self]
  rfl

/-- A step of a walk scans, and does nothing else to the cursor and to other walks. -/
theorem advance_agrees (inside : s.cursor.scan.Inside) (begun : s.walks[walk]? = some w) :
    s.cursor.Agrees (s.perform (.advance walk)).2.cursor ∧
      ∀ other, other ≠ walk →
        (s.perform (.advance walk)).2.walks[other]? = s.walks[other]? := by
  rw [perform_advance begun]
  refine ⟨Walk.next_agrees inside w, ?_⟩
  intro other apart
  exact List.getElem?_set_ne apart.symm

theorem advance_error (inside : s.cursor.scan.Inside) (begun : s.walks[walk]? = some w)
    {e : RequestError} (failed : (s.perform (.advance walk)).1 = .error e) :
    (s.cursor.grammar = none ∧ e = .cursor (.scan .noGrammar)) ∨
      (s.cursor.grammar.isSome ∧ ∃ rest, e = .cursor (.scan (.unmatched rest))) := by
  cases going : w.finished with
  | true =>
      rw [advance_finished begun going] at failed
      contradiction
  | false =>
      rw [advance_going inside begun going] at failed
      cases read : s.cursor.whole.read w.position with
      | ok found => simp [read, Except.map, Except.mapError] at failed
      | error e' =>
          obtain ⟨e'', stop, rfl⟩ := Scan.Completion.error_of_read read
          obtain rfl : e = .cursor (.scan e'') := by
            simpa [read, Except.map, Except.mapError] using failed.symm
          cases Cursor.whole_stop inside stop with
          | inl none_given => exact .inl ⟨none_given.1, by rw [none_given.2]⟩
          | inr unmatched =>
              obtain ⟨given, rest, rfl⟩ := unmatched
              exact .inr ⟨given, rest, rfl⟩

/-- When all tokens can be had, every position reads as in their list. -/
theorem read_of_allTokens (inside : s.cursor.scan.Inside) {tokens : List Token}
    (all : (s.perform (.ask .allTokens)).1 = .ok (.tokens tokens)) (index : Nat) :
    s.cursor.whole.read index = .ok tokens[index]? := by
  simp only [perform, Cursor.perform, answered, (Cursor.all_eq inside).1] at all
  rw [Scan.Completion.all] at all
  cases stop : s.cursor.whole.stop with
  | error e => simp [stop, Except.map, Except.mapError] at all
  | ok _ =>
      obtain rfl : s.cursor.whole.tokens = tokens := by
        simpa [stop, Except.map, Except.mapError] using all
      rw [Scan.Completion.read, stop]
      cases here : s.cursor.whole.tokens[index]? <;> rfl

/-- A walk may be begun at any time, and any requests may follow. Its next step leaves the cursor and
the other walks where they are. Until it is given nothing, it is given what is then at the position
that counts the tokens it was given; after that, nothing for ever. Without a new scan these tokens are
the first ones of the text. -/
theorem walk_gives (grammar : Option Grammar) (text : Text) (before since : List Request) :
    let begun := (start grammar text).after before
    let walk := begun.walks.length
    let fresh := (begun.perform .walk).2
    let s := fresh.after since
    let position := (fresh.given walk since).length
    let next := s.perform (.advance walk)
    (s.cursor.Agrees next.2.cursor ∧
      ∀ other, other ≠ walk → next.2.walks[other]? = s.walks[other]?) ∧
    (fresh.stopped walk since = false →
      next.1 = ((s.cursor.whole.read position).map .token).mapError .cursor ∧
      ∀ tokens, (s.perform (.ask .allTokens)).1 = .ok (.tokens tokens) →
        next.1 = .ok (.token tokens[position]?)) ∧
    (fresh.stopped walk since = true → next = (.ok (.token none), s)) ∧
    ((∀ r ∈ since, r.resets = false) → fresh.given walk since <+: s.cursor.tokens) ∧
    ∀ e, next.1 = .error e →
      (s.cursor.grammar = none ∧ e = .cursor (.scan .noGrammar)) ∨
        (s.cursor.grammar.isSome ∧ ∃ rest, e = .cursor (.scan (.unmatched rest))) := by
  intro begun walk fresh s position next
  have inside : fresh.cursor.scan.Inside :=
    perform_inside (after_inside (Frame.start_inside grammar text) before) .walk
  have still : s.cursor.scan.Inside := after_inside inside since
  have new : fresh.walks[walk]? = some Walk.start := by simp [fresh, walk, perform]
  have there : s.walks[walk]? = some ⟨position, fresh.stopped walk since⟩ := by
    simpa [Walk.start] using after_walk new since
  refine ⟨advance_agrees still there, ?_, ?_, ?_, ?_⟩
  · intro going
    have given := advance_going still there going
    refine ⟨given, ?_⟩
    intro tokens all
    rw [given, read_of_allTokens still all]
    rfl
  · intro finished
    exact advance_finished there finished
  · intro quiet
    have kept := given_prefix inside new quiet
    simpa [Walk.start] using kept
  · intro e failed
    exact advance_error still there failed

/-- Two walks and the cursor pass over the same text in turn. The first walk has been given one token
then, and its next step gives the second one. Once it has met the end of a text, it gives nothing in
another. -/
theorem walk_gives_sums :
    let fresh := (start (some (Grammar.sums true)) "1 + 2".toList).perform .walk |>.2
    let some_steps := [Request.advance 0, .walk, .ask .nextToken, .advance 1, .advance 1]
    let all_steps := [Request.advance 0, .advance 0, .advance 0, .advance 0,
      .ask (.setText "3 + 4 + 5".toList)]
    (fresh.given 0 some_steps).length = 1 ∧
      fresh.given 0 some_steps <+: (fresh.after some_steps).cursor.tokens ∧
      ((fresh.after some_steps).perform (.advance 0)).1 =
        (((fresh.after some_steps).cursor.whole.read 1).map .token).mapError .cursor ∧
      (fresh.after all_steps).perform (.advance 0) =
        (.ok (.token none), fresh.after all_steps) := by
  intro fresh some_steps all_steps
  have quiet : ∀ r ∈ some_steps, r.resets = false := by
    simp [some_steps, Request.resets, Action.resets]
  have one : (fresh.given 0 some_steps).length = 1 := by decide +kernel
  have going : fresh.stopped 0 some_steps = false := by decide +kernel
  have finished : fresh.stopped 0 all_steps = true := by decide +kernel
  -- From here on it does not matter which requests these are.
  clear_value some_steps all_steps
  obtain ⟨_, gives, _, kept, _⟩ :=
    walk_gives (some (Grammar.sums true)) "1 + 2".toList [] some_steps
  obtain ⟨_, _, nothing, _⟩ :=
    walk_gives (some (Grammar.sums true)) "1 + 2".toList [] all_steps
  have second : ((fresh.after some_steps).perform (.advance 0)).1 =
      (((fresh.after some_steps).cursor.whole.read (fresh.given 0 some_steps).length).map
        .token).mapError .cursor := (gives going).1
  rw [one] at second
  exact ⟨one, kept quiet, second, nothing finished⟩

end Session
end MaximalMunch
