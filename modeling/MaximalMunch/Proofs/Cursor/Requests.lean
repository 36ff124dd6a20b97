import MaximalMunch.Proofs.Cursor.Moves

/-!
What a request leaves of the cursor of a session. It begins a new scan, changes the grammar, or leads
the cursor to the positions that it asks for; a step of a walk asks for the position of the walk, and
a whole walk for everything.
-/

namespace MaximalMunch

/-! ### Walks -/

/-- How many positions a step of a walk asks for. -/
def Walk.asks (w : Walk) : ℕ∞ := if w.finished then 0 else w.position + 1

namespace Cursor

variable {c : Cursor}

theorem walk_reach (inside : c.scan.Inside) (w : Walk) : (w.next c).2.2 = c.reach w.asks := by
  rw [Walk.next, Walk.asks]
  split
  · exact (reach_zero c).symm
  · rw [read_eq_reach inside]
    cases c.whole.read w.position with
    | error e => rfl
    | ok found => cases found <;> rfl

/-- A walk that is followed for long enough asks for everything. -/
theorem collectBy_reach (inside : c.scan.Inside) {w : Walk} (going : w.finished = false) {fuel : Nat}
    (enough : c.whole.tokens.length - w.position < fuel) :
    (w.collectBy c fuel).2 = c.reach ⊤ := by
  induction fuel generalizing c w with
  | zero => omega
  | succ fuel ih =>
      have reached := reach_agrees inside (w.position + 1)
      rw [Walk.collectBy, Walk.next, going, read_eq_reach inside]
      simp only [Bool.false_eq_true, if_false]
      rcases Nat.lt_or_ge w.position c.whole.tokens.length with there | missing
      · rw [Scan.Completion.read_of_lt there]
        have more : (c.reach (w.position + 1)).whole.tokens.length - (w.position + 1) < fuel := by
          rw [reached.whole]
          omega
        have later := @ih _ reached.inside ⟨w.position + 1, false⟩ rfl more
        rw [reach_reach inside, max_eq_right le_top] at later
        simp only
        generalize Walk.collectBy ⟨w.position + 1, false⟩ (c.reach (w.position + 1)) fuel = r
          at later ⊢
        obtain ⟨answer, d⟩ := r
        cases answer <;> exact later
      · rw [← reach_eq_top missing]
        rcases Scan.Completion.read_of_le missing with stopped | ⟨e, stopped⟩ <;> rw [stopped]

theorem collect_reach (inside : c.scan.Inside) : c.collect.2 = c.reach ⊤ := by
  have few := c.whole_length_le
  refine collectBy_reach (w := Walk.start) inside rfl ?_
  simp only [Walk.start]
  omega

end Cursor

/-! ### Requests -/

/-- The text to be scanned after a request. -/
def Request.text (text : Text) : Request → Text
  | .ask (.setText text) => text
  | _ => text

/-- The grammar to scan with after a request. One that refuses a type stays as it is. -/
def Request.grammar (grammar : Option Grammar) : Request → Option Grammar
  | .ask (.setGrammar grammar) => grammar
  | .add name regex => grammar.map fun g => (g.add name regex).toOption.getD g
  | .setTrimming trimming => grammar.map fun g => { g with trimming }
  | _ => grammar

theorem Request.grammar_of_ask {a : Action} (quiet : a.resets = false) (grammar : Option Grammar) :
    (ask a).grammar grammar = grammar := by
  cases a with
  | setGrammar _ => contradiction
  | _ => rfl

theorem Request.text_of_quiet {r : Request} (quiet : r.resets = false) (text : Text) :
    r.text text = text := by
  cases r with
  | ask action =>
      cases action with
      | setText _ => contradiction
      | _ => rfl
  | _ => rfl

namespace Session

variable {s : Session}

/-- How many positions a request asks for. A walk that was never begun asks for none. -/
def asks (s : Session) : Request → ℕ∞
  | .ask action => s.cursor.asks action
  | .advance walk =>
    match s.walks[walk]? with
    | some w => w.asks
    | none => 0
  | .collect => ⊤
  | .walk | .add _ _ | .setTrimming _ => 0

theorem change_eq (s : Session) (edit : Grammar → Except GrammarError Grammar) :
    (s.change edit).2.cursor =
      s.cursor.changeGrammar (s.cursor.grammar.map fun g => (edit g).toOption.getD g) := by
  have same : s.cursor.changeGrammar s.cursor.grammar = s.cursor := rfl
  rw [change]
  cases current : s.cursor.grammar with
  | none => exact same.symm.trans (by rw [current]; rfl)
  | some g =>
      cases edited : edit g with
      | error e => simpa [edited, current, Except.toOption] using same.symm
      | ok g' => simp [edited, Except.toOption]

/-- What a request can make of the cursor. -/
inductive Moved (s : Session) (r : Request) : Cursor → Prop where
  | renewed (resets : r.resets = true) :
      Moved s r (Cursor.start (r.grammar s.cursor.grammar) (r.text s.cursor.text))
  | changed (quiet : r.resets = false) (nothing : s.asks r = 0) :
      Moved s r (s.cursor.changeGrammar (r.grammar s.cursor.grammar))
  | led (quiet : r.resets = false) (still : r.grammar s.cursor.grammar = s.cursor.grammar)
      (d : Cursor) (leads : s.cursor.Leads (s.asks r) d) (fits : d.active ≤ d.tokens.length) :
      Moved s r d

theorem moved_of_reach (inside : s.cursor.scan.Inside)
    (fits : s.cursor.active ≤ s.cursor.tokens.length) {r : Request} (quiet : r.resets = false)
    (still : r.grammar s.cursor.grammar = s.cursor.grammar) :
    s.Moved r (s.cursor.reach (s.asks r)) := by
  have length := Cursor.reach_tokens_length inside (s.asks r)
  have active := (Cursor.reach_agrees inside (s.asks r)).active
  refine .led quiet still _ (Cursor.leads_reach _ _) ?_
  omega

theorem ask_moved (inside : s.cursor.scan.Inside)
    (fits : s.cursor.active ≤ s.cursor.tokens.length) (action : Action) :
    s.Moved (.ask action) (s.perform (.ask action)).2.cursor := by
  cases resets : action.resets with
  | false =>
      exact .led (r := .ask action) resets (Request.grammar_of_ask resets _) _
        (Cursor.perform_leads inside fits resets) (Cursor.perform_fits inside fits resets)
  | true =>
      cases action with
      | reset | setText _ | setGrammar _ => exact .renewed rfl
      | _ => contradiction

theorem advance_reach (inside : s.cursor.scan.Inside) (walk : Nat) :
    (s.perform (.advance walk)).2.cursor = s.cursor.reach (s.asks (.advance walk)) := by
  cases begun : s.walks[walk]? with
  | none => simp only [perform, asks, begun, Cursor.reach_zero]
  | some w =>
      simp only [perform, asks, begun]
      exact Cursor.walk_reach inside w

theorem perform_moved (inside : s.cursor.scan.Inside)
    (fits : s.cursor.active ≤ s.cursor.tokens.length) (r : Request) :
    s.Moved r (s.perform r).2.cursor := by
  cases r with
  | ask action => exact ask_moved inside fits action
  | add name regex =>
      have changed := s.change_eq fun g => g.add name regex
      simp only [perform, changed]
      exact .changed rfl rfl
  | setTrimming trimming =>
      have changed := s.change_eq fun g => .ok { g with trimming }
      simp only [perform, changed]
      exact .changed rfl rfl
  | walk => exact .changed rfl rfl
  | advance walk =>
      rw [advance_reach inside]
      exact moved_of_reach inside fits rfl rfl
  | collect =>
      have everything : (s.perform .collect).2.cursor = s.cursor.reach (s.asks .collect) :=
        Cursor.collect_reach inside
      rw [everything]
      exact moved_of_reach inside fits rfl rfl

/-- A request that neither begins a new scan nor changes the grammar leads the cursor on. -/
theorem Moved.leads {r : Request} {d : Cursor} (moved : s.Moved r d) (quiet : r.resets = false)
    (still : d.grammar = s.cursor.grammar) : s.cursor.Leads (s.asks r) d := by
  cases moved with
  | renewed resets =>
      rw [quiet] at resets
      contradiction
  | changed _ nothing =>
      have same : r.grammar s.cursor.grammar = s.cursor.grammar := still
      rw [nothing, same]
      exact Cursor.leads_self s.cursor
  | led _ _ _ leads _ => exact leads

/-- The cursor has the text and the grammar that it was given last. -/
theorem Moved.given (inside : s.cursor.scan.Inside) {r : Request} {d : Cursor} (moved : s.Moved r d) :
    d.text = r.text s.cursor.text ∧ d.grammar = r.grammar s.cursor.grammar := by
  cases moved with
  | renewed resets => exact ⟨rfl, rfl⟩
  | changed quiet _ => exact ⟨(Request.text_of_quiet quiet _).symm, rfl⟩
  | led quiet still _ leads _ =>
      rw [Request.text_of_quiet quiet, still]
      exact ⟨leads.text inside, leads.grammar inside⟩

end Session
end MaximalMunch
