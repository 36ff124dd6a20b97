import MaximalMunch.Proofs.Cursor.Requests
import MaximalMunch.Proofs.Cursor.Scanned

/-!
How often a text is scanned. For each request the scans that it makes are listed, in order, from the
cursors that it goes through. Every loop among them ends. From one new scan to the next they give no
more tokens than the text has characters, and its end at most once; after that no scan is made.
-/

namespace MaximalMunch

namespace Cursor

/-! ### The scans of the operations -/

/-- The scans that follow an operation, none if it has failed. -/
def scansThen {α : Type} (r : Except CursorError α × Cursor) (next : α → Cursor → List Scan) :
    List Scan :=
  match r with
  | (.error _, _) => []
  | (.ok a, d) => next a d

def activeTokenScans (c : Cursor) : List Scan := c.fillScans c.active

def stepForwardScans (c : Cursor) : List Scan :=
  c.activeTokenScans ++ scansThen c.activeToken fun
    | none, _ => []
    | some _, d => d.fillScans (d.active + 1)

def previousTokenScans (c : Cursor) : List Scan :=
  scansThen c.stepBack fun _ d => d.activeTokenScans

def nextTokenScans (c : Cursor) : List Scan :=
  c.stepForwardScans ++ scansThen c.stepForward fun _ d => d.activeTokenScans

def hasNextScans (c : Cursor) : List Scan :=
  c.activeTokenScans ++ scansThen c.activeToken fun
    | none, _ => []
    | some _, d => d.nextTokenScans

def firstTokenScans (c : Cursor) : List Scan := activeTokenScans { c with active := 0 }

def lastTokenScans (c : Cursor) : List Scan :=
  c.allScans ++ scansThen c.all fun
    | [], _ => []
    | tokens, d => activeTokenScans { d with active := tokens.length - 1 }

/-- The scans that an action makes. One that begins a new scan makes none. -/
def scansFor (c : Cursor) : Action → List Scan
  | .activeToken => c.activeTokenScans
  | .stepForward => c.stepForwardScans
  | .previousToken => c.previousTokenScans
  | .nextToken => c.nextTokenScans
  | .hasNext => c.hasNextScans
  | .firstToken => c.firstTokenScans
  | .lastToken => c.lastTokenScans
  | .tokenAt _ | .allTokens => c.allScans
  | .stepBack | .hasPrevious | .reset | .setText _ | .setGrammar _ => []

end Cursor

namespace Walk

def scans (w : Walk) (c : Cursor) : List Scan := if w.finished then [] else c.fillScans w.position

/-- The scans of a walk that is followed to its end, at most so many steps. -/
def scansBy (w : Walk) (c : Cursor) : Nat → List Scan
  | 0 => []
  | fuel + 1 =>
    w.scans c ++
      match w.next c with
      | (.ok (some _), w, c) => w.scansBy c fuel
      | _ => []

end Walk

/-! ### What the scans make of the cursor -/

namespace Cursor

variable {c : Cursor} {scans : List Scan}

theorem read_made (c : Cursor) (index : Nat) : c.Made (c.fillScans index) (c.read index).2 := by
  have filled := (c.fill_fills index).made
  rw [read]
  split
  · next fails => rwa [fails] at filled
  · next fills => rwa [fills] at filled

theorem all_made (c : Cursor) : c.Made c.allScans c.all.2 := by
  have filled := (c.fill_fills (c.tokens.length + c.scan.size)).made
  rw [all]
  split
  · next fails => rwa [fails] at filled
  · next fills => rwa [fills] at filled

theorem activeToken_made (c : Cursor) : c.Made c.activeTokenScans c.activeToken.2 :=
  c.read_made c.active

theorem stepBack_made (c : Cursor) : c.Made [] c.stepBack.2 := by
  rw [stepBack]
  split
  · exact .still
  · exact c.made_move _

theorem stepForward_made (c : Cursor) : c.Made c.stepForwardScans c.stepForward.2 := by
  have here := c.activeToken_made
  rw [stepForwardScans, stepForward]
  generalize c.activeToken = r at here ⊢
  obtain ⟨answer, d⟩ := r
  cases answer with
  | error e => simpa [scansThen] using here
  | ok found =>
      cases found with
      | none => simpa [scansThen] using here
      | some token =>
          have there := here.trans (d.read_made (d.active + 1))
          simp only [scansThen]
          generalize d.read (d.active + 1) = r at there ⊢
          obtain ⟨answer, after⟩ := r
          cases answer with
          | error e => exact there
          | ok following => exact .moved _ _ there _

/-- Reading the active token after a move. -/
theorem Made.activeToken {r : Except CursorError Unit × Cursor} :
    c.Made scans r.2 →
      c.Made (scans ++ scansThen r fun _ d => d.activeTokenScans)
        (match r with
          | (.error e, c) => (.error e, c)
          | (.ok _, c) => c.activeToken : Except CursorError (Option Token) × Cursor).2 := by
  intro h
  obtain ⟨answer, d⟩ := r
  cases answer with
  | error e => simpa [scansThen] using h
  | ok _ => exact h.trans d.activeToken_made

theorem previousToken_made (c : Cursor) : c.Made c.previousTokenScans c.previousToken.2 :=
  c.stepBack_made.activeToken

theorem nextToken_made (c : Cursor) : c.Made c.nextTokenScans c.nextToken.2 :=
  c.stepForward_made.activeToken

theorem hasNext_made (c : Cursor) : c.Made c.hasNextScans c.hasNext.2 := by
  have here := c.activeToken_made
  rw [hasNextScans, hasNext]
  generalize c.activeToken = r at here ⊢
  obtain ⟨answer, d⟩ := r
  cases answer with
  | error e => simpa [scansThen] using here
  | ok found =>
      cases found with
      | none => simpa [scansThen] using here
      | some token =>
          have there := here.trans d.nextToken_made
          simp only [scansThen]
          generalize d.nextToken = r at there ⊢
          obtain ⟨answer, after⟩ := r
          cases answer with
          | error e => exact there
          | ok following => exact .moved _ _ there _

theorem firstToken_made (c : Cursor) : c.Made c.firstTokenScans c.firstToken.2 :=
  (c.made_move 0).trans (activeToken_made _)

theorem lastToken_made (c : Cursor) : c.Made c.lastTokenScans c.lastToken.2 := by
  have all := c.all_made
  rw [lastTokenScans, lastToken]
  generalize c.all = r at all ⊢
  obtain ⟨answer, d⟩ := r
  cases answer with
  | error e => simpa [scansThen] using all
  | ok tokens =>
      cases tokens with
      | nil => simpa [scansThen] using all
      | cons first rest => exact all.trans ((d.made_move _).trans (activeToken_made _))

theorem tokenAt_made (c : Cursor) (index : Int) : c.Made c.allScans (c.tokenAt index).2 := by
  have all := c.all_made
  rw [tokenAt]
  generalize c.all = r at all ⊢
  obtain ⟨answer, d⟩ := r
  cases answer with
  | error e => exact all
  | ok tokens =>
      simp only
      split
      · exact all
      · split <;> exact all

theorem perform_made (c : Cursor) {a : Action} (quiet : a.resets = false) :
    c.Made (c.scansFor a) (c.perform a).2 := by
  cases a with
  | activeToken => exact c.activeToken_made
  | stepBack => exact c.stepBack_made
  | stepForward => exact c.stepForward_made
  | previousToken => exact c.previousToken_made
  | nextToken => exact c.nextToken_made
  | hasPrevious => exact .still
  | hasNext => exact c.hasNext_made
  | firstToken => exact c.firstToken_made
  | lastToken => exact c.lastToken_made
  | tokenAt index => exact c.tokenAt_made index
  | allTokens => exact c.all_made
  | reset | setText _ | setGrammar _ => contradiction

theorem walk_made (c : Cursor) (w : Walk) : c.Made (w.scans c) (w.next c).2.2 := by
  have here := c.read_made w.position
  rw [Walk.scans, Walk.next]
  split
  · exact .still
  · generalize c.read w.position = r at here ⊢
    obtain ⟨answer, d⟩ := r
    cases answer with
    | error e => exact here
    | ok found => cases found <;> exact here

theorem collectBy_made (c : Cursor) (w : Walk) (fuel : Nat) :
    c.Made (w.scansBy c fuel) (w.collectBy c fuel).2 := by
  induction fuel generalizing c w with
  | zero => exact .still
  | succ fuel ih =>
      have step := c.walk_made w
      rw [Walk.scansBy, Walk.collectBy]
      generalize w.next c = r at step ⊢
      obtain ⟨answer, w', d⟩ := r
      cases answer with
      | error e => simpa using step
      | ok found =>
          cases found with
          | none => simpa using step
          | some token =>
              have later := step.trans (ih d w')
              simp only
              generalize w'.collectBy d fuel = r at later ⊢
              obtain ⟨answer, after⟩ := r
              cases answer <;> exact later

end Cursor

/-! ### Requests -/

namespace Session

variable {s : Session}

/-- The scans that a request makes. -/
def scansFor (s : Session) : Request → List Scan
  | .ask action => s.cursor.scansFor action
  | .advance walk =>
    match s.walks[walk]? with
    | some w => w.scans s.cursor
    | none => []
  | .collect => Walk.start.scansBy s.cursor (s.cursor.tokens.length + s.cursor.scan.size + 1)
  | .walk | .add _ _ | .setTrimming _ => []

/-- The scans that these requests make, one after another. -/
def scans (s : Session) : List Request → List Scan
  | [] => []
  | r :: rest => s.scansFor r ++ (s.perform r).2.scans rest

theorem perform_made (s : Session) {r : Request} (quiet : r.resets = false) :
    s.cursor.Made (s.scansFor r) (s.perform r).2.cursor := by
  cases r with
  | ask action => exact s.cursor.perform_made quiet
  | add name regex =>
      simp only [perform, change_eq]
      exact .changed [] _ .still _
  | setTrimming trimming =>
      simp only [perform, change_eq]
      exact .changed [] _ .still _
  | walk => exact .still
  | advance walk =>
      simp only [scansFor, perform]
      cases s.walks[walk]? with
      | none => exact .still
      | some w => exact s.cursor.walk_made w
  | collect => exact s.cursor.collectBy_made Walk.start _

theorem after_made {requests : List Request} (quiet : ∀ r ∈ requests, r.resets = false) :
    s.cursor.Made (s.scans requests) (s.after requests).cursor := by
  induction requests generalizing s with
  | nil => exact .still
  | cons r rest ih =>
      have step := s.perform_made (quiet r List.mem_cons_self)
      exact step.trans (ih fun r member => quiet r (List.mem_cons_of_mem _ member))

/-- Whatever has been asked for, the loops end: the one that fills up to a position, the text being over
or a scan failing if there is no token, and the one that reads all. Every token moves the position, so
that from one new scan to the next, with whatever walks were begun before it, the text is passed over
once. -/
theorem scans_end (grammar : Option Grammar) (text : Text) (walks : List Walk)
    (requests : List Request) :
    let s : Session := ⟨Cursor.start grammar text, walks⟩
    let c := (s.after requests).cursor
    (∀ index, c.Fills index (c.fillScans index) (c.fill index) ∧
      (c.fillScans index).length ≤ c.scan.size + 1 ∧ ∀ x ∈ c.fillScans index, x.Progresses) ∧
    (c.FillsAll c.allScans (c.fill (c.tokens.length + c.scan.size)) ∧
      c.allScans.length ≤ c.scan.size + 1 ∧ ∀ x ∈ c.allScans, x.Progresses) ∧
    ((∀ r ∈ requests, r.resets = false) →
      s.cursor.Made (s.scans requests) c ∧ Scan.PassOnce text (s.scans requests) ∧
        c.tokens = (s.scans requests).filterMap Scan.token?) := by
  intro s c
  have inside : c.scan.Inside := after_inside (Frame.start_inside grammar text) requests
  have progresses (index : Nat) : ∀ x ∈ c.fillScans index, x.Progresses := by
    intro x member
    exact Scan.progresses (((c.fill_fills index).made.inside inside).2 x member)
  refine ⟨?_, ?_, ?_⟩
  · intro index
    exact ⟨c.fill_fills index, c.fillScansBy_length index _, progresses index⟩
  · exact ⟨c.fill_fillsAll, c.fillScansBy_length _ _, progresses _⟩
  · intro quiet
    have made : s.cursor.Made (s.scans requests) c := after_made quiet
    exact ⟨made, made.passOnce, made.accounts.tokens_eq.symm⟩

/-- An empty match is none, and the first other letter stops the scan until there is a type for it.
Then all is read, and reading it again makes no scan. -/
theorem scans_end_words :
    let s : Session := ⟨Cursor.start (some ⟨[], false⟩) "xxyx".toList, []⟩
    let requests := [Request.add "X".toList "x*".toList, .ask .allTokens,
      .add "Y".toList "y".toList, .collect, .ask .lastToken]
    (∀ r ∈ requests, r.resets = false) ∧
      (s.scans requests).map (fun x => (x.pos, x.token?.isSome, x.ends)) =
        [(0, true, false), (2, false, false), (2, true, false), (3, true, false), (4, false, true)] ∧
      Scan.PassOnce "xxyx".toList (s.scans requests) := by
  intro s requests
  have quiet : ∀ r ∈ requests, r.resets = false := by
    simp [requests, Request.resets, Action.resets]
  have made : (s.scans requests).map (fun x => (x.pos, x.token?.isSome, x.ends)) =
      [(0, true, false), (2, false, false), (2, true, false), (3, true, false),
        (4, false, true)] := by
    decide +kernel
  -- From here on it does not matter which requests these are.
  clear_value requests
  obtain ⟨_, _, once⟩ := scans_end (some ⟨[], false⟩) "xxyx".toList [] requests
  exact ⟨quiet, made, (once quiet).2.1⟩

end Session
end MaximalMunch
