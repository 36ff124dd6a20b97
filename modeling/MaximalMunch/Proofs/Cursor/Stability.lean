import MaximalMunch.Proofs.Cursor.Session
import MaximalMunch.Proofs.Munch

/-!
Positions are stable until a new scan is begun, also when the grammar is changed in between. A token
that was reported at a position is reported there ever after; and once the end of the text has been
reached the tokens are settled, so that no change of the grammar brings a further one or an error.
-/

namespace MaximalMunch

namespace Cursor

theorem read_of_exhausted {c : Cursor} (ended : c.exhausted = true) (index : Nat) :
    c.read index = (.ok c.tokens[index]?, c) := by
  rw [read, fill_of_exhausted ended]

theorem all_of_exhausted {c : Cursor} (ended : c.exhausted = true) : c.all = (.ok c.tokens, c) := by
  rw [all, fill_of_exhausted ended]

end Cursor

namespace Session

variable {s : Session}

theorem quiet_of_report {r : Request} {report : Nat × Option Token} (h : report ∈ s.reports r) :
    r.resets = false := by
  cases resets : r.resets with
  | false => rfl
  | true =>
      rw [(s.perform_resets resets).2.2.1] at h
      contradiction

/-- What the cursor knows of a position is what every answer reports there. -/
theorem report_eq (inside : s.cursor.scan.Inside) {index : Nat} {known : Option Token}
    (shows : s.cursor.Shows index known) {r : Request} {found : Option Token}
    (h : (index, found) ∈ s.reports r) : found = known := by
  have keeps := perform_keeps inside (quiet_of_report h)
  exact (keeps.reports index found h).there.symm.trans (keeps.grows.shows shows).there

theorem exhausted_of_showsEnd (inside : s.cursor.scan.Inside) {r : Request}
    (shows : s.showsEnd r = true) : (s.perform r).2.cursor.exhausted = true := by
  cases resets : r.resets with
  | false => exact (perform_keeps inside resets).tells shows
  | true =>
      rw [(s.perform_resets resets).2.2.2] at shows
      contradiction

/-- At the end of the text no request meets an error of the scan. -/
theorem perform_calm (inside : s.cursor.scan.Inside) (ended : s.cursor.exhausted = true)
    (r : Request) (e : ScanError) : (s.perform r).1 ≠ .error (.cursor (.scan e)) := by
  cases resets : r.resets with
  | false => exact (perform_keeps inside resets).calm ended e
  | true => simp [(s.perform_resets resets).2.1]

/-- The first request may come at any time, and any number of requests after it, none of which begins
a new scan. A token that it reports at a position is the only thing reported there later. If its
answer shows the end of the text, or the scan has come to the end unseen, the tokens stay what they
are, every position can be read, and no error of the scan occurs any more. -/
theorem reports_stable (grammar : Option Grammar) (text : Text) (earlier : List Request)
    (first : Request) :
    let s := (start grammar text).after earlier
    let s' := (s.perform first).2
    (∀ index token, (index, some token) ∈ s.reports first →
      ∀ between, (∀ r ∈ between, r.resets = false) →
        ∀ later found, (index, found) ∈ (s'.after between).reports later → found = some token) ∧
    (s.showsEnd first = true ∨ s'.cursor.exhausted = true →
      ∃ tokens : List Token,
        (∀ index found, (index, found) ∈ s.reports first → found = tokens[index]?) ∧
        ∀ between, (∀ r ∈ between, r.resets = false) →
          ((s'.after between).perform (.ask .allTokens)).1 = .ok (.tokens tokens) ∧
          (∀ index, ((s'.after between).cursor.read index).1 = .ok tokens[index]?) ∧
          (∀ later index found, (index, found) ∈ (s'.after between).reports later →
            found = tokens[index]?) ∧
          ∀ later e, ((s'.after between).perform later).1 ≠ .error (.cursor (.scan e))) := by
  intro s s'
  have inside : s.cursor.scan.Inside := after_inside (Frame.start_inside grammar text) earlier
  have inside' : s'.cursor.scan.Inside := perform_inside inside first
  constructor
  · intro index token reported between quiet later found again
    have shows := (perform_keeps inside (quiet_of_report reported)).reports index _ reported
    have grows := after_grows inside' quiet
    exact report_eq (after_inside inside' between) (grows.shows shows) again
  · intro reached
    have ended : s'.cursor.exhausted = true := by
      rcases reached with shown | unseen
      · exact exhausted_of_showsEnd inside shown
      · exact unseen
    have known (index : Nat) : s'.cursor.Shows index s'.cursor.tokens[index]? :=
      ⟨rfl, fun _ => ended⟩
    -- At the end nothing is scanned any more, so what is kept then is what there ever will be.
    refine ⟨s'.cursor.tokens, ?_, ?_⟩
    · intro index found reported
      exact ((perform_keeps inside (quiet_of_report reported)).reports index found reported).there.symm
    · intro between quiet
      have still := after_inside inside' between
      have grows := after_grows inside' quiet
      obtain ⟨same, stays⟩ := grows.closed ended
      refine ⟨?_, ?_, ?_, perform_calm still stays⟩
      · simp only [perform, Cursor.perform, answered, Cursor.all_of_exhausted stays, same]
        rfl
      · intro index
        rw [Cursor.read_of_exhausted stays, same]
      · intro later index found again
        exact report_eq still (grows.shows (known index)) again

/-- Two numbers with a blank behind each. The blanks have been trimmed, and stay no tokens when the
grammar is given a type for them and trims no longer. -/
theorem reports_stable_numbers :
    let s := start (some (Grammar.sums true)) "1 2 ".toList
    let changes := [Request.add "BLANK".toList " ".toList, .setTrimming false]
    (∀ r ∈ changes, r.resets = false) ∧
    (∃ token, (0, some token) ∈ s.reports (.ask .activeToken) ∧
      ∀ found, (0, found) ∈ ((s.perform (.ask .activeToken)).2.after changes).reports
        (.ask .allTokens) → found = some token) ∧
    s.showsEnd (.ask .allTokens) = true ∧
    ∃ tokens : List Token, tokens[2]? = none ∧
      (((s.perform (.ask .allTokens)).2.after changes).perform (.ask .allTokens)).1 =
        .ok (.tokens tokens) := by
  intro s changes
  have quiet : ∀ r ∈ changes, r.resets = false := by simp [changes, Request.resets]
  have one : (0, some ⟨(Grammar.sums true).types.head (by decide), "1".toList⟩) ∈
      s.reports (.ask .activeToken) := by decide +kernel
  have shown : s.showsEnd (.ask .allTokens) = true := by decide +kernel
  have two : (2, none) ∈ s.reports (.ask .allTokens) := by decide +kernel
  refine ⟨quiet, ⟨_, one, ?_⟩, shown, ?_⟩
  · have stable := (reports_stable (some (Grammar.sums true)) "1 2 ".toList [] (.ask .activeToken)).1
    exact stable 0 _ one changes quiet (.ask .allTokens)
  · have settled := (reports_stable (some (Grammar.sums true)) "1 2 ".toList [] (.ask .allTokens)).2
    obtain ⟨tokens, reported, later⟩ := settled (.inl shown)
    exact ⟨tokens, (reported 2 none two).symm, (later changes quiet).1⟩

end Session
end MaximalMunch
