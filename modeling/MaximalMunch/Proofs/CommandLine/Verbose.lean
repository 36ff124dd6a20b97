import MaximalMunch.Proofs.CommandLine.ReadBack
import MaximalMunch.Proofs.Cursor.Loops
import MaximalMunch.Proofs.Pattern.Extent
import MaximalMunch.Proofs.Scan.Stuck

/-!
The log of a run. Writing it out changes neither the exit code nor standard output, and it stands
before all else on standard error. Behind what is said of the grammar and the text it has one line for
each token that is written, in their order, and the offset in it is where the token lies in the text: it
is counted back from the end of the token, by as many characters as its type has matched there.
-/

namespace MaximalMunch

namespace Frame

/-- A token lies behind the front of the window and the blanks that are trimmed there, and its type
matches all of it and no more. -/
theorem text_of_token {f after : Frame} {token : Token} (h : f.next = (.ok (some token), after)) :
    ∃ gap, Text.AllBlank gap ∧ after.front = f.front ++ gap ++ token.value ∧
      f.text = f.front ++ gap ++ token.value ++ (after.rest ++ after.back) ∧
      token.type.matchLength? (token.value ++ after.rest) = some token.value.length := by
  have step := yields_next f
  rw [h] at step
  obtain ⟨gap, isGap, front⟩ := step.front_eq
  simp only [Scan.piece?, Option.getD_some] at front
  refine ⟨gap, isGap.1, front, ?place, ?length⟩
  case place =>
    rw [← step.text_eq, text, front, List.append_assoc _ after.rest]
  case length =>
    cases hg : f.grammar with
    | none => simp [next, hg] at h
    | some g =>
        have outcome := next_outcome hg
        rw [h] at outcome
        cases outcome with
        | token p l offered left chosen =>
            have matched := (Scan.chosen_of_longest? chosen).length_eq
            have fits := TokenType.matchLength?_le matched
            simpa [cut, eat, Nat.min_eq_left fits] using matched

theorem back_of_token {f after : Frame} {token : Token} (blank : Text.AllBlank f.back)
    (h : f.next = (.ok (some token), after)) : Text.AllBlank after.back := by
  have step := yields_next f
  rw [h] at step
  obtain ⟨tail, isTail, back⟩ := step.back_eq
  rw [back]
  exact isTail.1.append blank

/-- Where a scan comes to the end, nothing but blanks has been left of the text. -/
theorem text_of_end {f after : Frame} (blank : Text.AllBlank f.back)
    (h : f.next = (.ok none, after)) :
    ∃ rest, Text.AllBlank rest ∧ f.text = f.front ++ rest := by
  have step := yields_next f
  have nothing_left := rest_of_end h
  rw [h] at step
  obtain ⟨gap, tail, isGap, isTail, window, -⟩ := step.rest_eq
  simp only [Scan.piece?, Option.getD_none, List.append_nil, nothing_left] at window
  refine ⟨gap ++ tail ++ f.back, (isGap.1.append isTail.1).append blank, ?_⟩
  rw [text, window, List.append_assoc f.front]

end Frame

namespace Cursor

/-- To read the position behind the tokens that are kept is to scan once. -/
theorem read_further {c : Cursor} (running : c.exhausted = false) :
    c.read c.tokens.length = (c.scan.next.1.mapError .scan, c.onward) := by
  obtain ⟨scan, tokens, _, active⟩ := c
  cases running
  have there (token : Token) (after : Scan) (fuel : Nat) :
      fillBy ⟨after, tokens ++ [token], false, active⟩ tokens.length fuel =
        (.ok (), ⟨after, tokens ++ [token], false, active⟩) := by
    cases fuel <;> simp [fillBy]
  rw [read, fill, fillBy, onward]
  rcases scan.next with ⟨_ | _ | token, after⟩ <;> simp [there, Except.mapError]

end Cursor

namespace CommandLine

/-! ### Tokens in their places -/

/-- Tokens that lie in the text between two places, each of them at its offset and nothing but blanks
before it, and matched by their types in full. -/
inductive LiesIn (text : Text) : Int → List Located → Int → Prop
  | none (place : Int) : LiesIn text place [] place
  | token (place stop : Int) (l : Located) (rest : List Located) (behind : place ≤ l.offset)
      (gap : Text.AllBlank (Text.slice text place l.offset))
      (here : Text.slice text l.offset (l.offset + l.token.value.length) = l.token.value)
      (matched : ∃ more, l.token.type.matchLength? (l.token.value ++ more) =
        some l.token.value.length)
      (later : LiesIn text (l.offset + l.token.value.length) rest stop) :
      LiesIn text place (l :: rest) stop

theorem LiesIn.of_append {front gap behind : Text} {token : Token} {rest : List Located}
    {stop : Int} (blank : Text.AllBlank gap)
    (matched : ∃ more, token.type.matchLength? (token.value ++ more) = some token.value.length)
    (later : LiesIn (front ++ gap ++ token.value ++ behind)
      (front ++ gap ++ token.value).length rest stop) :
    LiesIn (front ++ gap ++ token.value ++ behind) front.length
      (⟨token, (front ++ gap).length⟩ :: rest) stop := by
  have before := Text.slice_append front gap (token.value ++ behind)
  have here := Text.slice_append (front ++ gap) token.value behind
  rw [← List.append_assoc, ← Int.natCast_add, ← List.length_append] at before
  rw [List.length_append, Int.natCast_add] at later
  refine .token _ _ _ _ ?_ ?_ here matched later
  · simp only [List.length_append]
    omega
  · rw [before]
    exact blank

theorem locateFrom_liesIn {c : Cursor} {f : Frame} {fuel : Nat} (of : f.scan = c.scan)
    (running : c.exhausted = false) (blank : Text.AllBlank f.back) (enough : f.rest.length < fuel) :
    ∃ stop, LiesIn f.text f.front.length (locateFrom c c.tokens.length fuel).1 stop ∧
      ((locateFrom c c.tokens.length fuel).2 = none →
        Text.AllBlank (Text.slice f.text stop f.text.length)) := by
  -- On the fuel: a token leaves a frame of the same text, whose front ends where the token does.
  induction fuel generalizing c f with
  | zero => omega
  | succ fuel ih =>
      have scanned := f.next_scan
      rw [of] at scanned
      rw [locateFrom, Cursor.read_further running, scanned]
      cases h : f.next with
      | mk reply after =>
          rw [h] at scanned
          rcases reply with e | _ | token
          · exact ⟨_, .none _, fun ended => absurd ended (Option.some_ne_none _)⟩
          · obtain ⟨rest, isBlank, whole⟩ := Frame.text_of_end blank h
            refine ⟨_, .none _, fun _ => ?_⟩
            have remaining := Text.slice_append f.front rest []
            rw [List.append_nil, ← Int.natCast_add, ← List.length_append, ← whole] at remaining
            rw [remaining]
            exact isBlank
          · obtain ⟨gap, isGap, front, whole, matched⟩ := Frame.text_of_token h
            have moved := Cursor.onward_of_token running scanned
            have shorter := Frame.rest_length_lt_of_next h
            have kept : after.text = f.text := by simpa only [h] using f.next_kept.1
            have further : c.onward.tokens.length = c.tokens.length + 1 := by simp [moved]
            have later := @ih c.onward after (by rw [moved]) (by rw [moved]; exact running)
              (Frame.back_of_token blank h) (by omega)
            rw [further, kept, front] at later
            obtain ⟨stop, places, ended⟩ := later
            refine ⟨stop, ?_, ended⟩
            have offset : c.onward.scan.pos - token.value.length = ((f.front ++ gap).length : Int) := by
              rw [moved]
              simp only [Frame.scan, front, List.length_append]
              omega
            simp only [Except.mapError, offset]
            rw [whole] at places ⊢
            exact .of_append isGap ⟨_, matched⟩ places

theorem locate_liesIn (g : Grammar) (text : Text) :
    ∃ stop, LiesIn text 0 (locate g text).1 stop ∧
      ((locate g text).2 = none → Text.AllBlank (Text.slice text stop text.length)) := by
  have whole : (Frame.start (some g) text).text = text := by simp [Frame.start, Frame.text]
  have located := locateFrom_liesIn (c := Cursor.start (some g) text) (Frame.scan_start (some g) text)
    rfl Text.allBlank_nil (Nat.lt_succ_self text.length)
  rw [whole] at located
  exact located

/-! ### The log -/

/-- The token of an entry that tells of one, with the offset that it gives. -/
def LogEntry.located? : LogEntry → Option Located
  | .scanned token offset => some ⟨token, offset⟩
  | _ => none

/-- The tokens that the log tells of. -/
def Report.located (r : Report) : List Located := r.log.filterMap LogEntry.located?

/-- The words in front of an entry, with those that its message begins with. -/
theorem LogEntry.line_eq {e : LogEntry} {start rest head : Text} (message : e.message = start ++ rest)
    (front : "DEBUG grammar_tokenizer.".toList ++ e.source ++ ": ".toList ++ start = head) :
    e.line = head ++ rest ++ ['\n'] := by
  have whole : e.line = "DEBUG grammar_tokenizer.".toList ++ e.source ++ ": ".toList ++ e.message ++
      ['\n'] := rfl
  rw [whole, message, ← List.append_assoc _ start rest, front]

def loadingLine (path : Text) : Text :=
  "DEBUG grammar_tokenizer.grammar: Loading grammar from ".toList ++ path ++ ['\n']

theorem line_loading (path : Text) : LogEntry.line (.loading path) = loadingLine path := by
  have front : "DEBUG grammar_tokenizer.".toList ++ "grammar".toList ++ ": ".toList ++
      "Loading grammar from ".toList =
        "DEBUG grammar_tokenizer.grammar: Loading grammar from ".toList := by decide +kernel
  exact LogEntry.line_eq rfl front

def builtLine (g : Grammar) : Text :=
  "DEBUG grammar_tokenizer.grammar: Built ".toList ++ g.shown ++ ['\n']

theorem line_built (g : Grammar) : LogEntry.line (.built g) = builtLine g := by
  have front : "DEBUG grammar_tokenizer.".toList ++ "grammar".toList ++ ": ".toList ++
      "Built ".toList = "DEBUG grammar_tokenizer.grammar: Built ".toList := by decide +kernel
  exact LogEntry.line_eq rfl front

def tokenizingLine (size : Nat) (g : Grammar) : Text :=
  "DEBUG grammar_tokenizer.cli: Tokenizing ".toList ++
    (Text.ofNat size ++ (" characters with ".toList ++ g.shown)) ++ ['\n']

theorem line_tokenizing (size : Nat) (g : Grammar) :
    LogEntry.line (.tokenizing size g) = tokenizingLine size g := by
  have front : "DEBUG grammar_tokenizer.".toList ++ "cli".toList ++ ": ".toList ++
      "Tokenizing ".toList = "DEBUG grammar_tokenizer.cli: Tokenizing ".toList := by decide +kernel
  refine LogEntry.line_eq ?_ front
  exact (List.append_assoc _ _ _).trans (List.append_assoc _ _ _)

def resetLine (size : Nat) : Text :=
  "DEBUG grammar_tokenizer.tokenizer: Tokenizer reset, ".toList ++
    (Text.ofNat size ++ " characters to scan".toList) ++ ['\n']

theorem line_reset (size : Nat) : LogEntry.line (.reset size) = resetLine size := by
  have front : "DEBUG grammar_tokenizer.".toList ++ "tokenizer".toList ++ ": ".toList ++
      "Tokenizer reset, ".toList =
        "DEBUG grammar_tokenizer.tokenizer: Tokenizer reset, ".toList := by decide +kernel
  exact LogEntry.line_eq (List.append_assoc _ _ _) front

/-- The line for a token: its name, its value between quotes and its offset. -/
def scannedLine (l : Located) : Text :=
  "DEBUG grammar_tokenizer.scanner: Scanned ".toList ++
    (l.token.name ++ ":\"".toList ++ l.token.value ++ "\"".toList ++
      (" at offset ".toList ++ Text.ofInt l.offset)) ++ ['\n']

theorem line_scanned (l : Located) :
    LogEntry.line (.scanned l.token l.offset) = scannedLine l := by
  have front : "DEBUG grammar_tokenizer.".toList ++ "scanner".toList ++ ": ".toList ++
      "Scanned ".toList = "DEBUG grammar_tokenizer.scanner: Scanned ".toList := by decide +kernel
  refine LogEntry.line_eq ?_ front
  exact (List.append_assoc _ _ _).trans (List.append_assoc _ _ _)

/-- The lines before the first token, by what the path leads to. A file that is not found is not
loaded. -/
def openingLines (a : Arguments) (text : Text) : Except LoadError Grammar → Text
  | .ok g =>
    loadingLine (Path.ofText a.path).text ++ builtLine g ++
      tokenizingLine text.length (withTrimming g a.trimming) ++ resetLine text.length
  | .error (.missing _) | .error (.nameTooLong _) => []
  | .error _ => loadingLine (Path.ofText a.path).text

theorem lines_refused (a : Arguments) (text : Text) (e : LoadError) :
    (loadingLog (Path.ofText a.path) (.error e)).flatMap LogEntry.line =
      openingLines a text (.error e) := by
  cases e <;> simp [loadingLog, openingLines, line_loading]

theorem lines_tokenizing (a : Arguments) (text : Text) (g : Grammar) :
    (tokenizing (loadingLog (Path.ofText a.path) (.ok g)) (withTrimming g a.trimming) text).log.flatMap
        LogEntry.line =
      openingLines a text (.ok g) ++
        (locate (withTrimming g a.trimming) text).1.flatMap scannedLine := by
  simp [tokenizing, loadingLog, openingLines, line_loading, line_built, line_tokenizing, line_reset,
    List.flatMap_map, line_scanned]

theorem located_loadingLog (path : Path) (loaded : Except LoadError Grammar) :
    (loadingLog path loaded).filterMap LogEntry.located? = [] := by
  unfold loadingLog
  split <;> rfl

theorem located_tokenizing (path : Path) (loaded : Except LoadError Grammar) (g : Grammar)
    (text : Text) : (tokenizing (loadingLog path loaded) g text).located = (locate g text).1 := by
  have entries : (locate g text).1.filterMap
      (LogEntry.located? ∘ fun l => .scanned l.token l.offset) = (locate g text).1 :=
    List.filterMap_some
  simp only [Report.located, tokenizing, List.filterMap_append, located_loadingLog,
    List.filterMap_map, entries]
  rfl

theorem located_refused (path : Path) (e : LoadError) :
    Report.located ⟨[], loadingLog path (.error e), some e.message⟩ = [] :=
  located_loadingLog path (.error e)

/-- What a run reports on a text: how it was cut into tokens, or why there is no grammar for it. -/
inductive Reported (a : Arguments) (text : Text) (loaded : Except LoadError Grammar) : Report → Prop
  | tokenized (g : Grammar) (loads : loaded = .ok g) :
      Reported a text loaded
        (tokenizing (loadingLog (Path.ofText a.path) (.ok g)) (withTrimming g a.trimming) text)
  | refused (e : LoadError) (fails : loaded = .error e) :
      Reported a text loaded ⟨[], loadingLog (Path.ofText a.path) (.error e), some e.message⟩

variable {files : Files} {stdin text : Text} {a : Arguments} {r : Report}

theorem reported_of_run {found : Found} (ran : run found stdin a = .ok r) :
    Reported a (a.text.getD stdin) (Grammar.ofFound (Path.ofText a.path) found) r := by
  rw [run] at ran
  generalize Grammar.ofFound (Path.ofText a.path) found = loaded at ran
  cases loaded with
  | ok g =>
      obtain rfl := Except.ok.inj ran
      exact .tokenized g rfl
  | error e =>
      cases told : e.isReported with
      | true =>
          simp only [told, if_true, Except.ok.injEq] at ran
          obtain rfl := ran
          exact .refused e rfl
      | false => simp [told] at ran

variable {loaded : Except LoadError Grammar}

theorem Reported.located (h : Reported a text loaded r) :
    r.located.map (·.token) = r.tokens ∧
      ∃ stop, LiesIn text 0 r.located stop ∧
        (r.exitCode = 0 → Text.AllBlank (Text.slice text stop text.length)) := by
  cases h with
  | tokenized g loads =>
      obtain ⟨stop, places, ended⟩ := locate_liesIn (withTrimming g a.trimming) text
      rw [located_tokenizing]
      refine ⟨rfl, stop, places, fun success => ended ?_⟩
      have none_told : (tokenizing (loadingLog (Path.ofText a.path) (.ok g))
          (withTrimming g a.trimming) text).error = none := by
        simpa [Report.exitCode] using success
      exact Option.map_eq_none_iff.mp none_told
  | refused e fails =>
      rw [located_refused]
      exact ⟨rfl, 0, .none 0, fun success => absurd success Nat.one_ne_zero⟩

/-- The log says what the run begins with, and then tells of its tokens. -/
theorem Reported.log (h : Reported a text loaded r) :
    r.log.flatMap LogEntry.line = openingLines a text loaded ++ r.located.flatMap scannedLine := by
  cases h with
  | tokenized g loads => rw [loads, located_tokenizing, lines_tokenizing]
  | refused e fails =>
      rw [fails, located_refused, List.flatMap_nil, List.append_nil]
      exact lines_refused a text e

theorem execute_of_run {words : List Text} (ran : run (files.find (Path.ofText a.path)) stdin a = .ok r)
    (verbose : Bool) (reads : Arguments.read words = .ok { a with verbose }) :
    execute files stdin words = .finished r.exitCode (lines r.tokens) (r.messages verbose) := by
  have same : run (files.find (Path.ofText a.path)) stdin { a with verbose } = .ok r := ran
  rw [execute, reads]
  simp only [same, Report.output, records_zero]

/-- Two command lines that mean the same, but for writing out the log, end with the same exit code and
the same standard output, and differ by the log on standard error. Behind the lines on the grammar and
the text, it has one line for each token that is written, in their order; and the tokens lie in the text
at the offsets that it gives, with nothing but blanks between them, and behind the last if the run is a
success. -/
theorem execute_verbose {quiet loud : List Text}
    (ran : run (files.find (Path.ofText a.path)) stdin a = .ok r)
    (silent : Arguments.read quiet = .ok { a with verbose := false })
    (verbose : Arguments.read loud = .ok { a with verbose := true }) :
    execute files stdin quiet =
        .finished r.exitCode (lines r.tokens) (Report.errorLine r.error) ∧
      execute files stdin loud =
        .finished r.exitCode (lines r.tokens)
          (openingLines a (a.text.getD stdin) (Grammar.ofFile files (Path.ofText a.path)) ++
            r.located.flatMap scannedLine ++ Report.errorLine r.error) ∧
      r.located.map (·.token) = r.tokens ∧
      ∃ stop, LiesIn (a.text.getD stdin) 0 r.located stop ∧
        (r.exitCode = 0 →
          Text.AllBlank (Text.slice (a.text.getD stdin) stop (a.text.getD stdin).length)) := by
  have reported := reported_of_run ran
  have loads : Grammar.ofFound (Path.ofText a.path) (files.find (Path.ofText a.path)) =
      Grammar.ofFile files (Path.ofText a.path) := rfl
  rw [loads] at reported
  refine ⟨execute_of_run ran false silent, ?_, reported.located⟩
  rw [← reported.log]
  exact execute_of_run ran true verbose

def sumsReport : Report :=
  tokenizing [.loading "sums".toList, .built (Grammar.sums false)] (Grammar.sums true)
    " 12 + 3 ".toList

/-- Standard error of the run, all of it the log. -/
def sumsLog : Text :=
  "DEBUG grammar_tokenizer.grammar: Loading grammar from sums\n".toList ++
    "DEBUG grammar_tokenizer.grammar: Built Grammar([NUMBER, PLUS], trimming=False)\n".toList ++
    "DEBUG grammar_tokenizer.cli: Tokenizing 8 characters with ".toList ++
    "Grammar([NUMBER, PLUS], trimming=True)\n".toList ++
    "DEBUG grammar_tokenizer.tokenizer: Tokenizer reset, 8 characters to scan\n".toList ++
    "DEBUG grammar_tokenizer.scanner: Scanned NUMBER:\"12\" at offset 1\n".toList ++
    "DEBUG grammar_tokenizer.scanner: Scanned PLUS:\"+\" at offset 4\n".toList ++
    "DEBUG grammar_tokenizer.scanner: Scanned NUMBER:\"3\" at offset 6\n".toList

/-- The offsets count the blanks that were trimmed. -/
theorem execute_verbose_sums :
    let a : Arguments := ⟨"sums".toList, some " 12 + 3 ".toList, some true, false⟩
    run (sumsFiles.find (Path.ofText a.path)) [] a = .ok sumsReport ∧
      Arguments.read ["sums".toList, "--trim".toList, " 12 + 3 ".toList] = .ok a ∧
      Arguments.read ["sums".toList, "--trim".toList, "-v".toList, " 12 + 3 ".toList] =
        .ok { a with verbose := true } ∧
      execute sumsFiles [] ["sums".toList, "--trim".toList, "-v".toList, " 12 + 3 ".toList] =
        .finished 0 "0\tNUMBER\t'12'\n1\tPLUS\t'+'\n2\tNUMBER\t'3'\n".toList sumsLog ∧
      sumsReport.located.map (fun l => (l.token.value, l.offset)) =
        [("12".toList, 1), ("+".toList, 4), ("3".toList, 6)] ∧
      ∃ stop, LiesIn " 12 + 3 ".toList 0 sumsReport.located stop := by
  intro a
  have ran : run (sumsFiles.find (Path.ofText a.path)) [] a = .ok sumsReport := by
    have loads := sums_load
    rw [Grammar.ofFile] at loads
    rw [run]
    simp only [loads, a]
    rfl
  have quiet : Arguments.read ["sums".toList, "--trim".toList, " 12 + 3 ".toList] = .ok a := by
    decide +kernel
  have loud : Arguments.read ["sums".toList, "--trim".toList, "-v".toList, " 12 + 3 ".toList] =
      .ok { a with verbose := true } := by decide +kernel
  have success : sumsReport.exitCode = 0 := by decide +kernel
  have output : lines sumsReport.tokens =
      "0\tNUMBER\t'12'\n1\tPLUS\t'+'\n2\tNUMBER\t'3'\n".toList := by decide +kernel
  have log : openingLines a " 12 + 3 ".toList (.ok (Grammar.sums false)) ++
      sumsReport.located.flatMap scannedLine ++ Report.errorLine sumsReport.error = sumsLog := by
    decide +kernel
  obtain ⟨-, written, -, stop, places, -⟩ := execute_verbose ran quiet loud
  rw [sums_load] at written
  refine ⟨ran, quiet, loud, written.trans ?_, by decide +kernel, stop, places⟩
  exact congr (congr (congrArg Outcome.finished success) output) log

end CommandLine
end MaximalMunch
