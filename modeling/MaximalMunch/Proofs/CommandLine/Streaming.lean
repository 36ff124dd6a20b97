import MaximalMunch.Main
import MaximalMunch.Proofs.CommandLine.Arguments
import MaximalMunch.Proofs.Grammar.Agreement
import MaximalMunch.Proofs.Munch

/-!
What a quiet run of the command line writes. Standard output is the complete scan of the text, one
line for each token, and it is the same whether the scan then comes to the end or is stuck; which of
the two it is decides about the exit code and standard error. Nothing else counts: not where the
options stand, nor whether the trimming comes from an option or from the grammar file.
-/

namespace MaximalMunch

/-- The error at which a complete scan stops, if it does not come to the end. -/
def Scan.Completion.error? (w : Scan.Completion) : Option CursorError :=
  match w.stop with
  | .ok _ => none
  | .error e => some (.scan e)

namespace CommandLine

/-! ### Locating tokens -/

theorem locateFrom_eq {c : Cursor} {position fuel : Nat} (inside : c.scan.Inside)
    (here : position ≤ c.whole.tokens.length) (enough : c.whole.tokens.length < position + fuel) :
    (locateFrom c position fuel).1.map (·.token) = c.whole.tokens.drop position ∧
      (locateFrom c position fuel).2 = c.whole.error? := by
  -- On the fuel: a token read leaves the same whole, which is then read from the next position on.
  induction fuel generalizing c position with
  | zero => omega
  | succ fuel ih =>
      obtain ⟨same, agrees⟩ := Cursor.read_eq inside position
      rw [locateFrom]
      generalize c.read position = r at same agrees
      obtain ⟨answer, after⟩ := r
      simp only at same agrees
      rw [Scan.Completion.read] at same
      cases found : c.whole.tokens[position]? with
      | some token =>
          obtain ⟨further, isToken⟩ := List.getElem?_eq_some_iff.mp found
          rw [found] at same
          subst same
          have here' : position + 1 ≤ after.whole.tokens.length := by rw [agrees.whole]; exact further
          obtain ⟨tokens, error⟩ := ih agrees.inside here' (by rw [agrees.whole]; omega)
          rw [agrees.whole] at tokens error
          refine ⟨?_, error⟩
          rw [List.map_cons, tokens, List.drop_eq_getElem_cons further, isToken]
      | none =>
          have behind : c.whole.tokens.drop position = [] :=
            List.drop_eq_nil_of_le (List.getElem?_eq_none_iff.mp found)
          rw [found] at same
          rw [behind, Scan.Completion.error?]
          cases stop : c.whole.stop with
          | ok _ =>
              rw [stop] at same
              subst same
              exact ⟨rfl, rfl⟩
          | error e =>
              rw [stop] at same
              subst same
              exact ⟨rfl, rfl⟩

/-- There are no more tokens than characters, so the reading is not cut short. -/
theorem locate_eq (g : Grammar) (text : Text) :
    (locate g text).1.map (·.token) = (g.completion text).tokens ∧
      (locate g text).2 = (g.completion text).error? := by
  have few : (g.completion text).tokens.length ≤ text.length := by
    refine Nat.le_trans (Scan.tokens_length_le_size _) ?_
    simp [Scan.size, Scan.start]
  have enough : (Cursor.start (some g) text).whole.tokens.length < 0 + (text.length + 1) := by
    rw [Cursor.start_whole, Nat.zero_add]
    exact Nat.lt_succ_of_le few
  have located := locateFrom_eq (Frame.start_inside (some g) text) (Nat.zero_le _) enough
  rw [Cursor.start_whole] at located
  exact located

/-! ### The report -/

/-- A line for each token: its number from zero on, its name and its quoted value. -/
def lines (tokens : List Token) : Text :=
  (tokens.mapIdx fun k t =>
    Text.ofNat k ++ ['\t'] ++ t.name ++ ['\t'] ++ Text.quoted t.value ++ ['\n']).flatten

theorem records_eq (number : Nat) (tokens : List Token) :
    records number tokens = (tokens.mapIdx fun k t => record (number + k) t).flatten := by
  induction tokens generalizing number with
  | nil => rfl
  | cons token rest ih =>
      rw [records, List.mapIdx_cons, List.flatten_cons, ih]
      simp only [Nat.add_zero, Nat.add_assoc, Nat.add_comm 1]

theorem records_zero (tokens : List Token) : records 0 tokens = lines tokens := by
  rw [records_eq, lines]
  simp only [Nat.zero_add]
  rfl

variable (loading : List LogEntry) (g : Grammar) (text : Text)

theorem tokenizing_output :
    (tokenizing loading g text).output = lines (g.completion text).tokens := by
  have tokens : (tokenizing loading g text).tokens = (g.completion text).tokens :=
    (locate_eq g text).1
  rw [Report.output, tokens, records_zero]

theorem tokenizing_error :
    (tokenizing loading g text).error = (g.completion text).error?.map (·.message) :=
  congrArg (Option.map _) (locate_eq g text).2

theorem completion_stop :
    (g.completion text).stop = .ok () ∨
      ∃ rest, (g.completion text).stop = .error (.unmatched rest) := by
  rw [Grammar.completion, ← Frame.scan_start]
  exact Frame.stop_of_grammar rfl

/-- How a quiet run ends, by how the complete scan does. -/
def streamed (w : Scan.Completion) : Outcome :=
  match w.stop with
  | .ok _ => .finished 0 (lines w.tokens) []
  | .error e => .finished 1 (lines w.tokens) ("error: ".toList ++ e.message ++ ['\n'])

theorem streamed_of_end {w : Scan.Completion} (h : w.stop = .ok ()) :
    streamed w = .finished 0 (lines w.tokens) [] := by
  rw [streamed, h]

theorem streamed_of_stuck {w : Scan.Completion} {rest : Text}
    (h : w.stop = .error (.unmatched rest)) :
    streamed w =
      .finished 1 (lines w.tokens)
        ("error: No lexical element matches \"".toList ++ rest ++ "\"\n".toList) := by
  have opening : "error: No lexical element matches \"".toList =
      "error: ".toList ++ "No lexical element matches \"".toList := rfl
  have closing : "\"\n".toList = "\"".toList ++ ['\n'] := rfl
  unfold streamed ScanError.message
  rw [h]
  simp only [opening, closing]
  simp only [List.append_assoc]

theorem tokenizing_streamed :
    .finished (tokenizing loading g text).exitCode (tokenizing loading g text).output
        ((tokenizing loading g text).messages false) =
      streamed (g.completion text) := by
  rw [streamed, tokenizing_output, Report.exitCode, Report.messages, tokenizing_error,
    Scan.Completion.error?]
  cases (g.completion text).stop with
  | ok _ => rfl
  | error e => rfl

theorem withTrimming_eq (trimming : Option Bool) :
    withTrimming g trimming = ⟨g.types, trimming.getD g.trimming⟩ := by
  cases trimming <;> rfl

/-! ### The run -/

variable {files : Files} {stdin : Text} {words : List Text} {a : Arguments} {g : Grammar}

theorem execute_eq_streamed (reads : Arguments.read words = .ok a) (quiet : a.verbose = false)
    (loads : Grammar.ofFile files (Path.ofText a.path) = .ok g) :
    execute files stdin words =
      streamed (Grammar.completion ⟨g.types, a.trimming.getD g.trimming⟩ (a.text.getD stdin)) := by
  rw [Grammar.ofFile] at loads
  rw [execute, reads]
  simp only [run, loads, quiet, withTrimming_eq]
  exact tokenizing_streamed _ _ _

/-- A quiet run with a grammar that loads writes a line for each token of the complete scan of the
text with the trimming asked for, and tells the text at which the scan is stuck, if it is. The usual
command line for it has this answer, and so has any other run with the same types, the same trimming
and the same text. -/
theorem execute_streams (reads : Arguments.read words = .ok a) (quiet : a.verbose = false)
    (loads : Grammar.ofFile files (Path.ofText a.path) = .ok g) :
    let scan := (withTrimming g a.trimming).completion (a.text.getD stdin)
    (scan.stop = .ok () ∧ execute files stdin words = .finished 0 (lines scan.tokens) [] ∨
      ∃ rest, scan.stop = .error (.unmatched rest) ∧
        execute files stdin words =
          .finished 1 (lines scan.tokens)
            ("error: No lexical element matches \"".toList ++ rest ++ "\"\n".toList)) ∧
    (∀ before after, before ++ after = a.path :: a.text.toList →
      (∀ t ∈ a.path :: a.text.toList, IsArgument t) →
      execute files stdin (before ++ trimmingWords a.trimming ++ after) =
        execute files stdin words) ∧
    (∀ files' words' a' g', Arguments.read words' = .ok a' → a'.verbose = false →
      Grammar.ofFile files' (Path.ofText a'.path) = .ok g' →
      g'.types = g.types → a'.trimming.getD g'.trimming = a.trimming.getD g.trimming →
      a'.text = a.text → execute files' stdin words' = execute files stdin words) := by
  intro scan
  have answer : execute files stdin words = _ := execute_eq_streamed reads quiet loads
  refine ⟨?_, ?_, ?_⟩
  · rw [← withTrimming_eq] at answer
    rcases completion_stop (withTrimming g a.trimming) (a.text.getD stdin) with ended | ⟨rest, stuck⟩
    · exact .inl ⟨ended, answer.trans (streamed_of_end ended)⟩
    · exact .inr ⟨rest, stuck, answer.trans (streamed_of_stuck stuck)⟩
  · intro before after arguments plain
    have usual := read_words a.trimming arguments plain
    rw [← quiet] at usual
    rw [execute_eq_streamed usual quiet loads, answer]
  · intro files' words' a' g' reads' quiet' loads' types trimming text
    rw [execute_eq_streamed reads' quiet' loads', answer, types, trimming, text]

def sumsPairs : List (Text × Text) :=
  [("NUMBER".toList, "[0-9]+".toList), ("PLUS".toList, "\\+".toList)]

/-- A file that lists the numbers and the sign between them. -/
def sumsFiles : Files := [(["sums".toList], .file (Utf8.encode (Grammar.listLayout sumsPairs)))]

theorem sums_load :
    Grammar.ofFile sumsFiles (Path.ofText "sums".toList) = .ok (Grammar.sums false) := by
  have found : sumsFiles.find (Path.ofText "sums".toList) =
      .file (Utf8.encode (Grammar.listLayout sumsPairs)) := by decide +kernel
  have pairs : (Grammar.sums false).types.map (fun t => (t.name, t.regex)) = sumsPairs := by
    decide +kernel
  have some_type : (Grammar.sums false).types ≠ [] := List.cons_ne_nil _ _
  have once : ((Grammar.sums false).types.map (·.name)).Nodup := by decide +kernel
  have short : ∀ t ∈ (Grammar.sums false).types, t.name.length ≤ 100 := by decide +kernel
  have printable : ∀ t ∈ (Grammar.sums false).types,
      (t.name ++ t.regex).all Text.isPrintable = true := by decide +kernel
  have plain : '\r' ∉ Grammar.listLayout sumsPairs := by decide +kernel
  have listed := Grammar.ofYaml_types some_type once fun t mem =>
    Grammar.writable_of_printable (short t mem) (List.all_eq_true.mp (printable t mem))
  rw [pairs] at listed
  rw [Grammar.ofFile, found, Grammar.ofFound, Grammar.ofBytes_encode, Text.unifyNewlines_self plain,
    listed]
  rfl

theorem execute_streams_sums :
    Arguments.read ["sums".toList, "--trim".toList, "12 + 3".toList] =
        .ok ⟨"sums".toList, some "12 + 3".toList, some true, false⟩ ∧
      Grammar.ofFile sumsFiles (Path.ofText "sums".toList) = .ok (Grammar.sums false) ∧
      execute sumsFiles [] ["sums".toList, "--trim".toList, "12 + 3".toList] =
        .finished 0 "0\tNUMBER\t'12'\n1\tPLUS\t'+'\n2\tNUMBER\t'3'\n".toList [] ∧
      execute sumsFiles [] ["--trim".toList, "sums".toList, "12 + 3".toList] =
        execute sumsFiles [] ["sums".toList, "--trim".toList, "12 + 3".toList] := by
  have reads : Arguments.read ["sums".toList, "--trim".toList, "12 + 3".toList] =
      .ok ⟨"sums".toList, some "12 + 3".toList, some true, false⟩ := by decide +kernel
  have scanned : lines ((Grammar.sums true).completion "12 + 3".toList).tokens =
      "0\tNUMBER\t'12'\n1\tPLUS\t'+'\n2\tNUMBER\t'3'\n".toList := by
    decide +kernel
  have ended : ((Grammar.sums true).completion "12 + 3".toList).stop.toOption = some () := by
    decide +kernel
  have plain : ∀ t ∈ ["sums".toList, "12 + 3".toList], IsArgument t := fun t mem =>
    isArgument_of_head
      ((by decide : ∀ t ∈ ["sums".toList, "12 + 3".toList], t.head? ≠ some '-') t mem)
  have streams := @execute_streams sumsFiles [] _ _ _ reads rfl sums_load
  refine ⟨reads, sums_load, ?_, streams.2.1 [] ["sums".toList, "12 + 3".toList] rfl plain⟩
  rcases streams.1 with ⟨-, whole⟩ | ⟨rest, stuck, -⟩
  · exact whole.trans (congrArg (Outcome.finished 0 · []) scanned)
  · have same : ((Grammar.sums true).completion "12 + 3".toList).stop = .error (.unmatched rest) :=
      stuck
    rw [same] at ended
    cases ended

end CommandLine
end MaximalMunch
