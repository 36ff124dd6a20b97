import Mathlib.Data.List.DropRight
import MaximalMunch.Proofs.CommandLine.Streaming
import MaximalMunch.Proofs.Text.Quoted

/-!
Reading standard output back. A line is cut at its first and at its last tab: the number holds no
tab and neither does a quoted value, so the name is what lies between, tabs and all. A line feed is
found at the end of each record and inside names, nowhere else. Output with no line feed in a name
is therefore read back line by line, and tells the tokens that it was written for; a name with a
line feed can look like the end of one record and the beginning of another.
-/

namespace MaximalMunch

/-- What a record tells of a token. -/
def Token.pair (t : Token) : Text × Text := (t.name, t.value)

namespace CommandLine

/-! ### One record -/

/-- The parts of a record: its number, its name and its value, the number as it is written. -/
structure Fields where
  number : Text
  name : Text
  value : Text
  deriving DecidableEq

def Fields.pair (f : Fields) : Text × Text := (f.name, f.value)

def fieldsOf (number : Nat) (t : Token) : Fields := ⟨Text.ofNat number, t.name, t.value⟩

/-- A record without the line feed at its end. -/
def recordLine (f : Fields) : Text :=
  f.number ++ '\t' :: (f.name ++ '\t' :: Text.quoted f.value)

/-- Reads a line that is cut at its first and at its last tab. -/
def readRecord? (line : Text) : Option Fields :=
  let number := line.takeWhile (· != '\t')
  let value := line.rtakeWhile (· != '\t')
  let name := ((line.drop (number.length + 1)).rdropWhile (· != '\t')).dropLast
  (Text.unquote? value).map (⟨number, name, ·⟩)

theorem record_eq (number : Nat) (t : Token) :
    record number t = recordLine (fieldsOf number t) ++ ['\n'] := by
  simp [record, recordLine, fieldsOf]

theorem tab_not_mem_quoted (t : Text) : '\t' ∉ Text.quoted t :=
  Text.not_mem_quoted (by decide +kernel) t

theorem lineFeed_not_mem_quoted (t : Text) : '\n' ∉ Text.quoted t :=
  Text.not_mem_quoted (by decide +kernel) t

theorem not_mem_ofNat {c : Char} (other : c.isDigit = false) (n : Nat) : c ∉ Text.ofNat n := by
  intro mem
  rw [Nat.isDigit_of_mem_toDigits (by decide) (by decide) mem] at other
  cases other

section Ends

variable {t : Text} {mark : Char}

theorem other_of_absent (absent : mark ∉ t) : ∀ c ∈ t, (c != mark) = true := by
  intro c mem
  rw [bne_iff_ne]
  rintro rfl
  exact absent mem

theorem takeWhile_other (absent : mark ∉ t) (rest : Text) :
    (t ++ mark :: rest).takeWhile (· != mark) = t := by
  rw [List.takeWhile_append_of_pos (other_of_absent absent)]
  simp

theorem rtakeWhile_other (absent : mark ∉ t) (front : Text) :
    (front ++ mark :: t).rtakeWhile (· != mark) = t := by
  have turned : (front ++ mark :: t).reverse = t.reverse ++ mark :: front.reverse := by simp
  rw [List.rtakeWhile, turned, takeWhile_other (by simpa using absent), List.reverse_reverse]

theorem rdropWhile_other (absent : mark ∉ t) (front : Text) :
    (front ++ mark :: t).rdropWhile (· != mark) = front ++ [mark] := by
  have turned : (front ++ mark :: t).reverse = t.reverse ++ mark :: front.reverse := by simp
  have absent' : mark ∉ t.reverse := by simpa using absent
  rw [List.rdropWhile, turned, List.dropWhile_append_of_pos (other_of_absent absent')]
  simp

end Ends

theorem readRecord?_recordLine {f : Fields} (noTab : '\t' ∉ f.number) :
    readRecord? (recordLine f) = some f := by
  have number : (recordLine f).takeWhile (· != '\t') = f.number := takeWhile_other noTab _
  have value : (recordLine f).rtakeWhile (· != '\t') = Text.quoted f.value := by
    have split : recordLine f = (f.number ++ '\t' :: f.name) ++ '\t' :: Text.quoted f.value := by
      simp [recordLine]
    rw [split]
    exact rtakeWhile_other (tab_not_mem_quoted f.value) _
  have behind : (recordLine f).drop (f.number.length + 1) =
      f.name ++ '\t' :: Text.quoted f.value := by
    simp [recordLine, List.drop_append]
  simp only [readRecord?, number, value, behind, rdropWhile_other (tab_not_mem_quoted f.value),
    List.dropLast_concat, Text.unquote?_quoted, Option.map_some]

/-! ### The lines -/

/-- Reads the lines of an output, each of which ends with a line feed. -/
def readLines? (output : Text) : Option (List Fields) :=
  (output.splitOn '\n').dropLast.mapM readRecord?

theorem readLines?_cons {line : Text} (one : '\n' ∉ line) (rest : Text) :
    readLines? (line ++ '\n' :: rest) =
      (do return (← readRecord? line) :: (← readLines? rest)) := by
  have inside : ∀ c ∈ line, (c == '\n') = false := by simpa using other_of_absent one
  have split : (line ++ '\n' :: rest).splitOn '\n' = line :: rest.splitOn '\n' :=
    List.splitOnP_append_cons_of_forall_mem inside _ (by simp) rest
  have more : rest.splitOn '\n' ≠ [] := List.splitOnP_ne_nil _ _
  rw [readLines?, split, List.dropLast_cons_of_ne_nil more, List.mapM_cons]
  rfl

theorem lineFeed_not_mem_recordLine {number : Nat} {t : Token} (one : '\n' ∉ t.name) :
    '\n' ∉ recordLine (fieldsOf number t) := by
  have digits : '\n' ∉ Text.ofNat number := not_mem_ofNat (by decide) number
  simp [recordLine, fieldsOf, one, digits, lineFeed_not_mem_quoted]

theorem readLines?_records (number : Nat) {tokens : List Token}
    (one : ∀ t ∈ tokens, '\n' ∉ t.name) :
    readLines? (records number tokens) =
      some (tokens.mapIdx fun k t => fieldsOf (number + k) t) := by
  -- On the tokens: the first line is cut off, and the rest is numbered from the next number on.
  induction tokens generalizing number with
  | nil => rfl
  | cons token rest ih =>
      have first :
          readRecord? (recordLine (fieldsOf number token)) = some (fieldsOf number token) :=
        readRecord?_recordLine (not_mem_ofNat (by decide) number)
      have more := ih (number + 1) fun t mem => one t (List.mem_cons_of_mem _ mem)
      rw [records, record_eq, List.append_assoc, List.singleton_append,
        readLines?_cons (lineFeed_not_mem_recordLine (one token List.mem_cons_self)), first, more]
      simp [List.mapIdx_cons, Nat.add_assoc, Nat.add_comm 1]

theorem readLines?_lines {tokens : List Token} (one : ∀ t ∈ tokens, '\n' ∉ t.name) :
    readLines? (lines tokens) = some (tokens.mapIdx fieldsOf) := by
  rw [← records_zero, readLines?_records 0 one]
  simp only [Nat.zero_add]

theorem pairs_mapIdx (tokens : List Token) :
    (tokens.mapIdx fieldsOf).map Fields.pair = tokens.map Token.pair := by
  refine List.ext_getElem (by simp) fun i _ _ => ?_
  simp only [List.getElem_map, List.getElem_mapIdx]
  rfl

/-- Lines tell the names and the values of the tokens that they were written for. -/
theorem pairs_of_lines {tokens tokens' : List Token} (one : ∀ t ∈ tokens, '\n' ∉ t.name)
    (one' : ∀ t ∈ tokens', '\n' ∉ t.name) (same : lines tokens' = lines tokens) :
    tokens'.map Token.pair = tokens.map Token.pair := by
  have fields : tokens'.mapIdx fieldsOf = tokens.mapIdx fieldsOf := by
    rw [← Option.some_inj, ← readLines?_lines one, ← readLines?_lines one', same]
  rw [← pairs_mapIdx, ← pairs_mapIdx, fields]

/-- There is a line feed for each token, and one for each line feed in a name. -/
theorem count_records (number : Nat) (tokens : List Token) :
    (records number tokens).count '\n' =
      tokens.length + (tokens.map fun t => t.name.count '\n').sum := by
  induction tokens generalizing number with
  | nil => rfl
  | cons token rest ih =>
      have digits : (Text.ofNat number).count '\n' = 0 :=
        List.count_eq_zero.mpr (not_mem_ofNat (by decide) number)
      have value : (Text.quoted token.value).count '\n' = 0 :=
        List.count_eq_zero.mpr (lineFeed_not_mem_quoted _)
      have one : (record number token).count '\n' = token.name.count '\n' + 1 := by
        simp [record, List.count_append, digits, value]
      rw [records, List.count_append, one, ih, List.map_cons, List.sum_cons, List.length_cons]
      omega

theorem count_lines (tokens : List Token) :
    (lines tokens).count '\n' = tokens.length + (tokens.map fun t => t.name.count '\n').sum := by
  rw [← records_zero, count_records]

/-! ### Runs -/

/-- The tokens of a run with arguments and a grammar that was loaded for them. -/
def emitted (g : Grammar) (a : Arguments) (stdin : Text) : List Token :=
  ((withTrimming g a.trimming).completion (a.text.getD stdin)).tokens

variable {files : Files} {words : List Text} {a : Arguments} {g : Grammar}

theorem execute_output (stdin : Text) (reads : Arguments.read words = .ok a)
    (loads : Grammar.ofFile files (Path.ofText a.path) = .ok g) :
    ∃ code messages,
      execute files stdin words = .finished code (lines (emitted g a stdin)) messages := by
  rw [Grammar.ofFile] at loads
  rw [execute, reads]
  simp only [run, loads, tokenizing_output]
  exact ⟨_, _, rfl⟩

/-- A run with a grammar that loads writes a line feed for each token and one for each line feed in
the name of a token. If no name holds a line feed, that is one line for each token, the lines are
read back as the numbers, names and values of the tokens, and no other run whose names hold no line
feed writes the same for other names and values. -/
theorem execute_readBack (stdin : Text) (reads : Arguments.read words = .ok a)
    (loads : Grammar.ofFile files (Path.ofText a.path) = .ok g) :
    let tokens := emitted g a stdin
    ∃ code stdout messages, execute files stdin words = .finished code stdout messages ∧
      stdout.count '\n' = tokens.length + (tokens.map fun t => t.name.count '\n').sum ∧
      ((∀ t ∈ tokens, '\n' ∉ t.name) →
        stdout.count '\n' = tokens.length ∧
        readLines? stdout = some (tokens.mapIdx fieldsOf) ∧
        ∀ files' stdin' words' a' g' code' messages', Arguments.read words' = .ok a' →
          Grammar.ofFile files' (Path.ofText a'.path) = .ok g' →
          execute files' stdin' words' = .finished code' stdout messages' →
          (∀ t ∈ emitted g' a' stdin', '\n' ∉ t.name) →
          (emitted g' a' stdin').map Token.pair = tokens.map Token.pair) := by
  intro tokens
  obtain ⟨code, messages, finished⟩ := execute_output stdin reads loads
  refine ⟨code, lines tokens, messages, finished, count_lines tokens, fun one => ?_⟩
  refine ⟨?_, readLines?_lines one, ?_⟩
  · have none : (tokens.map fun t => t.name.count '\n').sum = 0 := by
      rw [List.sum_eq_zero_iff_forall_eq_nat]
      intro n mem
      obtain ⟨t, ht, rfl⟩ := List.mem_map.mp mem
      exact List.count_eq_zero.mpr (one t ht)
    rw [count_lines, none, Nat.add_zero]
  · intro files' stdin' words' a' g' code' messages' reads' loads' finished' one'
    obtain ⟨_, _, output⟩ := execute_output stdin' reads' loads'
    rw [finished', Outcome.finished.injEq] at output
    exact pairs_of_lines one one' output.2.1.symm

theorem execute_readBack_sums :
    Arguments.read ["sums".toList, "--trim".toList, "12 + 3".toList] =
        .ok ⟨"sums".toList, some "12 + 3".toList, some true, false⟩ ∧
      Grammar.ofFile sumsFiles (Path.ofText "sums".toList) = .ok (Grammar.sums false) ∧
      ∃ code stdout messages,
        execute sumsFiles [] ["sums".toList, "--trim".toList, "12 + 3".toList] =
          .finished code stdout messages ∧
        stdout.count '\n' = 3 ∧
        readLines? stdout = some
          [⟨['0'], "NUMBER".toList, "12".toList⟩, ⟨['1'], "PLUS".toList, "+".toList⟩,
            ⟨['2'], "NUMBER".toList, "3".toList⟩] := by
  have reads : Arguments.read ["sums".toList, "--trim".toList, "12 + 3".toList] =
      .ok ⟨"sums".toList, some "12 + 3".toList, some true, false⟩ := by decide +kernel
  obtain ⟨code, stdout, messages, finished, -, one⟩ := execute_readBack [] reads sums_load
  have names : ∀ t ∈ emitted (Grammar.sums false)
      ⟨"sums".toList, some "12 + 3".toList, some true, false⟩ [], '\n' ∉ t.name := by decide +kernel
  obtain ⟨count, fields, -⟩ := one names
  refine ⟨reads, sums_load, code, stdout, messages, finished, count.trans ?_, fields.trans ?_⟩
  · decide +kernel
  · decide +kernel

/-! ### A name with a line feed -/

/-- A name that looks like the end of one record and the beginning of the next. -/
def forgedName : Text := "A\t'x'\n1\tB".toList

def forged : Grammar :=
  ⟨[(TokenType.make forgedName ['y']).toOption.get (by decide +kernel)], false⟩

def honest : Grammar :=
  ⟨[(TokenType.make ['A'] ['x']).toOption.get (by decide +kernel),
    (TokenType.make ['B'] ['y']).toOption.get (by decide +kernel)], false⟩

def forgedText : Text := "token_types:\n  \"A\\t'x'\\n1\\tB\": 'y'\n".toList

def honestText : Text := "token_types:\n  A: 'x'\n  B: 'y'\n".toList

def forgedFiles : Files :=
  [(["forged".toList], .file (Utf8.encode forgedText)),
    (["honest".toList], .file (Utf8.encode honestText))]

theorem forged_loads :
    Grammar.ofFile forgedFiles (Path.ofText "forged".toList) = .ok forged :=
  Grammar.ofFile_of_mappingDocument (t := forgedText) (by decide +kernel) (by decide +kernel)
    (List.cons_ne_nil _ _) (by decide +kernel) (by decide +kernel) (by decide +kernel)

theorem honest_loads :
    Grammar.ofFile forgedFiles (Path.ofText "honest".toList) = .ok honest :=
  Grammar.ofFile_of_mappingDocument (t := honestText) (by decide +kernel) (by decide +kernel)
    (List.cons_ne_nil _ _) (by decide +kernel) (by decide +kernel) (by decide +kernel)

theorem execute_to_end {stdin : Text} (reads : Arguments.read words = .ok a)
    (quiet : a.verbose = false) (loads : Grammar.ofFile files (Path.ofText a.path) = .ok g)
    (ended : ((withTrimming g a.trimming).completion (a.text.getD stdin)).stop.toOption = some ()) :
    execute files stdin words = .finished 0 (lines (emitted g a stdin)) [] := by
  rw [execute_eq_streamed reads quiet loads, ← withTrimming_eq]
  refine streamed_of_end ?_
  generalize ((withTrimming g a.trimming).completion (a.text.getD stdin)).stop = stop at ended
  cases stop with
  | ok _ => rfl
  | error e => cases ended

/-- Two line feeds are written for one token, and the same is written for two tokens with other
names and values. -/
theorem execute_forged :
    let one : Arguments := ⟨"forged".toList, some ['y'], none, false⟩
    let two : Arguments := ⟨"honest".toList, some "xy".toList, none, false⟩
    let stdout := "0\tA\t'x'\n1\tB\t'y'\n".toList
    execute forgedFiles [] ["forged".toList, ['y']] = .finished 0 stdout [] ∧
      execute forgedFiles [] ["honest".toList, "xy".toList] = .finished 0 stdout [] ∧
      (emitted forged one []).map Token.pair = [("A\t'x'\n1\tB".toList, ['y'])] ∧
      (emitted honest two []).map Token.pair = [(['A'], ['x']), (['B'], ['y'])] ∧
      stdout.count '\n' = 2 := by
  intro one two stdout
  have first : execute forgedFiles [] ["forged".toList, ['y']] =
      .finished 0 (lines (emitted forged one [])) [] :=
    execute_to_end (by decide +kernel) rfl forged_loads (by decide +kernel)
  have second : execute forgedFiles [] ["honest".toList, "xy".toList] =
      .finished 0 (lines (emitted honest two [])) [] :=
    execute_to_end (by decide +kernel) rfl honest_loads (by decide +kernel)
  have output : lines (emitted forged one []) = stdout := by decide +kernel
  have output' : lines (emitted honest two []) = stdout := by decide +kernel
  refine ⟨?_, ?_, by decide +kernel, by decide +kernel, by decide⟩
  · rw [first, output]
  · rw [second, output']

end CommandLine
end MaximalMunch
