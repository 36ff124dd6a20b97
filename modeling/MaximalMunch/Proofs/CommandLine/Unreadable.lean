import MaximalMunch.Main
import MaximalMunch.Proofs.Grammar.Agreement
import MaximalMunch.Proofs.Yaml.Grown

/-!
Files that are not YAML. A malformed text is reported as such, and the run ends with an error line
and no output. But the values of scalars are read before the grammar looks at them, and a value that
does not exist is no malformed text: the fault is passed on, whatever key the scalar stands under.
-/

namespace MaximalMunch

/-- Besides malformed texts, there are symbols out of range, scalars without a value, and
collections tagged as timestamps. -/
theorem Yaml.Stream.FaultOf.origin {s : Stream} {f : Fault} (h : s.FaultOf f)
    (lexical : ∀ f, s.fault = some f → f.Lexical) (wellFormed : f ≠ .malformed) :
    (s.fault = some f ∧ f.Lexical) ∨
      (∃ tag text, Written s.symbols tag text ∧ scalarValue tag text = .error f) ∨
      (f = .timestampNotText ∧ HasTag s.symbols) := by
  cases h with
  | malformed => exact absurd rfl wellFormed
  | symbols broken => exact .inl ⟨broken, lexical f broken⟩
  | value written value => exact .inr (.inl ⟨_, _, written, value⟩)
  | collection has => exact .inr (.inr ⟨rfl, has⟩)

namespace CommandLine

variable {files : Files} {stdin t text : Text} {words : List Text} {a : Arguments} {f : Yaml.Fault}

theorem isReported_yaml : (LoadError.yaml f).isReported = true ↔ f = .malformed := by
  cases f <;> simp [LoadError.isReported]

theorem ofYaml_unreadable (unreadable : Yaml.read t = .error f) :
    Grammar.ofYaml t = .error (.yaml f) := by
  rw [Grammar.ofYaml, unreadable]

/-- A run on a file with such a text comes as far as loading. -/
theorem run_unreadable (unreadable : Yaml.read (Text.unifyNewlines text) = .error f) :
    run (.file (Utf8.encode text)) stdin a =
      if f = .malformed then
        .ok ⟨[], [.loading (Path.ofText a.path).text], some "Invalid grammar YAML".toList⟩
      else .error (.yaml f) := by
  have loaded : Grammar.ofFound (Path.ofText a.path) (.file (Utf8.encode text)) =
      .error (.yaml f) :=
    (Grammar.ofBytes_encode text).trans (ofYaml_unreadable unreadable)
  rw [run, loaded]
  by_cases malformed : f = .malformed
  · subst malformed
    rfl
  · have silent : (LoadError.yaml f).isReported = false :=
      Bool.eq_false_iff.mpr fun reported => malformed (isReported_yaml.mp reported)
    simp [silent, malformed]

/-- What is written to standard error where a file is malformed. -/
theorem messages_malformed (path : Text) (verbose : Bool) :
    (⟨[], [.loading path], some "Invalid grammar YAML".toList⟩ : Report).messages verbose =
      (if verbose then LogEntry.line (.loading path) else []) ++
        "error: Invalid grammar YAML".toList ++ ['\n'] := by
  have log : [LogEntry.loading path].flatMap LogEntry.line = LogEntry.line (.loading path) :=
    List.flatMap_singleton ..
  rw [Report.messages, log, List.append_assoc]
  rfl

/-- A text that cannot be read as YAML gives no grammar. If it is malformed, that is reported: the
run on a file with the text ends with exit code 1, an empty output and an error that begins by
saying so. Any other fault is passed on as it is. Such a fault lies in a symbol out of range, in a
scalar that has no value for its tag, or in a collection tagged as a timestamp. -/
theorem execute_unreadable (unreadable : Yaml.read t = .error f) :
    Grammar.ofYaml t = .error (.yaml f) ∧
    ((LoadError.yaml f).isReported = true ↔ f = .malformed) ∧
    (∀ (files : Files) (stdin text : Text) (words : List Text) (a : Arguments),
      Arguments.read words = .ok a →
      files.find (Path.ofText a.path) = .file (Utf8.encode text) →
      Text.unifyNewlines text = t →
        (f = .malformed → ∃ rest,
          execute files stdin words = .finished 1 []
            ((if a.verbose then LogEntry.line (.loading (Path.ofText a.path).text) else []) ++
              "error: Invalid grammar YAML".toList ++ rest)) ∧
        (f ≠ .malformed → execute files stdin words = .failed (.yaml f))) ∧
    (f ≠ .malformed →
      ((Yaml.Stream.ofText t).fault = some f ∧ f.Lexical) ∨
      (∃ tag text, Yaml.Written (Yaml.Stream.ofText t).symbols tag text ∧
        Yaml.scalarValue tag text = .error f) ∨
      (f = .timestampNotText ∧ Yaml.HasTag (Yaml.Stream.ofText t).symbols)) := by
  refine ⟨ofYaml_unreadable unreadable, isReported_yaml, ?runs, ?origin⟩
  case runs =>
    intro files stdin text words a reads found same
    rw [← same] at unreadable
    have ran : run (files.find (Path.ofText a.path)) stdin a = _ :=
      found ▸ run_unreadable unreadable
    constructor
    · intro malformed
      refine ⟨['\n'], ?_⟩
      rw [execute, reads]
      simp only [ran, malformed, if_true]
      exact congrArg (Outcome.finished 1 []) (messages_malformed _ _)
    · intro wellFormed
      rw [execute, reads]
      simp only [ran, wellFormed, if_false]
  case origin =>
    exact ((Yaml.read_fails t).of_error unreadable).origin fun _ => Yaml.Stream.ofText_lexical

/-- A sequence that is not closed. -/
def openSequence : Text := "token_types: [".toList

theorem read_openSequence : Yaml.read openSequence = .error .malformed := by
  have fault : error? (Yaml.read openSequence) = some .malformed := by decide +kernel
  exact eq_error_of_error? fault

theorem execute_unreadable_openSequence :
    Yaml.read openSequence = .error .malformed ∧
    Grammar.ofYaml openSequence = .error (.yaml .malformed) ∧
    ∃ rest, execute [(["broken".toList], .file (Utf8.encode openSequence))] []
        ["broken".toList, "1".toList] =
      .finished 1 [] ("error: Invalid grammar YAML".toList ++ rest) := by
  have reads : Arguments.read ["broken".toList, "1".toList] =
      .ok ⟨"broken".toList, some "1".toList, none, false⟩ := by decide +kernel
  have outcome := execute_unreadable read_openSequence
  refine ⟨read_openSequence, outcome.1, ?_⟩
  exact (outcome.2.2.1 _ _ openSequence _ _ reads (by decide +kernel) (by decide +kernel)).1 rfl

/-- A grammar with a date under a key that no grammar uses. February has no thirtieth day. -/
def noSuchDay : Text := "token_types:\n  A: 'a'\nsince: 2024-02-30\n".toList

/-- The fault of the date is not reported as one of the grammar file. -/
theorem execute_noSuchDay :
    Yaml.read noSuchDay = .error (.calendar .day) ∧
    Grammar.ofYaml noSuchDay = .error (.yaml (.calendar .day)) ∧
    (LoadError.yaml (.calendar .day)).isReported = false ∧
    execute [(["dated".toList], .file (Utf8.encode noSuchDay))] []
        ["dated".toList, "a".toList] =
      .failed (.yaml (.calendar .day)) := by
  have fault : error? (Yaml.read noSuchDay) = some (.calendar .day) := by decide +kernel
  have unreadable := eq_error_of_error? fault
  have reads : Arguments.read ["dated".toList, "a".toList] =
      .ok ⟨"dated".toList, some "a".toList, none, false⟩ := by decide +kernel
  have found : Files.find [(["dated".toList], .file (Utf8.encode noSuchDay))]
      (Path.ofText "dated".toList) = .file (Utf8.encode noSuchDay) := by decide +kernel
  have same : Text.unifyNewlines noSuchDay = noSuchDay := by decide +kernel
  refine ⟨unreadable, ofYaml_unreadable unreadable, rfl, ?_⟩
  rw [← same] at unreadable
  rw [execute, reads]
  simp only [found, run_unreadable unreadable]
  rfl

end CommandLine
end MaximalMunch
