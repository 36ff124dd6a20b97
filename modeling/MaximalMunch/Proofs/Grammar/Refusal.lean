import MaximalMunch.Proofs.Grammar.WellFormed
import MaximalMunch.Proofs.Pattern.Parse

/-!
Which refusals are reported as such. A definition that is malformed is, and so is an expression with
a fault. But an expression that asks for more than the engine can count is refused with an error of
another kind, and so is an entry with a number in it that is too long to be written.
-/

namespace MaximalMunch

open Pattern (BeyondRange)

variable {name regex : Text} {e : GrammarError}

/-- The error blames an expression for going beyond range. -/
def GrammarError.BlamesRange (regex : Text) (e : GrammarError) : Prop :=
  ∃ name err, e = .pattern name regex err ∧ BeyondRange regex err

theorem GrammarError.BlamesRange.unreported (h : e.BlamesRange regex) : e.isMalformed = false := by
  obtain ⟨name, err, rfl, beyond⟩ := h
  cases beyond <;> rfl

theorem GrammarError.blamesRange_of_compile {err : Pattern.Error}
    (failed : Pattern.compile regex = .error err) (other : ∀ fault, err ≠ .fault fault) :
    (GrammarError.pattern name regex err).BlamesRange regex := by
  rcases (Pattern.compile_refuses regex).of_error failed with ⟨fault, rfl⟩ | beyond
  · exact absurd rfl (other fault)
  · exact ⟨name, err, rfl, beyond⟩

/-- An error of a token type is reported as such or blames its expression for going beyond range. -/
theorem TokenType.make_blames (refused : TokenType.make name regex = .error e)
    (unreported : e.isMalformed = false) : e.BlamesRange regex := by
  rw [make] at refused
  split at refused
  case isTrue => cases refused; cases unreported
  case isFalse =>
    split at refused
    case h_1 err failed =>
      cases refused
      refine GrammarError.blamesRange_of_compile failed ?_
      rintro fault rfl
      cases unreported
    case h_2 => cases refused

namespace Grammar

variable {g : Grammar} {entry d : Data}

theorem add_blames (refused : g.add name regex = .error e) (unreported : e.isMalformed = false) :
    e.BlamesRange regex := by
  rw [add] at refused
  split at refused
  case h_1 failed =>
    cases refused
    exact TokenType.make_blames failed unreported
  case h_2 =>
    -- A taken name is blamed only where the expression is in order.
    rw [register] at refused
    split at refused
    · cases refused
      cases unreported
    · cases refused

/-- The regular expression that an entry gives, if that is a text. -/
def entryRegex? (entry : Data) : Option Text :=
  match entry.view with
  | .map fields =>
    match Data.lookup? regexKey fields with
    | some regex =>
      match regex.view with
      | .text regex => some regex
      | _ => none
    | none => none
  | _ => none

theorem entryRegex?_of_describes (described : Describes entry (name, regex)) :
    entryRegex? entry = some regex := by
  obtain ⟨fields, _, _, isMap, -, hasRegex, -, isText, -⟩ := described
  simp only [entryRegex?, isMap, hasRegex, isText]

/-- The error blames an entry of the definition: its expression goes beyond range, or it has a number
in it that is too long to be written. -/
def BlamesEntry (d : Data) (e : GrammarError) : Prop :=
  ∃ entry ∈ definedEntries d,
    (∃ regex ∈ entryRegex? entry, e.BlamesRange regex) ∨ e = .numberTooLong ∧ TooLong entry

theorem BlamesEntry.unreported (h : BlamesEntry d e) : e.isMalformed = false := by
  obtain ⟨entry, member, ⟨regex, given, blames⟩ | ⟨rfl, long⟩⟩ := h
  · exact blames.unreported
  · rfl

theorem ofData_blames (refused : ofData d = .error e) (unreported : e.isMalformed = false) :
    BlamesEntry d e := by
  cases fault_of_ofData refused with
  | notMapping | trimming | tokenTypes => cases unreported
  | entry fields trimming before entry rest pairs _ isMap trims lists sound fault =>
      refine ⟨entry, by simp [definedEntries_of_lists isMap lists], ?_⟩
      rcases fault.unreported unreported with
        long | ⟨name, regex, error, rfl, described, failed, other⟩
      · exact .inr long
      · exact .inl ⟨regex, entryRegex?_of_describes described,
          GrammarError.blamesRange_of_compile failed other⟩

/-- A token type of an expression that does not go beyond range can be made, or is refused with an
error that is reported as one of the grammar; and so for adding a token type and for building a
grammar from data. The errors that are not reported are those of expressions that repeat something
4294967295 times or more, write a bound with more than 4300 digits, escape a code point past
`7FFFFFFF`, or turn on both character modes for the whole pattern; and of data, those of entries with
a number of more than 4300 digits in what is to be written. -/
theorem refusals (g : Grammar) (name regex : Text) (d : Data) :
    (∀ e, TokenType.make name regex = .error e →
      (e.isMalformed = false ↔ e.BlamesRange regex)) ∧
    (∀ e, g.add name regex = .error e →
      (e.isMalformed = false ↔ e.BlamesRange regex)) ∧
    ∀ e, ofData d = .error e → (e.isMalformed = false ↔ BlamesEntry d e) :=
  ⟨fun _ refused => ⟨TokenType.make_blames refused, fun h => h.unreported⟩,
    fun _ refused => ⟨add_blames refused, fun h => h.unreported⟩,
    fun _ refused => ⟨ofData_blames refused, fun h => h.unreported⟩⟩

theorem exists_unreported {α : Type} {x : Except GrammarError α}
    (h : (error? x).any (fun e => !e.isMalformed) = true) :
    ∃ e, x = .error e ∧ e.isMalformed = false := by
  obtain ⟨e, refused, unreported⟩ := (Option.any_eq_true _ _).mp h
  exact ⟨e, eq_error_of_error? refused, by simpa using unreported⟩

/-- Both character modes for the whole pattern, one after the other. -/
def bothModes : Text := "(?a)(?u)b".toList

def bothModesDefinition : Data :=
  .map [(.text tokenTypesKey, .map [(.text ['A'], .text bothModes)])]

theorem refusals_bothModes :
    (∃ e, TokenType.make ['A'] bothModes = .error e ∧ e.BlamesRange bothModes) ∧
    (∃ e, (empty false).add ['A'] bothModes = .error e ∧ e.BlamesRange bothModes) ∧
    ∃ e, ofData bothModesDefinition = .error e ∧ BlamesEntry bothModesDefinition e := by
  have kinds := refusals (empty false) ['A'] bothModes bothModesDefinition
  refine ⟨?_, ?_, ?_⟩
  · obtain ⟨e, refused, unreported⟩ :=
      exists_unreported (x := TokenType.make ['A'] bothModes) (by decide +kernel)
    exact ⟨e, refused, (kinds.1 _ refused).mp unreported⟩
  · obtain ⟨e, refused, unreported⟩ :=
      exists_unreported (x := (empty false).add ['A'] bothModes) (by decide +kernel)
    exact ⟨e, refused, (kinds.2.1 _ refused).mp unreported⟩
  · obtain ⟨e, refused, unreported⟩ :=
      exists_unreported (x := ofData bothModesDefinition) (by decide +kernel)
    exact ⟨e, refused, (kinds.2.2 _ refused).mp unreported⟩

/-- One letter so many times that the engine cannot count to it. -/
def hugeBound : Text := "a\x7b4294967295\x7d".toList

/-- Such an expression is refused with an error that is not reported as one of the grammar. -/
theorem make_hugeBound :
    TokenType.make ['A'] hugeBound = .error (.pattern ['A'] hugeBound .repeatTooLarge) ∧
      (GrammarError.pattern ['A'] hugeBound .repeatTooLarge).isMalformed = false := by
  have failed : Pattern.compile hugeBound = .error .repeatTooLarge :=
    eq_error_of_error? (by decide +kernel)
  refine ⟨?_, rfl⟩
  rw [TokenType.make, dif_neg (List.cons_ne_nil _ _)]
  split
  case h_1 err given =>
    rw [failed] at given
    cases given
    rfl
  case h_2 given =>
    rw [failed] at given
    cases given

end Grammar
end MaximalMunch
