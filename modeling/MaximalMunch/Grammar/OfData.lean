import MaximalMunch.Grammar

/-!
Grammars from plain data. A definition is a mapping with the token types and, if need be, the
trimming flag. The token types are a list of mappings with a name and a regular expression each, or
one mapping from names to expressions. A name that is not a text is written as one.
-/

namespace MaximalMunch.Grammar

def nameKey : Text := "name".toList

def regexKey : Text := "regex".toList

def trimmingKey : Text := "trimming".toList

def tokenTypesKey : Text := "token_types".toList

/-- Blames an entry, if it can be written. -/
def blame (cause : Text → GrammarError) (entry : Data) : GrammarError :=
  match entry.shown? with
  | some t => cause t
  | none => .numberTooLong

/-- Adds the token type that an entry describes. -/
def addEntry (g : Grammar) (entry : Data) : Except GrammarError Grammar :=
  match entry.view with
  | .map fields =>
    match Data.lookup? nameKey fields, Data.lookup? regexKey fields with
    | some name, some regex =>
      match name.view, regex.view with
      | .null, _ => .error (blame .entryNotText entry)
      | _, .text regex =>
        match name.plain? with
        | some name => g.add name regex
        | none => .error .numberTooLong
      | _, _ => .error (blame .entryNotText entry)
    | _, _ => .error (blame .entryIncomplete entry)
  | _ => .error (blame .entryIncomplete entry)

def addEntries (g : Grammar) : List Data → Except GrammarError Grammar
  | [] => .ok g
  | entry :: rest =>
    match g.addEntry entry with
    | .error e => .error e
    | .ok g => g.addEntries rest

/-- The entries of the two layouts, none for any other value. -/
def entriesOf : Data → List Data
  | .list items => items
  | .map pairs => pairs.map fun p => .map [(.text nameKey, p.1), (.text regexKey, p.2)]
  | _ => []

def ofData (definition : Data) : Except GrammarError Grammar :=
  match definition.view with
  | .map fields =>
    match ((Data.lookup? trimmingKey fields).getD (.flag false)).view with
    | .flag trimming =>
      match entriesOf ((Data.lookup? tokenTypesKey fields).getD .null).view with
      | [] => .error .noTokenTypes
      | entries => (empty trimming).addEntries entries
    | _ => .error .trimmingNotFlag
  | _ => .error .notMapping

end MaximalMunch.Grammar
