import MaximalMunch.Grammar.OfData
import MaximalMunch.Proofs.Data.Shown
import MaximalMunch.Proofs.Grammar.Addition

/-!
Adding the token types of entries. What an entry describes is said without its reading, and so is what
is wrong with it; entries are then added one behind another up to the first that is at fault, by itself
or next to those before it.
-/

namespace MaximalMunch.Grammar

/-- The entry has a name, which is not null and is taken as it is written, and a text for an
expression. -/
def Describes (entry : Data) (pair : Text × Text) : Prop :=
  ∃ fields name regex, entry.view = .map fields ∧ Data.lookup? nameKey fields = some name ∧
    Data.lookup? regexKey fields = some regex ∧ name.view ≠ .null ∧ regex.view = .text pair.2 ∧
    name.plain? = some pair.1

/-- What a key and its value say in place of an entry. -/
def pairEntry (pair : Data × Data) : Data :=
  .map [(.text nameKey, pair.1), (.text regexKey, pair.2)]

/-- The error shows the entry, unless a number in the entry is too long to be written. -/
inductive Blames (cause : Text → GrammarError) (entry : Data) : GrammarError → Prop where
  | shown (t : Text) (written : entry.shown? = some t) : Blames cause entry (cause t)
  | tooLong (long : entry.HoldsLongNumber) : Blames cause entry .numberTooLong

/-- What is wrong with an entry next to types of these names. -/
inductive EntryFault (taken : List Text) (entry : Data) : GrammarError → Prop where
  | notMapping (e : GrammarError) (other : ∀ fields, entry.view ≠ .map fields)
      (blames : Blames .entryIncomplete entry e) : EntryFault taken entry e
  | incomplete (e : GrammarError) (fields : List (Data × Data)) (isMap : entry.view = .map fields)
      (missing : Data.lookup? nameKey fields = none ∨ Data.lookup? regexKey fields = none)
      (blames : Blames .entryIncomplete entry e) : EntryFault taken entry e
  | notText (e : GrammarError) (fields : List (Data × Data)) (name regex : Data)
      (isMap : entry.view = .map fields) (hasName : Data.lookup? nameKey fields = some name)
      (hasRegex : Data.lookup? regexKey fields = some regex)
      (wrong : name.view = .null ∨ ∀ t, regex.view ≠ .text t)
      (blames : Blames .entryNotText entry e) : EntryFault taken entry e
  | nameTooLong (fields : List (Data × Data)) (name regex : Data) (t : Text)
      (isMap : entry.view = .map fields) (hasName : Data.lookup? nameKey fields = some name)
      (hasRegex : Data.lookup? regexKey fields = some regex) (someName : name.view ≠ .null)
      (isText : regex.view = .text t) (long : name.HoldsLongNumber) :
      EntryFault taken entry .numberTooLong
  | refused (name regex : Text) (e : GrammarError) (described : Describes entry (name, regex))
      (why : Refuses taken name regex e) : EntryFault taken entry e

/-- A number in the entry, or in the name that it gives, is too long to be written. -/
def TooLong (entry : Data) : Prop :=
  entry.HoldsLongNumber ∨ ∃ fields name, entry.view = .map fields ∧
    Data.lookup? nameKey fields = some name ∧ name.HoldsLongNumber

variable {g g' : Grammar} {entry : Data} {entries : List Data} {e : GrammarError}

theorem describes_pairEntry {key value : Data} {pair : Text × Text} :
    Describes (pairEntry (key, value)) pair ↔
      key.view ≠ .null ∧ value.view = .text pair.2 ∧ key.plain? = some pair.1 := by
  constructor
  · rintro ⟨fields, name, regex, isMap, hasName, hasRegex, rest⟩
    have top : (pairEntry (key, value)).view = pairEntry (key, value) := rfl
    rw [top] at isMap
    cases isMap
    cases hasName
    cases hasRegex
    exact rest
  · intro rest
    exact ⟨_, key, value, rfl, rfl, rfl, rest⟩

/-! ### One entry -/

theorem Blames.unreported {cause : Text → GrammarError} (h : Blames cause entry e)
    (reported : ∀ t, (cause t).isMalformed = true) (unreported : e.isMalformed = false) :
    e = .numberTooLong ∧ TooLong entry := by
  cases h with
  | shown t written =>
      rw [reported t] at unreported
      cases unreported
  | tooLong long => exact ⟨rfl, .inl long⟩

/-- What is not an error of the grammar is a number that is too long, or an expression that the engine
refuses without finding a fault in it. -/
theorem EntryFault.unreported {taken : List Text} (h : EntryFault taken entry e)
    (unreported : e.isMalformed = false) :
    (e = .numberTooLong ∧ TooLong entry) ∨
      ∃ name regex error, e = .pattern name regex error ∧ Describes entry (name, regex) ∧
        Pattern.compile regex = .error error ∧ ∀ fault, error ≠ .fault fault := by
  cases h with
  | notMapping _ other blames => exact .inl (blames.unreported (fun _ => rfl) unreported)
  | incomplete _ fields isMap missing blames =>
      exact .inl (blames.unreported (fun _ => rfl) unreported)
  | notText _ fields name regex isMap hasName hasRegex wrong blames =>
      exact .inl (blames.unreported (fun _ => rfl) unreported)
  | nameTooLong fields name regex t isMap hasName hasRegex someName isText long =>
      exact .inl ⟨rfl, .inr ⟨fields, name, isMap, hasName, long⟩⟩
  | refused name regex _ described why =>
      cases why with
      | unnamed | duplicate => cases unreported
      | pattern error named failed =>
          refine .inr ⟨name, regex, error, rfl, described, failed, ?_⟩
          rintro fault rfl
          cases unreported

theorem addEntry_of_describes {pair : Text × Text} (h : Describes entry pair) (g : Grammar) :
    g.addEntry entry = g.add pair.1 pair.2 := by
  obtain ⟨fields, name, regex, isMap, hasName, hasRegex, someName, isText, plain⟩ := h
  simp only [addEntry, isMap, hasName, hasRegex, isText, plain]

theorem blames_blame (cause : Text → GrammarError) (entry : Data) :
    Blames cause entry (blame cause entry) := by
  rw [blame]
  split
  case h_1 t written => exact .shown t written
  case h_2 unwritten => exact .tooLong (Data.shown?_eq_none_iff.mp unwritten)

theorem Blames.eq_blame {cause : Text → GrammarError} (h : Blames cause entry e) :
    blame cause entry = e := by
  cases h with
  | shown t written => rw [blame, written]
  | tooLong long => rw [blame, Data.shown?_eq_none_iff.mpr long]

theorem addEntry_of_fault (h : EntryFault g.names entry e) : g.addEntry entry = .error e := by
  cases h with
  | notMapping e other blames =>
      rw [addEntry, ← blames.eq_blame]
      split
      case h_1 fields isMap => exact absurd isMap (other fields)
      case h_2 => rfl
  | incomplete e fields isMap missing blames =>
      simp only [addEntry, isMap, ← blames.eq_blame]
      rcases missing with noName | noRegex
      · simp only [noName]
      · simp only [noRegex]
        cases Data.lookup? nameKey fields <;> rfl
  | notText e fields name regex isMap hasName hasRegex wrong blames =>
      simp only [addEntry, isMap, hasName, hasRegex, ← blames.eq_blame]
      split
      case h_1 => rfl
      case h_2 isText someName =>
        rcases wrong with null | other
        · exact absurd null someName
        · exact absurd isText (other _)
      case h_3 => rfl
  | nameTooLong fields name regex t isMap hasName hasRegex someName isText long =>
      have unwritten : name.plain? = none := Data.plain?_eq_none_iff.mpr long
      simp only [addEntry, isMap, hasName, hasRegex, isText, unwritten]
  | refused name regex e described why =>
      rw [addEntry_of_describes described]
      exact add_eq_error_iff.mpr why

/-- An entry describes a token type, or it is at fault whatever the other types are. -/
theorem describes_or_fault (entry : Data) :
    (∃ pair, Describes entry pair) ∨ ∃ e, ∀ taken, EntryFault taken entry e := by
  have incomplete := blames_blame .entryIncomplete entry
  have notText := blames_blame .entryNotText entry
  by_cases shape : ∃ fields, entry.view = .map fields
  · obtain ⟨fields, isMap⟩ := shape
    cases hasName : Data.lookup? nameKey fields with
    | none => exact .inr ⟨_, fun _ => .incomplete _ fields isMap (.inl hasName) incomplete⟩
    | some name =>
        cases hasRegex : Data.lookup? regexKey fields with
        | none => exact .inr ⟨_, fun _ => .incomplete _ fields isMap (.inr hasRegex) incomplete⟩
        | some regex =>
            by_cases ill : name.view = .null ∨ ∀ t, regex.view ≠ .text t
            · exact .inr ⟨_, fun _ =>
                .notText _ fields name regex isMap hasName hasRegex ill notText⟩
            · obtain ⟨someName, text⟩ := not_or.mp ill
              obtain ⟨t, isText⟩ := not_forall_not.mp text
              cases written : name.plain? with
              | some plain =>
                  exact .inl ⟨(plain, t), fields, name, regex, isMap, hasName, hasRegex, someName,
                    isText, written⟩
              | none =>
                  have long := Data.plain?_eq_none_iff.mp written
                  exact .inr ⟨_, fun _ =>
                    .nameTooLong fields name regex t isMap hasName hasRegex someName isText long⟩
  · exact .inr ⟨_, fun _ => .notMapping _ (not_exists.mp shape) incomplete⟩

theorem fault_of_addEntry (h : g.addEntry entry = .error e) : EntryFault g.names entry e := by
  rcases describes_or_fault entry with ⟨pair, described⟩ | ⟨e', fault⟩
  · rw [addEntry_of_describes described] at h
    exact .refused pair.1 pair.2 e described (add_eq_error_iff.mp h)
  · rw [addEntry_of_fault (fault g.names)] at h
    cases h
    exact fault g.names

theorem type_of_addEntry (h : g.addEntry entry = .ok g') :
    ∃ t : TokenType, Describes entry t.pair ∧ t.name ∉ g.names ∧
      g' = ⟨g.types ++ [t], g.trimming⟩ := by
  rcases describes_or_fault entry with ⟨pair, described⟩ | ⟨e', fault⟩
  · rw [addEntry_of_describes described] at h
    obtain ⟨t, isName, isRegex, free, added⟩ := add_eq_ok_iff.mp h
    have same : t.pair = pair := Prod.ext isName isRegex
    refine ⟨t, ?_, ?_, added⟩
    · rw [same]
      exact described
    · rw [isName]
      exact free
  · rw [addEntry_of_fault (fault g.names)] at h
    cases h

/-! ### Entry after entry -/

theorem names_append (g : Grammar) (types : List TokenType) :
    names ⟨g.types ++ types, g.trimming⟩ = g.names ++ types.map (·.name) := by
  simp [names]

theorem addEntries_append (g : Grammar) (entries more : List Data) :
    g.addEntries (entries ++ more) =
      match g.addEntries entries with
      | .error e => .error e
      | .ok g => g.addEntries more := by
  induction entries generalizing g with
  | nil => rfl
  | cons entry entries ih =>
      rw [List.cons_append, addEntries, addEntries]
      cases g.addEntry entry with
      | error e => rfl
      | ok g => exact ih g

theorem addEntries_of_types {types : List TokenType}
    (described : List.Forall₂ Describes entries (types.map (·.pair)))
    (apart : (g.names ++ types.map (·.name)).Nodup) :
    g.addEntries entries = .ok ⟨g.types ++ types, g.trimming⟩ := by
  induction types generalizing g entries with
  | nil =>
      cases described
      simp [addEntries]
  | cons t types ih =>
      cases described with
      | cons first later =>
          have free : t.name ∉ g.names := free_of_apart apart
          have added : g.addEntry _ = _ := (addEntry_of_describes first g).trans (add_of_fresh free)
          rw [addEntries, added]
          have all := @ih ⟨g.types ++ [t], g.trimming⟩ _ later (by rw [names_concat]; simpa using apart)
          simpa using all

theorem types_of_addEntries (distinct : g.names.Nodup) (h : g.addEntries entries = .ok g') :
    ∃ types : List TokenType, List.Forall₂ Describes entries (types.map (·.pair)) ∧
      (g.names ++ types.map (·.name)).Nodup ∧ g' = ⟨g.types ++ types, g.trimming⟩ := by
  induction entries generalizing g with
  | nil =>
      cases h
      exact ⟨[], .nil, by simpa using distinct, by simp⟩
  | cons entry entries ih =>
      rw [addEntries] at h
      split at h
      case h_1 => cases h
      case h_2 next added =>
        obtain ⟨t, described, free, rfl⟩ := type_of_addEntry added
        obtain ⟨types, later, apart, all⟩ := ih (distinct_concat distinct free) h
        rw [names_concat] at apart
        exact ⟨t :: types, .cons described later, by simpa using apart, by simpa using all⟩

theorem addEntries_of_fault {types : List TokenType} (rest : List Data)
    (described : List.Forall₂ Describes entries (types.map (·.pair)))
    (apart : (g.names ++ types.map (·.name)).Nodup)
    (fault : EntryFault (g.names ++ types.map (·.name)) entry e) :
    g.addEntries (entries ++ entry :: rest) = .error e := by
  rw [← names_append] at fault
  simp only [addEntries_append, addEntries_of_types described apart, addEntries,
    addEntry_of_fault fault]

theorem fault_of_addEntries (distinct : g.names.Nodup) (h : g.addEntries entries = .error e) :
    ∃ before entry rest, ∃ types : List TokenType, entries = before ++ entry :: rest ∧
      List.Forall₂ Describes before (types.map (·.pair)) ∧
      (g.names ++ types.map (·.name)).Nodup ∧
      EntryFault (g.names ++ types.map (·.name)) entry e := by
  induction entries generalizing g with
  | nil => cases h
  | cons entry entries ih =>
      rw [addEntries] at h
      split at h
      case h_1 failed =>
        cases h
        refine ⟨[], entry, entries, [], rfl, .nil, by simpa using distinct, ?_⟩
        simpa using fault_of_addEntry failed
      case h_2 next added =>
        obtain ⟨t, described, free, rfl⟩ := type_of_addEntry added
        obtain ⟨before, later, rest, types, rfl, all, apart, fault⟩ :=
          ih (distinct_concat distinct free) h
        rw [names_concat] at apart fault
        exact ⟨entry :: before, later, rest, t :: types, rfl, .cons described all,
          by simpa using apart, by simpa using fault⟩

end MaximalMunch.Grammar
