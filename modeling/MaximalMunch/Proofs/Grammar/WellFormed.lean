import MaximalMunch.Proofs.Grammar.Entries

/-!
Which data define a grammar. The form of a definition is said without its reading, and so are its
faults; reading then gives the types of a definition in form, in their order, and otherwise the fault
that comes first.
-/

namespace MaximalMunch.Grammar

/-! ### The form of a definition -/

/-- The flag is given, or it is off. -/
inductive Trims (fields : List (Data × Data)) : Bool → Prop where
  | absent (missing : Data.lookup? trimmingKey fields = none) : Trims fields false
  | given (value : Data) (trimming : Bool) (there : Data.lookup? trimmingKey fields = some value)
      (isFlag : value.view = .flag trimming) : Trims fields trimming

/-- The token types are listed, in one layout or the other. -/
inductive Lists (fields : List (Data × Data)) : List Data → Prop where
  | list (value : Data) (items : List Data) (there : Data.lookup? tokenTypesKey fields = some value)
      (isList : value.view = .list items) (some_item : items ≠ []) : Lists fields items
  | mapping (value : Data) (pairs : List (Data × Data))
      (there : Data.lookup? tokenTypesKey fields = some value) (isMap : value.view = .map pairs)
      (some_pair : pairs ≠ []) : Lists fields (pairs.map pairEntry)

/-- The entries of the token types that a definition lists, in either layout. -/
def definedEntries (d : Data) : List Data :=
  match d.view with
  | .map fields => entriesOf ((Data.lookup? tokenTypesKey fields).getD .null).view
  | _ => []

/-- The entries describe token types that may stand together. -/
structure Sound (entries : List Data) (pairs : List (Text × Text)) : Prop where
  described : List.Forall₂ Describes entries pairs
  named : ∀ pair ∈ pairs, pair.1 ≠ []
  compiled : ∀ pair ∈ pairs, ∃ program, Pattern.compile pair.2 = .ok program
  apart : (pairs.map (·.1)).Nodup

/-- The data define a grammar with this trimming and with types of these names and expressions. -/
def WellFormed (d : Data) (trimming : Bool) (pairs : List (Text × Text)) : Prop :=
  ∃ fields entries, d.view = .map fields ∧ Trims fields trimming ∧ Lists fields entries ∧
    Sound entries pairs

/-! ### The faults of a definition -/

/-- The first thing that is wrong with a definition. -/
inductive FirstFault (d : Data) : GrammarError → Prop where
  | notMapping (other : ∀ fields, d.view ≠ .map fields) : FirstFault d .notMapping
  | trimming (fields : List (Data × Data)) (isMap : d.view = .map fields)
      (wrong : ∀ trimming, ¬ Trims fields trimming) : FirstFault d .trimmingNotFlag
  | tokenTypes (fields : List (Data × Data)) (trimming : Bool) (isMap : d.view = .map fields)
      (trims : Trims fields trimming) (wrong : ∀ entries, ¬ Lists fields entries) :
      FirstFault d .noTokenTypes
  | entry (fields : List (Data × Data)) (trimming : Bool) (before : List Data) (entry : Data)
      (rest : List Data) (pairs : List (Text × Text)) (e : GrammarError)
      (isMap : d.view = .map fields) (trims : Trims fields trimming)
      (lists : Lists fields (before ++ entry :: rest)) (sound : Sound before pairs)
      (fault : EntryFault (pairs.map (·.1)) entry e) : FirstFault d e

variable {g : Grammar} {entries : List Data} {e : GrammarError}

/-! ### Reading -/

theorem map_pair_fst (types : List TokenType) :
    (types.map (·.pair)).map (·.1) = types.map (·.name) := by
  simp [TokenType.pair, Function.comp_def]

theorem exists_types {pairs : List (Text × Text)} (named : ∀ pair ∈ pairs, pair.1 ≠ [])
    (compiled : ∀ pair ∈ pairs, ∃ program, Pattern.compile pair.2 = .ok program) :
    ∃ types : List TokenType, types.map (·.pair) = pairs := by
  induction pairs with
  | nil => exact ⟨[], rfl⟩
  | cons pair pairs ih =>
      rw [List.forall_mem_cons] at named compiled
      obtain ⟨types, rfl⟩ := ih named.2 compiled.2
      obtain ⟨program, compiles⟩ := compiled.1
      exact ⟨⟨pair.1, pair.2, program, named.1, compiles⟩ :: types, rfl⟩

/-- Entries are sound when their token types can be made and are apart. -/
theorem sound_iff {pairs : List (Text × Text)} :
    Sound entries pairs ↔ ∃ types : List TokenType, types.map (·.pair) = pairs ∧
      List.Forall₂ Describes entries (types.map (·.pair)) ∧ (types.map (·.name)).Nodup := by
  constructor
  · rintro ⟨described, named, compiled, apart⟩
    obtain ⟨types, rfl⟩ := exists_types named compiled
    rw [map_pair_fst] at apart
    exact ⟨types, rfl, described, apart⟩
  · rintro ⟨types, rfl, described, apart⟩
    refine ⟨described, ?_, ?_, ?_⟩
    · intro pair member
      obtain ⟨t, _, rfl⟩ := List.mem_map.mp member
      exact t.named
    · intro pair member
      obtain ⟨t, _, rfl⟩ := List.mem_map.mp member
      exact ⟨t.program, t.compiled⟩
    · rw [map_pair_fst]
      exact apart

theorem trims_iff {fields : List (Data × Data)} {trimming : Bool} :
    Trims fields trimming ↔
      ((Data.lookup? trimmingKey fields).getD (.flag false)).view = .flag trimming := by
  constructor
  · intro trims
    cases trims with
    | absent missing =>
        rw [missing]
        rfl
    | given value trimming there isFlag =>
        rw [there]
        exact isFlag
  · intro isFlag
    cases there : Data.lookup? trimmingKey fields with
    | none =>
        rw [there] at isFlag
        cases isFlag
        exact .absent there
    | some value =>
        rw [there] at isFlag
        exact .given value trimming there isFlag

theorem lists_iff {fields : List (Data × Data)} :
    Lists fields entries ↔
      entriesOf ((Data.lookup? tokenTypesKey fields).getD .null).view = entries ∧ entries ≠ [] := by
  constructor
  · intro lists
    cases lists with
    | list value items there isList some_item =>
        rw [there, Option.getD_some, isList]
        exact ⟨rfl, some_item⟩
    | mapping value pairs there isMap some_pair =>
        rw [there, Option.getD_some, isMap]
        exact ⟨rfl, by simpa using some_pair⟩
  · rintro ⟨rfl, some_entry⟩
    cases there : Data.lookup? tokenTypesKey fields with
    | none =>
        rw [there] at some_entry
        exact absurd rfl some_entry
    | some value =>
        rw [there, Option.getD_some] at some_entry
        cases shape : value.view with
        | list items =>
            rw [shape] at some_entry
            simp only [Option.getD_some, shape, entriesOf]
            exact .list value items there shape some_entry
        | map pairs =>
            rw [shape] at some_entry
            simp only [Option.getD_some, shape, entriesOf]
            refine .mapping value pairs there shape ?_
            rintro rfl
            exact some_entry rfl
        | _ =>
            rw [shape] at some_entry
            exact absurd rfl some_entry

variable {d : Data} {fields : List (Data × Data)} {trimming : Bool} {pairs : List (Text × Text)}

theorem ofData_of_lists (isMap : d.view = .map fields) (trims : Trims fields trimming)
    (lists : Lists fields entries) : ofData d = (empty trimming).addEntries entries := by
  obtain ⟨listed, some_entry⟩ := lists_iff.mp lists
  simp only [ofData, isMap, trims_iff.mp trims, listed]

theorem definedEntries_of_lists (isMap : d.view = .map fields) (lists : Lists fields entries) :
    definedEntries d = entries := by
  rw [definedEntries, isMap]
  exact (lists_iff.mp lists).1

theorem ofData_of_fault (h : FirstFault d e) : ofData d = .error e := by
  cases h with
  | notMapping other =>
      rw [ofData]
      split
      case h_1 fields isMap => exact absurd isMap (other fields)
      case h_2 => rfl
  | trimming fields isMap wrong =>
      simp only [ofData, isMap]
      split
      case h_1 trimming isFlag => exact absurd (trims_iff.mpr isFlag) (wrong trimming)
      case h_2 => rfl
  | tokenTypes fields trimming isMap trims wrong =>
      simp only [ofData, isMap, trims_iff.mp trims]
      split
      case h_1 => rfl
      case h_2 some_entry => exact absurd (lists_iff.mpr ⟨rfl, some_entry⟩) (wrong _)
  | entry fields trimming before entry rest pairs _ isMap trims lists sound fault =>
      obtain ⟨types, rfl, described, apart⟩ := sound_iff.mp sound
      rw [map_pair_fst] at fault
      rw [ofData_of_lists isMap trims lists]
      exact addEntries_of_fault rest described apart fault

/-- The entries are met, or there is a fault before them. -/
theorem listed_or_fault (d : Data) :
    (∃ fields trimming entries, d.view = .map fields ∧ Trims fields trimming ∧ Lists fields entries) ∨
      ∃ e, FirstFault d e := by
  by_cases shape : ∃ fields, d.view = .map fields
  · obtain ⟨fields, isMap⟩ := shape
    by_cases trims : ∃ trimming, Trims fields trimming
    · obtain ⟨trimming, trims⟩ := trims
      by_cases lists : ∃ entries, Lists fields entries
      · obtain ⟨entries, lists⟩ := lists
        exact .inl ⟨fields, trimming, entries, isMap, trims, lists⟩
      · exact .inr ⟨_, .tokenTypes fields trimming isMap trims (not_exists.mp lists)⟩
    · exact .inr ⟨_, .trimming fields isMap (not_exists.mp trims)⟩
  · exact .inr ⟨_, .notMapping (not_exists.mp shape)⟩

theorem fault_of_ofData (h : ofData d = .error e) : FirstFault d e := by
  rcases listed_or_fault d with ⟨fields, trimming, entries, isMap, trims, lists⟩ | ⟨e', fault⟩
  · rw [ofData_of_lists isMap trims lists] at h
    obtain ⟨before, entry, rest, types, rfl, described, apart, fault⟩ :=
      fault_of_addEntries (distinct_empty trimming) h
    have sound : Sound before (types.map (·.pair)) := sound_iff.mpr ⟨types, rfl, described, apart⟩
    refine .entry fields trimming before entry rest _ e isMap trims lists sound ?_
    rw [map_pair_fst]
    exact fault
  · rw [ofData_of_fault fault] at h
    cases h
    exact fault

theorem ofData_of_wellFormed (h : WellFormed d trimming pairs) :
    ∃ g, ofData d = .ok g ∧ g.trimming = trimming ∧ g.types.map (·.pair) = pairs := by
  obtain ⟨fields, entries, isMap, trims, lists, sound⟩ := h
  obtain ⟨types, rfl, described, apart⟩ := sound_iff.mp sound
  refine ⟨⟨types, trimming⟩, ?_, rfl, rfl⟩
  rw [ofData_of_lists isMap trims lists]
  exact addEntries_of_types described apart

theorem wellFormed_of_ofData (h : ofData d = .ok g) :
    WellFormed d g.trimming (g.types.map (·.pair)) := by
  rcases listed_or_fault d with ⟨fields, trimming, entries, isMap, trims, lists⟩ | ⟨e, fault⟩
  · rw [ofData_of_lists isMap trims lists] at h
    obtain ⟨types, described, apart, rfl⟩ := types_of_addEntries (distinct_empty trimming) h
    exact ⟨fields, entries, isMap, trims, lists, sound_iff.mpr ⟨types, rfl, described, apart⟩⟩
  · rw [ofData_of_fault fault] at h
    cases h

/-- The engine takes the expressions of all entries, or finds a fault in them. -/
def OrdinaryExpressions (d : Data) : Prop :=
  ∀ fields entries entry name regex error, d.view = .map fields → Lists fields entries →
    entry ∈ entries → Describes entry (name, regex) → Pattern.compile regex = .error error →
      ∃ fault, error = .fault fault

theorem FirstFault.kind (h : FirstFault d e) (ordinary : OrdinaryExpressions d) :
    e.isMalformed = true ∨ e = .numberTooLong ∧ ∃ entry ∈ definedEntries d, TooLong entry := by
  cases h with
  | notMapping | trimming | tokenTypes => exact .inl rfl
  | entry fields trimming before entry rest pairs _ isMap trims lists sound fault =>
      have member : entry ∈ before ++ entry :: rest := by simp
      cases kind : e.isMalformed with
      | true => exact .inl rfl
      | false =>
          rcases fault.unreported kind with
            ⟨rfl, long⟩ | ⟨name, regex, error, rfl, described, failed, other⟩
          · rw [definedEntries_of_lists isMap lists]
            exact .inr ⟨rfl, entry, member, long⟩
          · obtain ⟨fault, rfl⟩ :=
              ordinary fields _ entry name regex error isMap lists member described failed
            exact absurd rfl (other _)

/-- Reading accepts the definitions in form and no others. It gives the types that the entries describe,
in their order, with the trimming that is given; and what it refuses it refuses for the first thing that
is wrong. That is an error of the grammar unless the engine fails in another way, or a number in an
entry is too long to be written, as a name or where the entry is shown. -/
theorem ofData_accepts (d : Data) :
    (∀ trimming pairs, WellFormed d trimming pairs ↔
      ∃ g, ofData d = .ok g ∧ g.trimming = trimming ∧ g.types.map (·.pair) = pairs) ∧
    (∀ e, FirstFault d e ↔ ofData d = .error e) ∧
    (OrdinaryExpressions d → ∀ e, ofData d = .error e →
      e.isMalformed = true ∨ e = .numberTooLong ∧ ∃ entry ∈ definedEntries d, TooLong entry) := by
  refine ⟨?_, ?_, ?_⟩
  · intro trimming pairs
    constructor
    · exact ofData_of_wellFormed
    · rintro ⟨g, read, rfl, rfl⟩
      exact wellFormed_of_ofData read
  · intro e
    exact ⟨ofData_of_fault, fault_of_ofData⟩
  · intro ordinary e refused
    exact (fault_of_ofData refused).kind ordinary

/-- Two types of one letter, the first of them named by this value and the other by a digit. -/
def letterTwice (key : Data) : Data :=
  .map [(.text trimmingKey, .flag true),
    (.text tokenTypesKey, .map [(key, .text ['a']), (.text ['1'], .text ['a'])])]

theorem letterTwice_form (key : Data) :
    ∃ fields, (letterTwice key).view = .map fields ∧ Trims fields true ∧
      Lists fields [pairEntry (key, .text ['a']), pairEntry (.text ['1'], .text ['a'])] := by
  refine ⟨_, rfl, .given (.flag true) true rfl rfl, ?_⟩
  exact .mapping _ [(key, .text ['a']), (.text ['1'], .text ['a'])] rfl rfl (List.cons_ne_nil _ _)

theorem letterTwice_lists (key : Data) {fields : List (Data × Data)}
    (isMap : (letterTwice key).view = .map fields) (lists : Lists fields entries) :
    entries = [pairEntry (key, .text ['a']), pairEntry (.text ['1'], .text ['a'])] := by
  have top : (letterTwice key).view = letterTwice key := rfl
  rw [top] at isMap
  cases isMap
  obtain ⟨rfl, _⟩ := lists_iff.mp lists
  rfl

theorem compile_letter : ∃ program, Pattern.compile ['a'] = .ok program := by
  have some_program : (Pattern.compile ['a']).toOption.isSome = true := by decide +kernel
  cases letter : Pattern.compile ['a'] with
  | ok program => exact ⟨program, rfl⟩
  | error e =>
      rw [letter] at some_program
      contradiction

theorem ordinary_letterTwice (key : Data) : OrdinaryExpressions (letterTwice key) := by
  intro fields entries entry name regex error isMap lists member described failed
  have given : regex = ['a'] := by
    rw [letterTwice_lists key isMap lists] at member
    rcases List.mem_pair.mp member with rfl | rfl
    · cases (describes_pairEntry.mp described).2.1
      rfl
    · cases (describes_pairEntry.mp described).2.1
      rfl
  obtain ⟨program, compiled⟩ := compile_letter
  rw [given, compiled] at failed
  contradiction

/-- A truth value is not the name that a one is, and a one is the name that the digit is. -/
theorem ofData_accepts_letterTwice :
    (∃ g, ofData (letterTwice (.flag true)) = .ok g ∧ g.trimming = true ∧
      g.types.map (·.pair) = [("True".toList, ['a']), (['1'], ['a'])]) ∧
    ofData (letterTwice (.int 1)) = .error (.duplicate ['1']) ∧
      (GrammarError.duplicate ['1']).isMalformed = true := by
  have digit : Describes (pairEntry (.text ['1'], .text ['a'])) (['1'], ['a']) :=
    describes_pairEntry.mpr ⟨by simp [Data.view], rfl, rfl⟩
  obtain ⟨program, compiled⟩ := compile_letter
  constructor
  · apply ((ofData_accepts _).1 true _).mp
    obtain ⟨fields, isMap, trims, lists⟩ := letterTwice_form (.flag true)
    have truth : Describes (pairEntry (.flag true, .text ['a'])) ("True".toList, ['a']) :=
      describes_pairEntry.mpr ⟨by simp [Data.view], rfl, rfl⟩
    refine ⟨fields, _, isMap, trims, lists, .cons truth (.cons digit .nil), ?_, ?_, ?_⟩
    · decide
    · simp [compiled]
    · decide
  · obtain ⟨fields, isMap, trims, lists⟩ := letterTwice_form (.int 1)
    have one : Describes (pairEntry (.int 1, .text ['a'])) (['1'], ['a']) :=
      describes_pairEntry.mpr ⟨by simp [Data.view], rfl, by decide⟩
    have sound : Sound [pairEntry (.int 1, .text ['a'])] [(['1'], ['a'])] :=
      ⟨.cons one .nil, by decide, by simp [compiled], by decide⟩
    have refused : ofData (letterTwice (.int 1)) = .error (.duplicate ['1']) := by
      apply ((ofData_accepts _).2.1 _).mp
      refine .entry fields true _ _ [] _ _ isMap trims lists sound ?_
      exact .refused _ _ _ digit (.duplicate program (by decide) compiled (by decide))
    have kind := (ofData_accepts _).2.2 (ordinary_letterTwice _) _ refused
    exact ⟨refused, kind.resolve_right fun ⟨other, _⟩ => GrammarError.noConfusion other⟩

/-- A definition with one entry. -/
def lone (entry : Data) : Data := .map [(.text tokenTypesKey, .list [entry])]

theorem ofData_lone {entry : Data} (fault : EntryFault [] entry e) :
    ofData (lone entry) = .error e := by
  have lists : Lists [(.text tokenTypesKey, .list [entry])] [entry] :=
    .list (.list [entry]) _ rfl rfl (List.cons_ne_nil _ _)
  have none_before : Sound [] [] := ⟨.nil, by simp, by simp, List.nodup_nil⟩
  exact ofData_of_fault (.entry _ false [] entry [] [] e rfl (.absent rfl) lists none_before fault)

/-- The least number that is too long to be written. -/
def leastLong : Int := Int.ofNat (Nat.pow 10 Text.maxDigits)

theorem isLong_leastLong : Text.IsLong leastLong := by
  have size : leastLong.natAbs = Nat.pow 10 Text.maxDigits := Int.natAbs_natCast _
  exact Nat.le_of_eq size.symm

/-- In place of an entry a number is refused, and an expression of that name is as well. Neither error
is one of the grammar if the number is too long to be written. -/
theorem ofData_leastLong :
    ofData (lone (.int leastLong)) = .error .numberTooLong ∧
    ofData (lone (pairEntry (.int leastLong, .text ['a']))) = .error .numberTooLong ∧
    GrammarError.numberTooLong.isMalformed = false := by
  have long : Data.HoldsLongNumber (.int leastLong) := .int isLong_leastLong
  refine ⟨ofData_lone ?entry, ofData_lone ?name, rfl⟩
  case entry => exact .notMapping _ (by simp [Data.view]) (.tooLong long)
  case name =>
    exact .nameTooLong _ (.int leastLong) _ ['a'] rfl rfl rfl (by simp [Data.view]) rfl long

end MaximalMunch.Grammar
