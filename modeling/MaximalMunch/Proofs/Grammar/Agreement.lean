import Mathlib.Data.List.Induction
import MaximalMunch.Grammar.Loading
import MaximalMunch.Proofs.Grammar.Addition
import MaximalMunch.Proofs.Grammar.Definitions
import MaximalMunch.Proofs.Text.Utf8
import MaximalMunch.Text.Quoted

/-!
What the two layouts of a grammar file load to. The list adds its pairs one by one, so a name that
comes twice is refused. The mapping has each name once by the time the pairs are added: it keeps the
first place and the last expression of a name that comes twice, and nothing is refused.
-/

namespace MaximalMunch.Grammar

open Yaml

theorem addEntry_entryData (g : Grammar) (pair : Text × Text) :
    g.addEntry (entryData pair) = g.add pair.1 pair.2 := by
  rfl

theorem addEntries_entryData (g : Grammar) (pairs : List (Text × Text)) :
    g.addEntries (pairs.map entryData) = g.addPairs pairs := by
  induction pairs generalizing g with
  | nil => rfl
  | cons pair pairs ih =>
      rw [List.map_cons, addEntries, addPairs, addEntry_entryData]
      cases g.add pair.1 pair.2 with
      | error e => rfl
      | ok g => exact ih g

theorem ofData_definition {types : Data} {pairs : List (Text × Text)} (some_pair : pairs ≠ [])
    (entries : entriesOf types.view = pairs.map entryData) :
    ofData (definition types) = (empty false).addPairs pairs := by
  have keys : tokenTypesKey ≠ trimmingKey := by decide
  have noTrimming : Data.lookup? trimmingKey [(.text tokenTypesKey, types)] = none := by
    simp [Data.lookup?, Data.sameKey, keys]
  have found : Data.lookup? tokenTypesKey [(.text tokenTypesKey, types)] = some types := by
    simp [Data.lookup?, Data.sameKey]
  obtain ⟨pair, pairs, rfl⟩ := List.exists_cons_of_ne_nil some_pair
  have top : (definition types).view = .map [(.text tokenTypesKey, types)] := rfl
  have off : (Data.flag false).view = .flag false := rfl
  simp only [ofData, top, noTrimming, Option.getD_none, off, found, Option.getD_some, entries]
  exact addEntries_entryData _ _

theorem putPair_ne_nil (pair : Text × Text) (found : List (Text × Text)) :
    putPair pair found ≠ [] := by
  cases found with
  | nil => exact List.cons_ne_nil _ _
  | cons first rest =>
      rw [putPair]
      split <;> exact List.cons_ne_nil _ _

/-- A name that is there keeps its place, and another one goes behind all others. -/
theorem names_putPair (pair : Text × Text) (found : List (Text × Text)) :
    (putPair pair found).map (·.1) =
      if pair.1 ∈ found.map (·.1) then found.map (·.1) else found.map (·.1) ++ [pair.1] := by
  induction found with
  | nil => rfl
  | cons first rest ih =>
      by_cases same : first.1 = pair.1
      · simp [putPair, same]
      · have other : ¬pair.1 = first.1 := fun h => same h.symm
        simp only [putPair, if_neg same, List.map_cons, ih, List.mem_cons, other, false_or]
        split <;> rfl

theorem putPair_of_new {pair : Text × Text} {found : List (Text × Text)}
    (new : pair.1 ∉ found.map (·.1)) : putPair pair found = found ++ [pair] := by
  induction found with
  | nil => rfl
  | cons first rest ih =>
      rw [List.map_cons, List.mem_cons, not_or] at new
      rw [putPair, if_neg fun h => new.1 h.symm, ih new.2, List.cons_append]

theorem lastValues_concat (pairs : List (Text × Text)) (pair : Text × Text) :
    lastValues (pairs ++ [pair]) = putPair pair (lastValues pairs) := by
  rw [lastValues, List.foldl_append]
  rfl

theorem lastValues_ne_nil {pairs : List (Text × Text)} (some_pair : pairs ≠ []) :
    lastValues pairs ≠ [] := by
  rw [← List.dropLast_concat_getLast some_pair, lastValues_concat]
  exact putPair_ne_nil _ _

theorem lastValues_nodup (pairs : List (Text × Text)) : ((lastValues pairs).map (·.1)).Nodup := by
  induction pairs using List.reverseRecOn with
  | nil => exact List.nodup_nil
  | append_singleton pairs pair ih =>
      rw [lastValues_concat, names_putPair]
      split
      case isTrue => exact ih
      case isFalse new => exact List.nodup_append_comm.mp (List.nodup_cons.mpr ⟨new, ih⟩)

theorem lastValues_of_nodup {pairs : List (Text × Text)} (once : (pairs.map (·.1)).Nodup) :
    lastValues pairs = pairs := by
  induction pairs using List.reverseRecOn with
  | nil => rfl
  | append_singleton pairs pair ih =>
      rw [List.map_append, List.map_singleton] at once
      have new := List.nodup_cons.mp (List.nodup_append_comm.mp once)
      rw [lastValues_concat, ih new.2, putPair_of_new new.1]

theorem allowed_singleQuoted {t : Text} (allowed : ∀ c ∈ t, isAllowed c = true) :
    (singleQuoted t).all isAllowed = true := by
  have inner : (doubled t).all isAllowed = true :=
    List.all_eq_true.mpr fun c mem => allowed c (mem_of_mem_doubled mem)
  have quote : isAllowed '\x27' = true := by decide
  simp [singleQuoted, inner, quote]

theorem allowed_unlines {lines : List Text} (allowed : ∀ l ∈ lines, l.all isAllowed = true) :
    (unlines lines).all isAllowed = true := by
  have newline : isAllowed '\n' = true := by decide
  rw [unlines, List.all_flatMap, List.all_eq_true]
  intro l hl
  rw [List.all_append, allowed l hl]
  simp [newline]

theorem allowed_indented (n : Nat) {key value : Text} (ofKey : key.all isAllowed = true)
    (ofValue : value.all isAllowed = true) : (indented n (keyed key value)).all isAllowed = true := by
  have space : isAllowed ' ' = true := by decide
  have colon : isAllowed ':' = true := by decide
  simp [indented, keyed, ofKey, ofValue, space, colon]

theorem allowed_listLayout {pairs : List (Text × Text)} (ok : ∀ pair ∈ pairs, Writable pair) :
    (listLayout pairs).all isAllowed = true := by
  apply allowed_unlines
  intro l hl
  rcases List.mem_cons.mp hl with rfl | item
  · decide
  · obtain ⟨pair, mem, line⟩ := List.mem_flatMap.mp item
    have named := allowed_singleQuoted (ok pair mem).nameAllowed
    have matched := allowed_singleQuoted (ok pair mem).regexAllowed
    simp only [itemLines, List.mem_cons, List.not_mem_nil, or_false] at line
    rcases line with rfl | rfl
    · exact allowed_indented 2 (show ('-' :: ' ' :: nameKey).all isAllowed = true by decide) named
    · exact allowed_indented 4 (by decide) matched

theorem allowed_mappingLayout {pairs : List (Text × Text)} (ok : ∀ pair ∈ pairs, Writable pair) :
    (mappingLayout pairs).all isAllowed = true := by
  apply allowed_unlines
  intro l hl
  rcases List.mem_cons.mp hl with rfl | entry
  · decide
  · obtain ⟨pair, mem, rfl⟩ := List.mem_map.mp entry
    exact allowed_indented 2 (allowed_singleQuoted (ok pair mem).nameAllowed)
      (allowed_singleQuoted (ok pair mem).regexAllowed)

theorem read_listLayout {pairs : List (Text × Text)} (some_pair : pairs ≠ [])
    (ok : ∀ pair ∈ pairs, Writable pair) :
    Yaml.read (listLayout pairs) = .ok (definition (.list (pairs.map entryData))) := by
  rw [Yaml.read, if_pos (allowed_listLayout ok), document_listLayout ok some_pair]
  exact data_listDocument pairs

theorem read_mappingLayout {pairs : List (Text × Text)} (some_pair : pairs ≠ [])
    (ok : ∀ pair ∈ pairs, Writable pair) :
    Yaml.read (mappingLayout pairs) = .ok (definition (mappingData pairs)) := by
  rw [Yaml.read, if_pos (allowed_mappingLayout ok), document_mappingLayout ok some_pair]
  exact data_mappingDocument pairs

theorem ofYaml_of_read {t : Text} {d : Data} (h : Yaml.read t = .ok d) :
    ofYaml t = (ofData d).mapError .grammar := by
  simp only [ofYaml, h]
  cases ofData d <;> rfl

theorem ofYaml_listLayout {pairs : List (Text × Text)} (some_pair : pairs ≠ [])
    (ok : ∀ pair ∈ pairs, Writable pair) :
    ofYaml (listLayout pairs) = ((empty false).addPairs pairs).mapError .grammar := by
  rw [ofYaml_of_read (read_listLayout some_pair ok), ofData_definition some_pair rfl]

theorem ofData_mappingData {pairs : List (Text × Text)} (some_pair : pairs ≠ []) :
    ofData (definition (mappingData pairs)) = (empty false).addPairs (lastValues pairs) := by
  refine ofData_definition (lastValues_ne_nil some_pair) ?_
  have top : (mappingData pairs).view = .map ((lastValues pairs).map textEntry) := rfl
  rw [top, entriesOf, List.map_map]
  rfl

theorem ofYaml_mappingLayout {pairs : List (Text × Text)} (some_pair : pairs ≠ [])
    (ok : ∀ pair ∈ pairs, Writable pair) :
    ofYaml (mappingLayout pairs) = ((empty false).addPairs (lastValues pairs)).mapError .grammar := by
  rw [ofYaml_of_read (read_mappingLayout some_pair ok), ofData_mappingData some_pair]

/-- A grammar loads from the list of its token types. -/
theorem ofYaml_types {types : List TokenType} (some_type : types ≠ [])
    (once : (types.map (·.name)).Nodup) (ok : ∀ t ∈ types, Writable (t.name, t.regex)) :
    ofYaml (listLayout (types.map fun t => (t.name, t.regex))) = .ok ⟨types, false⟩ := by
  have writable : ∀ pair ∈ types.map fun t => (t.name, t.regex), Writable pair := by
    intro pair mem
    obtain ⟨t, ht, rfl⟩ := List.mem_map.mp mem
    exact ok t ht
  rw [ofYaml_listLayout (by simpa using some_type) writable, addPairs_types (g := empty false) once]
  rfl

/-- A grammar loads from any text that composes to the mapping of its token types, however the names
and expressions are written in it. -/
theorem ofYaml_of_mappingDocument {t : Text} {types : List TokenType} (some_type : types ≠ [])
    (once : (types.map (·.name)).Nodup) (allowed : t.all isAllowed = true)
    (composed : (Document.ofStream (Stream.ofText t)).toOption =
      some (mappingDocument (types.map fun t => (t.name, t.regex)))) :
    ofYaml t = .ok ⟨types, false⟩ := by
  have some_pair : (types.map fun t => (t.name, t.regex)) ≠ [] := by simpa using some_type
  have apart : ((types.map fun t => (t.name, t.regex)).map (·.1)).Nodup := by
    rw [List.map_map]
    exact once
  have read : Yaml.read t =
      .ok (definition (mappingData (types.map fun t => (t.name, t.regex)))) := by
    rw [Yaml.read, if_pos allowed]
    cases document : Document.ofStream (Stream.ofText t) with
    | error e => rw [document] at composed; cases composed
    | ok d =>
        rw [document] at composed
        obtain rfl := Option.some.inj composed
        exact data_mappingDocument _
  rw [ofYaml_of_read read, ofData_mappingData some_pair, lastValues_of_nodup apart,
    addPairs_types (g := empty false) once]
  rfl

/-- A file with the bytes of a text is read as the text with its line ends unified. -/
theorem ofBytes_encode (t : Text) :
    ofBytes (Utf8.encode t) = ofYaml (Text.unifyNewlines t) := by
  rw [ofBytes, Utf8.decode_encode]

theorem ofFile_of_mappingDocument {files : Files} {path : Path} {t : Text} {types : List TokenType}
    (found : files.find path = .file (Utf8.encode t)) (same : Text.unifyNewlines t = t)
    (some_type : types ≠ []) (once : (types.map (·.name)).Nodup)
    (allowed : t.all isAllowed = true)
    (composed : (Document.ofStream (Stream.ofText t)).toOption =
      some (mappingDocument (types.map fun t => (t.name, t.regex)))) :
    ofFile files path = .ok ⟨types, false⟩ := by
  rw [ofFile, found, ofFound, ofBytes_encode, same]
  exact ofYaml_of_mappingDocument some_type once allowed composed

/-- Ranges of characters that may stand in a file, with no line end among them. -/
def isPlainRange (r : Nat × Nat) : Bool :=
  (0x20 ≤ r.1 && r.2 ≤ 0x7E) || (0xA0 ≤ r.1 && r.2 ≤ 0x2027) || (0x202A ≤ r.1 && r.2 ≤ 0xFFFD) ||
    0x10000 ≤ r.1

theorem allowed_of_printable {c : Char} (printable : Text.isPrintable c = true) :
    isAllowed c = true ∧ isBreak c = false := by
  have ranges : Text.printableRanges.all isPlainRange = true := by decide +kernel
  obtain ⟨r, mem, inside⟩ := List.any_eq_true.mp printable
  have range := List.all_eq_true.mp ranges r mem
  simp only [isPlainRange, Bool.or_eq_true, Bool.and_eq_true, decide_eq_true_eq] at range inside
  have code : (0x20 ≤ c.toNat ∧ c.toNat ≤ 0x7E) ∨ (0xA0 ≤ c.toNat ∧ c.toNat ≤ 0x2027) ∨
      (0x202A ≤ c.toNat ∧ c.toNat ≤ 0xFFFD) ∨ 0x10000 ≤ c.toNat := by
    omega
  constructor
  · simp only [isAllowed, Bool.or_eq_true, Bool.and_eq_true, decide_eq_true_eq, beq_iff_eq]
    omega
  · by_contra line
    simp only [Bool.not_eq_false, isBreak, Bool.or_eq_true, beq_iff_eq] at line
    rcases line with (((rfl | rfl) | rfl) | rfl) | rfl <;> revert code <;> decide

theorem writable_of_printable {pair : Text × Text} (short : pair.1.length ≤ 100)
    (printable : ∀ c ∈ pair.1 ++ pair.2, Text.isPrintable c = true) : Writable pair := by
  have ofName := fun c hc => allowed_of_printable (printable c (List.mem_append_left _ hc))
  have ofRegex := fun c hc => allowed_of_printable (printable c (List.mem_append_right _ hc))
  exact ⟨fun c hc => (ofName c hc).2, fun c hc => (ofRegex c hc).2, fun c hc => (ofName c hc).1,
    fun c hc => (ofRegex c hc).1, by rw [maxKeySize]; omega⟩

/-- The two layouts of the same pairs load to the same grammar, or to the same error, where each
name comes once. Where a name comes twice, the list is always refused, but the mapping loads as if
the name stood there once, at its first place and with its last expression. -/
theorem ofYaml_layouts {pairs : List (Text × Text)} (some_pair : pairs ≠ [])
    (short : ∀ pair ∈ pairs, pair.1.length ≤ 100)
    (printable : ∀ pair ∈ pairs, ∀ c ∈ pair.1 ++ pair.2, Text.isPrintable c = true) :
    ofYaml (listLayout pairs) = ((empty false).addPairs pairs).mapError .grammar ∧
    ofYaml (mappingLayout pairs) =
      ((empty false).addPairs (lastValues pairs)).mapError .grammar ∧
    ((pairs.map (·.1)).Nodup → ofYaml (mappingLayout pairs) = ofYaml (listLayout pairs)) ∧
    (¬(pairs.map (·.1)).Nodup → ∃ e, ofYaml (listLayout pairs) = .error (.grammar e)) ∧
    ∀ name, ofYaml (mappingLayout pairs) ≠ .error (.grammar (.duplicate name)) := by
  have ok := fun pair mem => writable_of_printable (short pair mem) (printable pair mem)
  rw [ofYaml_listLayout some_pair ok, ofYaml_mappingLayout some_pair ok]
  refine ⟨rfl, rfl, ?sameNames, ?twice, ?mapping⟩
  case sameNames =>
    intro once
    rw [lastValues_of_nodup once]
  case twice =>
    intro twice
    -- Had all pairs been added, their names would be those of a grammar, which has each name once.
    cases added : (empty false).addPairs pairs with
    | error e => exact ⟨e, rfl⟩
    | ok g =>
        obtain ⟨names, once⟩ := addPairs_names added List.nodup_nil
        rw [names] at once
        exact absurd once twice
  case mapping =>
    intro name same
    have once := addPairs_ne_duplicate (g := empty false) (lastValues_nodup pairs) name
    cases added : (empty false).addPairs (lastValues pairs) with
    | error e =>
        rw [added] at same once
        cases same
        exact once rfl
    | ok g =>
        rw [added] at same
        cases same

theorem printable_of_all {pairs : List (Text × Text)}
    (h : pairs.all (fun pair => (pair.1 ++ pair.2).all Text.isPrintable) = true) :
    ∀ pair ∈ pairs, ∀ c ∈ pair.1 ++ pair.2, Text.isPrintable c = true := fun pair mem =>
  List.all_eq_true.mp (List.all_eq_true.mp h pair mem)

theorem ofYaml_layouts_sums :
    ofYaml (mappingLayout [("NUMBER".toList, "[0-9]+".toList), ("PLUS".toList, "\\+".toList)]) =
      ofYaml (listLayout [("NUMBER".toList, "[0-9]+".toList), ("PLUS".toList, "\\+".toList)]) :=
  (ofYaml_layouts (by decide) (by decide) (printable_of_all (by decide +kernel))).2.2.1 (by decide)

def twiceNamed : List (Text × Text) := [("A".toList, "a".toList), ("A".toList, "b".toList)]

/-- A name that is written twice is refused in the list and goes unnoticed in the mapping. -/
theorem layouts_differ :
    ofYaml (listLayout twiceNamed) = .error (.grammar (.duplicate "A".toList)) ∧
    ∃ g, ofYaml (mappingLayout twiceNamed) = .ok g ∧
      g.types.map (fun t => (t.name, t.regex)) = [("A".toList, "b".toList)] := by
  have ok : ∀ pair ∈ twiceNamed, Writable pair := fun pair mem =>
    writable_of_printable ((by decide : ∀ pair ∈ twiceNamed, pair.1.length ≤ 100) pair mem)
      (printable_of_all (by decide +kernel) pair mem)
  have makes : ∀ pair ∈ twiceNamed, (TokenType.make pair.1 pair.2).toOption.isSome = true := by
    decide +kernel
  have made : ∀ pair ∈ twiceNamed, ∃ t, TokenType.make pair.1 pair.2 = .ok t := by
    intro pair mem
    have some_type := makes pair mem
    cases made : TokenType.make pair.1 pair.2 with
    | error e =>
        rw [made] at some_type
        cases some_type
    | ok t => exact ⟨t, rfl⟩
  obtain ⟨a, madeA⟩ := made ("A".toList, "a".toList) (by decide)
  obtain ⟨b, madeB⟩ := made ("A".toList, "b".toList) (by decide)
  have last : lastValues twiceNamed = [("A".toList, "b".toList)] := by decide
  constructor
  · rw [ofYaml_listLayout (by decide) ok, twiceNamed, addPairs, add_made madeA]
    simp only [addPairs, add_made madeB]
    simp [names, empty, (make_ok madeA).1, Except.mapError]
  · refine ⟨⟨[b], false⟩, ?_, ?_⟩
    · rw [ofYaml_mappingLayout (by decide) ok, last, addPairs, add_made madeB]
      simp [addPairs, names, empty, Except.mapError]
    · simp [make_ok madeB]

end MaximalMunch.Grammar
