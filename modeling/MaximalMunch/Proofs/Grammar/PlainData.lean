import Mathlib.Data.List.Induction
import MaximalMunch.Cursor
import MaximalMunch.Proofs.Grammar.Edits

/-!
Grammars as plain data. A grammar is written as a definition in either layout, and what is read from
the definition is the grammar. The names of a grammar are apart, so none of them is lost where they
become the keys of a mapping.
-/

namespace MaximalMunch

namespace Data

variable {same : Data → Data → Bool} {key value : Data} {entries : List (Data × Data)}

theorem insertWith_of_new (new : ∀ e ∈ entries, same e.1 key = false) :
    insertWith same key value entries = entries ++ [(key, value)] := by
  induction entries with
  | nil => rfl
  | cons e rest ih =>
      rw [List.forall_mem_cons] at new
      simp [insertWith, new.1, ih new.2]

/-- Entries with keys of their own make a mapping with just these entries. -/
theorem ofEntriesWith_of_apart (apart : entries.Pairwise fun e f => same e.1 f.1 = false) :
    ofEntriesWith same entries = .map entries := by
  rw [ofEntriesWith]
  congr 1
  induction entries using List.reverseRecOn with
  | nil => rfl
  | append_singleton entries e ih =>
      obtain ⟨before, -, new⟩ := List.pairwise_append.mp apart
      rw [List.foldl_append, ih before]
      refine insertWith_of_new ?_
      intro f member
      exact new f member e List.mem_cons_self

end Data

namespace Grammar

variable {g : Grammar}

theorem pair_injective : Function.Injective TokenType.pair := by
  intro a b same
  obtain ⟨isName, isRegex⟩ := Prod.mk.inj same
  exact TokenType.ext_name_regex isName isRegex

/-- The two ways to write token types down. -/
inductive Listing where
  | list
  | mapping

/-- Names with their expressions, as a list of entries or as one mapping. -/
def Listing.types (pairs : List (Text × Text)) : Listing → Data
  | .list => .list (pairs.map fun pair => pairEntry (.text pair.1, .text pair.2))
  | .mapping => Data.ofEntries (pairs.map fun pair => (.text pair.1, .text pair.2))

def fields (g : Grammar) (layout : Listing) : List (Data × Data) :=
  [(.text trimmingKey, .flag g.trimming),
    (.text tokenTypesKey, layout.types (g.types.map (·.pair)))]

/-- The definition that a grammar is written as. -/
def written (g : Grammar) (layout : Listing) : Data := .map (g.fields layout)

def entries (g : Grammar) : List Data :=
  (g.types.map (·.pair)).map fun pair => pairEntry (.text pair.1, .text pair.2)

theorem mapping_types {pairs : List (Text × Text)} (apart : (pairs.map (·.1)).Nodup) :
    Listing.mapping.types pairs = .map (pairs.map fun pair => (.text pair.1, .text pair.2)) := by
  apply Data.ofEntriesWith_of_apart
  rw [List.pairwise_map]
  refine (List.pairwise_map.mp apart).imp ?_
  intro a b other
  simpa [Data.sameKey] using other

theorem lists_fields (distinct : g.names.Nodup) (some_type : g.types ≠ []) (layout : Listing) :
    Lists (g.fields layout) g.entries := by
  cases layout with
  | list => exact .list _ _ rfl rfl (by simpa [entries] using some_type)
  | mapping =>
      rw [names, ← map_pair_fst] at distinct
      have isMap : (Listing.mapping.types (g.types.map (·.pair))).view =
          .map ((g.types.map (·.pair)).map fun pair => (.text pair.1, .text pair.2)) :=
        congrArg Data.view (mapping_types distinct)
      have lists : Lists (g.fields .mapping) _ := .mapping _ _ rfl isMap (by simpa using some_type)
      rw [List.map_map] at lists
      exact lists

theorem sound_entries (distinct : g.names.Nodup) : Sound g.entries (g.types.map (·.pair)) := by
  refine sound_iff.mpr ⟨g.types, rfl, ?_, distinct⟩
  rw [entries, List.forall₂_map_left_iff, List.forall₂_same]
  intro pair _
  exact describes_pairEntry.mpr ⟨by simp [Data.view], rfl, rfl⟩

theorem wellFormed_written (distinct : g.names.Nodup) (some_type : g.types ≠ [])
    (layout : Listing) : WellFormed (g.written layout) g.trimming (g.types.map (·.pair)) := by
  have trims : Trims (g.fields layout) g.trimming := .given (.flag g.trimming) g.trimming rfl rfl
  exact ⟨_, _, rfl, trims, lists_fields distinct some_type layout, sound_entries distinct⟩

/-- A grammar is its trimming and the pairs of its types, so nothing else can be read. -/
theorem ofData_of_distinct (distinct : g.names.Nodup) (some_type : g.types ≠ [])
    (layout : Listing) : ofData (g.written layout) = .ok g := by
  obtain ⟨⟨types, _⟩, read, rfl, pairs⟩ :=
    ofData_of_wellFormed (wellFormed_written distinct some_type layout)
  obtain rfl := List.map_injective_iff.mpr pair_injective pairs
  exact read

/-- At any time since a grammar was built it can be written as plain data, in either layout, and is
read back as it is: with the same token types in the same order and the same trimming, so that every
text is cut into the same tokens. -/
theorem ofData_written (built : Built g) (edits : List Edit)
    (some_type : (g.after edits).types ≠ []) :
    let now := g.after edits
    ∀ layout, ∃ back, ofData (now.written layout) = .ok back ∧ back.types = now.types ∧
      back.trimming = now.trimming ∧
      ∀ text, tokenize (some back) text = tokenize (some now) text := by
  intro now layout
  have distinct : now.names.Nodup := after_distinct built.distinct edits
  exact ⟨now, ofData_of_distinct distinct some_type layout, rfl, rfl, fun _ => rfl⟩

/-- A name that is a numeral, and one with quotes in it, after refusals and a change of the
trimming. -/
theorem ofData_written_refused :
    let edits := [Edit.add ['1'] ['a'], .add [] ['b'], .setTrimming false, .add ['1'] ['c'],
      .add ['\x27', '"'] ['b']]
    let now := (empty true).after edits
    Built (empty true) ∧ now.types ≠ [] ∧
      ∀ layout, ∃ back, ofData (now.written layout) = .ok back ∧ back.trimming = false ∧
        back.types.map (·.pair) = [(['1'], ['a']), (['\x27', '"'], ['b'])] := by
  intro edits now
  have built : Built (empty true) := .ofTypes [] true _ rfl
  have pairs : now.types.map (·.pair) = [(['1'], ['a']), (['\x27', '"'], ['b'])] := by
    decide +kernel
  have some_type : now.types ≠ [] := by
    intro none_added
    rw [none_added] at pairs
    cases pairs
  refine ⟨built, some_type, ?_⟩
  intro layout
  obtain ⟨back, read, types, trimming, -⟩ := ofData_written built edits some_type layout
  refine ⟨back, read, ?_, ?_⟩
  · rw [trimming]
    exact after_trimming _ edits
  · rw [types]
    exact pairs

end Grammar
end MaximalMunch
