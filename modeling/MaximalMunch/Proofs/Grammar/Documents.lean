import MaximalMunch.Proofs.Grammar.Layouts
import MaximalMunch.Proofs.Yaml.Nodes

/-!
The documents of the two layouts. Both are a mapping with one entry, for the token types; these are
a sequence of mappings, each numbered in its turn, or one mapping.
-/

namespace MaximalMunch.Grammar

open Yaml Yaml.Compose

def textNode (t : Text) : Node := .scalar .text t

def itemCollection (pair : Text × Text) : Collection :=
  ⟨.map, .mapping [(textNode nameKey, textNode pair.1), (textNode regexKey, textNode pair.2)]⟩

/-- Something for each pair, with numbers from `n` on. -/
def numbered {α : Type} (f : Text × Text → α) : Nat → List (Text × Text) → List (Nat × α)
  | _, [] => []
  | n, pair :: pairs => (n, f pair) :: numbered f (n + 1) pairs

def itemNumbers (n : Nat) (pairs : List (Text × Text)) : List Nat := List.range' n pairs.length

theorem numbered_numbers {α : Type} (f : Text × Text → α) (n : Nat) (pairs : List (Text × Text)) :
    (numbered f n pairs).map (·.1) = itemNumbers n pairs := by
  induction pairs generalizing n with
  | nil => rfl
  | cons pair pairs ih =>
      rw [numbered, List.map_cons, ih]
      rfl

def rootCollection : Collection :=
  ⟨.map, .mapping [(textNode tokenTypesKey, .collection 1)]⟩

def listCollection (pairs : List (Text × Text)) : Collection :=
  ⟨.list, .sequence ((itemNumbers 2 pairs).map .collection)⟩

def mappingCollection (pairs : List (Text × Text)) : Collection :=
  ⟨.map, .mapping (pairs.map fun pair => (textNode pair.1, textNode pair.2))⟩

def listDocument (pairs : List (Text × Text)) : Document :=
  ⟨some (.collection 0),
    (0, rootCollection) :: (1, listCollection pairs) :: (numbered itemCollection 2 pairs).reverse⟩

def mappingDocument (pairs : List (Text × Text)) : Document :=
  ⟨some (.collection 0), [(0, rootCollection), (1, mappingCollection pairs)]⟩

variable {f : Option Fault} {hs : List (Text × Text)} {as : List (Text × Node)} {n : Nat}
  {cs : List (Nat × Collection)} {rest : List Symbol}

theorem scalarTag_keys : scalarTag none true tokenTypesKey = .text ∧
    scalarTag none true nameKey = .text ∧ scalarTag none true regexKey = .text := by
  decide +kernel

theorem node_item (pair : Text × Text) (extra : Nat) :
    (node (extra + 6) true false).run ⟨[.openBlockMapping, .key, .scalar nameKey true, .value,
        .scalar pair.1 false, .key, .scalar regexKey true, .value, .scalar pair.2 false,
        .closeBlock] ++ rest, f, hs, as, n, cs⟩ =
      .ok (.collection n, ⟨rest, f, hs, as, n + 1, (n, itemCollection pair) :: cs⟩) := by
  have entries : (blockEntries (extra + 5)).run ⟨[.key, .scalar nameKey true, .value,
      .scalar pair.1 false, .key, .scalar regexKey true, .value, .scalar pair.2 false,
      .closeBlock] ++ rest, f, hs, as, n + 1, cs⟩ =
        .ok ([(.scalar ((scalarTag none true nameKey).placed (rest.length + 7)) nameKey,
            textNode pair.1),
          (.scalar ((scalarTag none true regexKey).placed (rest.length + 3)) regexKey,
            textNode pair.2)],
          ⟨rest, f, hs, as, n + 1, cs⟩) := rfl
  rw [scalarTag_keys.2.1, scalarTag_keys.2.2] at entries
  exact node_blockMapping false entries

theorem blockItems_items (pairs : List (Text × Text)) (extra : Nat) :
    (blockItems (pairs.length + (extra + 6))).run
        ⟨pairs.flatMap (itemSymbols · ++ [.closeBlock]) ++ .closeBlock :: rest, f, hs, as, n, cs⟩ =
      .ok ((itemNumbers n pairs).map .collection,
        ⟨rest, f, hs, as, n + pairs.length, (numbered itemCollection n pairs).reverse ++ cs⟩) := by
  induction pairs generalizing n cs with
  | nil => exact blockItems_end _
  | cons pair pairs ih =>
      have size : (pair :: pairs).length + (extra + 6) = pairs.length + (extra + 6) + 1 := by
        rw [List.length_cons]
        omega
      have count : n + (pair :: pairs).length = n + 1 + pairs.length := by
        rw [List.length_cons]
        omega
      rw [size, count, numbered, List.reverse_cons, List.append_assoc]
      exact blockItems_mapping (node_item pair (pairs.length + extra)) ih

theorem blockEntries_entries (pairs : List (Text × Text)) (extra : Nat) :
    (blockEntries (pairs.length + (extra + 3))).run
        ⟨pairs.flatMap entrySymbols ++ .closeBlock :: rest, f, hs, as, n, cs⟩ =
      .ok (pairs.map fun pair => (textNode pair.1, textNode pair.2), ⟨rest, f, hs, as, n, cs⟩) := by
  induction pairs with
  | nil => exact blockEntries_end _
  | cons pair pairs ih =>
      have size : (pair :: pairs).length + (extra + 3) = (pairs.length + extra + 1) + 3 := by
        rw [List.length_cons]
        omega
      rw [size]
      refine (blockEntries_scalars _ _ _ _ _).trans ?_
      have same : pairs.length + extra + 1 + 2 = pairs.length + (extra + 3) := by omega
      rw [same]
      exact congrArg (Except.map _) ih

/-- A mapping from the key of the token types to a block collection. -/
theorem node_root {fuel : Nat} {opening : Symbol} {value : Node}
    (block : opening = .openBlockSequence ∨ opening = .openBlockMapping)
    (inside : (node (fuel + 1) true true).run ⟨opening :: rest, f, hs, as, 1, []⟩ =
      .ok (value, ⟨[.closeBlock, .textEnd], f, hs, as, n, cs⟩)) :
    (node (fuel + 4) true false).run ⟨headSymbols ++ opening :: rest, f, hs, as, 0, []⟩ =
      .ok (.collection 0, ⟨[.textEnd], f, hs, as, n,
        (0, ⟨.map, .mapping [(textNode tokenTypesKey, value)]⟩) :: cs⟩) := by
  have entries := blockEntries_block (k := tokenTypesKey) (p := true) block inside
    (blockEntries_end _)
  rw [scalarTag_keys.1] at entries
  exact node_blockMapping false entries

theorem length_le_flatMap {symbols : Text × Text → List Symbol}
    (some_symbol : ∀ pair, 1 ≤ (symbols pair).length) (pairs : List (Text × Text)) :
    pairs.length ≤ (pairs.flatMap symbols).length := by
  induction pairs with
  | nil => exact Nat.le_refl _
  | cons pair pairs ih =>
      have first := some_symbol pair
      rw [List.flatMap_cons, List.length_append, List.length_cons]
      omega

/-- The document of a mapping from the key of the token types to a block collection, where the
collection takes no more steps than there are symbols. -/
theorem document_eq {steps : Nat} {opening : Symbol} {body : List Symbol} {value : Node}
    (block : opening = .openBlockSequence ∨ opening = .openBlockMapping)
    (inside : ∀ extra, (node (steps + (extra + 6) + 1) true true).run
      ⟨opening :: (body ++ [.closeBlock, .closeBlock, .textEnd]), none, defaultHandles, [], 1, []⟩ =
        .ok (value, ⟨[.closeBlock, .textEnd], none, defaultHandles, [], n, cs⟩))
    (enough : steps ≤ body.length) :
    Document.ofStream
        ⟨headSymbols ++ opening :: (body ++ [.closeBlock, .closeBlock, .textEnd]), none⟩ =
      .ok ⟨some (.collection 0), (0, ⟨.map, .mapping [(textNode tokenTypesKey, value)]⟩) :: cs⟩ := by
  obtain ⟨extra, size⟩ : ∃ extra, 4 * ((headSymbols ++ opening ::
      (body ++ [.closeBlock, .closeBlock, .textEnd])).tail.length + 1) + 8 =
        steps + (extra + 6) + 4 := by
    refine ⟨4 * ((headSymbols ++ opening ::
      (body ++ [.closeBlock, .closeBlock, .textEnd])).tail.length + 1) - 2 - steps, ?_⟩
    simp only [headSymbols, List.cons_append, List.tail_cons, List.length_cons, List.length_append]
    omega
  have whole := node_root block (inside extra)
  rw [← size] at whole
  exact ofStream_eq whole

theorem document_listLayout {pairs : List (Text × Text)} (ok : ∀ pair ∈ pairs, Writable pair)
    (some_pair : pairs ≠ []) :
    Document.ofStream (Stream.ofText (listLayout pairs)) = .ok (listDocument pairs) := by
  rw [listLayout_symbols ok some_pair, List.append_assoc, List.cons_append]
  have listed := document_eq (n := 2 + pairs.length) (.inl rfl)
    (fun extra => node_blockSequence true (blockItems_items pairs extra))
    (length_le_flatMap (by simp) pairs)
  rw [List.append_nil] at listed
  exact listed

theorem document_mappingLayout {pairs : List (Text × Text)} (ok : ∀ pair ∈ pairs, Writable pair)
    (some_pair : pairs ≠ []) :
    Document.ofStream (Stream.ofText (mappingLayout pairs)) = .ok (mappingDocument pairs) := by
  rw [mappingLayout_symbols ok some_pair, List.append_assoc, List.cons_append]
  exact document_eq (n := 2) (.inr rfl)
    (fun extra => node_blockMapping true (blockEntries_entries pairs (extra + 3)))
    (length_le_flatMap (by simp [entrySymbols]) pairs)

end MaximalMunch.Grammar
