import MaximalMunch.Proofs.Grammar.Documents
import MaximalMunch.Proofs.Yaml.Growing

/-!
The data of the two layouts: a mapping from the key of the token types to a list of entries with two
texts each, or to a mapping of texts.
-/

namespace MaximalMunch.Grammar

open Yaml Yaml.Grow

/-- The entry of a list for a token type. -/
def entryData (pair : Text × Text) : Data :=
  .map [(.text nameKey, .text pair.1), (.text regexKey, .text pair.2)]

def definition (types : Data) : Data := .map [(.text tokenTypesKey, types)]

def textEntry (pair : Text × Text) : Data × Data := (.text pair.1, .text pair.2)

/-- Gives a name its expression, in the place that the name has already. -/
def putPair (pair : Text × Text) : List (Text × Text) → List (Text × Text)
  | [] => [pair]
  | first :: rest =>
    if first.1 = pair.1 then (first.1, pair.2) :: rest else first :: putPair pair rest

/-- Each name once, at its first place and with its last expression. -/
def lastValues (pairs : List (Text × Text)) : List (Text × Text) :=
  pairs.foldl (fun found pair => putPair pair found) []

/-- What a mapping keeps of the entries that are written in it. -/
def mappingData (pairs : List (Text × Text)) : Data := .map ((lastValues pairs).map textEntry)

theorem insertWith_text (pair : Text × Text) (pairs : List (Text × Text)) :
    Data.insertWith sameYamlKey (.text pair.1) (.text pair.2) (pairs.map textEntry) =
      (putPair pair pairs).map textEntry := by
  induction pairs with
  | nil => rfl
  | cons first rest ih =>
      by_cases same : first.1 = pair.1
      · simp [Data.insertWith, putPair, textEntry, sameYamlKey, Data.sameKey, same]
      · simp [Data.insertWith, putPair, textEntry, sameYamlKey, Data.sameKey, same] at ih ⊢
        exact ih

theorem ofEntriesWith_texts (pairs : List (Text × Text)) :
    Data.ofEntriesWith sameYamlKey (pairs.map textEntry) = mappingData pairs := by
  -- The statement itself cannot be proved by induction: entries are put into what others left.
  have entries : ∀ found, (pairs.map textEntry).foldl
      (fun m e => Data.insertWith sameYamlKey e.1 e.2 m) (found.map textEntry) =
        (pairs.foldl (fun found pair => putPair pair found) found).map textEntry := by
    induction pairs with
    | nil => exact fun _ => rfl
    | cons pair pairs ih =>
        intro found
        rw [List.map_cons, List.foldl_cons, List.foldl_cons, ← ih, ← insertWith_text]
        rfl
  exact congrArg Data.map (entries [])

theorem texts_straight (label : Nat) (pairs : List (Text × Text)) :
    Data.entriesReferTo label (pairs.map textEntry) = false := by
  induction pairs with
  | nil => rfl
  | cons pair pairs ih =>
      rw [List.map_cons, textEntry, Data.entriesReferTo, ih]
      rfl

theorem entries_straight (label : Nat) (pairs : List (Text × Text)) :
    Data.itemsReferTo label (pairs.map entryData) = false := by
  induction pairs with
  | nil => rfl
  | cons pair pairs ih =>
      rw [List.map_cons, Data.itemsReferTo, ih]
      rfl

def rootShape : Shape := .map [(.text tokenTypesKey, .ref 1)]

/-- A mapping with its texts in place. -/
def textShape (pairs : List (Text × Text)) : Shape :=
  .map (pairs.map fun pair => (.text pair.1, .value (.text pair.2)))

def itemShape (pair : Text × Text) : Shape := textShape [(nameKey, pair.1), (regexKey, pair.2)]

def listShape (pairs : List (Text × Text)) : Shape := .list ((itemNumbers 2 pairs).map .ref)

def listShapes (pairs : List (Text × Text)) : List (Nat × Shape) :=
  (numbered itemShape 2 pairs).reverse ++ [(1, listShape pairs), (0, rootShape)]

theorem unfold_textShape (pairs : List (Text × Text)) (shapes : List (Nat × Shape)) (fuel : Nat)
    (around : List Nat) : (textShape pairs).unfold shapes fuel around = mappingData pairs := by
  have texts : ∀ pair : Text × Text, (Data.text pair.1, (Part.value (.text pair.2)).unfold shapes
      fuel around) = textEntry pair := by
    intro pair
    rw [Part.unfold]
    rfl
  rw [textShape, Shape.unfold, List.map_map, ← ofEntriesWith_texts]
  exact congrArg _ (List.map_congr_left fun pair _ => texts pair)

theorem unfold_itemShape (pair : Text × Text) (shapes : List (Nat × Shape)) (fuel : Nat)
    (around : List Nat) : (itemShape pair).unfold shapes fuel around = entryData pair := by
  have other : nameKey ≠ regexKey := by decide
  rw [itemShape, unfold_textShape]
  simp [mappingData, lastValues, putPair, other, entryData, textEntry]

theorem textKeys_singleton (k : Text) (value : Node) : TextKeys [(textNode k, value)] := by
  intro e he
  obtain rfl := List.mem_singleton.mp he
  exact ⟨k, rfl⟩

/-- The mapping around the token types waits first, and they wait after it. -/
theorem shape_root {t : Collections} (once : (t.map (·.1)).Nodup) (root : (0, rootCollection) ∈ t)
    {c : Collection} (types : (1, c) ∈ t) (collects : isCollectionTag c.tag = true) :
    (shape 0).run ⟨t, [], [0], []⟩ = .ok (rootShape, ⟨t, [some 1], [1, 0], []⟩) := by
  refine shape_mapping once root (textKeys_singleton _ _) ?_
  have later : 1 ∉ [0] := by decide
  have value := part_collection [] [] once types collects later
  have first : (do return (← key (textNode tokenTypesKey), ← part (.collection 1)) :
      Grow (Data × Part)).run ⟨t, [], [0], []⟩ =
        .ok ((.text tokenTypesKey, .ref 1), ⟨t, [some 1], [1, 0], []⟩) := by
    rw [StateT.run_bind, textNode, key_text, ok_bind, StateT.run_bind, value]
    rfl
  rw [List.mapM_cons, StateT.run_bind, first]
  rfl

/-- Both documents begin with a mapping that leads to the collection of the token types. -/
theorem data_eq {t : Collections} {shapes : List (Nat × Shape)} {known : List Nat} {body : Data}
    (once : (t.map (·.1)).Nodup) (root : (0, rootCollection) ∈ t) {c : Collection}
    (types : (1, c) ∈ t) (collects : isCollectionTag c.tag = true)
    (grown : (grow (t.length + 1)).run ⟨t, [some 1], [1, 0], [(0, rootShape)]⟩ =
      .ok ((), ⟨t, [], known, shapes⟩))
    (numbered : (shapes.map (·.1)).Nodup) (head : (0, rootShape) ∈ shapes)
    (unfolded : (Part.ref 1).unfold shapes shapes.length [0] = body)
    (straight : body.refersTo 0 = false) :
    Document.data ⟨some (.collection 0), t⟩ = .ok (definition body) := by
  have first := part_collection [] [] once root rfl List.not_mem_nil
  have step := grow_step (t.length + 1) (shape_root once root types collects)
  have inner : rootShape.unfold shapes shapes.length [0] = definition body := by
    rw [rootShape, Shape.unfold, List.map_singleton, unfolded]
    rfl
  have whole := unfold_ref numbered head List.not_mem_nil inner (by
    simp [definition, Data.refersTo, Data.entriesReferTo, straight])
  simp only [Document.data, StateT.run_bind, first, ok_bind, List.nil_append, step, grown]
  exact congrArg Except.ok whole

/-- An item grows into two texts in place. -/
theorem shape_item {t : Collections} (once : (t.map (·.1)).Nodup) {n : Nat} {pair : Text × Text}
    (h : (n, itemCollection pair) ∈ t) {waiting : List (Option Nat)} {known : List Nat}
    {shapes : List (Nat × Shape)} :
    (shape n).run ⟨t, waiting, known, shapes⟩ =
      .ok (itemShape pair, ⟨t, waiting, known, shapes⟩) := by
  refine shape_mapping once h ?_ (entries_texts [(nameKey, pair.1), (regexKey, pair.2)])
  intro e he
  simp only [List.mem_cons, List.not_mem_nil, or_false] at he
  rcases he with rfl | rfl
  · exact ⟨nameKey, rfl⟩
  · exact ⟨regexKey, rfl⟩

/-- Each item gives its shape when its turn comes. -/
theorem grow_items {t : Collections} (once : (t.map (·.1)).Nodup) {pairs : List (Text × Text)}
    {n : Nat} (there : ∀ e ∈ numbered itemCollection n pairs, e ∈ t) (known : List Nat)
    (shapes : List (Nat × Shape)) (extra : Nat) :
    (grow (pairs.length + (extra + 1))).run ⟨t, (itemNumbers n pairs).map some, known, shapes⟩ =
      .ok ((), ⟨t, [], known, (numbered itemShape n pairs).reverse ++ shapes⟩) := by
  induction pairs generalizing n shapes with
  | nil => exact grow_end
  | cons pair pairs ih =>
      have size : (pair :: pairs).length + (extra + 1) = pairs.length + (extra + 1) + 1 := by
        rw [List.length_cons]
        omega
      have first : (n, itemCollection pair) ∈ t := there _ List.mem_cons_self
      have more := ih (n := n + 1) (fun e he => there e (List.mem_cons_of_mem _ he))
      rw [size, numbered, List.reverse_cons, List.append_assoc, List.singleton_append, ← more]
      exact grow_step _ (shape_item once first)

/-- Each item unfolds into its entry. -/
theorem unfold_items {shapes : List (Nat × Shape)} (once : (shapes.map (·.1)).Nodup)
    {pairs : List (Text × Text)} {n : Nat} (there : ∀ e ∈ numbered itemShape n pairs, e ∈ shapes)
    (around : List Nat) (outside : ∀ m ∈ itemNumbers n pairs, m ∉ around) (fuel : Nat) :
    ((itemNumbers n pairs).map Part.ref).map (fun p => p.unfold shapes (fuel + 1) around) =
      pairs.map entryData := by
  induction pairs generalizing n with
  | nil => rfl
  | cons pair pairs ih =>
      have split : itemNumbers n (pair :: pairs) = n :: itemNumbers (n + 1) pairs := rfl
      rw [split] at outside ⊢
      have first : (n, itemShape pair) ∈ shapes := there _ List.mem_cons_self
      have head := unfold_ref once first (outside n List.mem_cons_self)
        (unfold_itemShape pair shapes fuel (n :: around)) rfl
      have more := ih (n := n + 1) (fun e he => there e (List.mem_cons_of_mem _ he))
        fun m hm => outside m (List.mem_cons_of_mem _ hm)
      rw [List.map_cons, List.map_cons, List.map_cons, head, more]

theorem itemNumbers_large {n m : Nat} {pairs : List (Text × Text)} (h : m ∈ itemNumbers n pairs) :
    n ≤ m := (List.mem_range'_1.mp h).1

theorem fresh_number {m : Nat} {pairs : List (Text × Text)} (h : m ∈ itemNumbers 2 pairs) :
    m ∉ [1, 0] := by
  have large := itemNumbers_large h
  simp only [List.mem_cons, List.not_mem_nil, or_false]
  omega

theorem itemNumbers_nodup (n : Nat) (pairs : List (Text × Text)) : (itemNumbers n pairs).Nodup :=
  List.nodup_range'

theorem exists_of_mem_numbers {α : Type} {f : Text × Text → α} {n m : Nat}
    {pairs : List (Text × Text)} (h : m ∈ itemNumbers n pairs) :
    ∃ pair, (m, f pair) ∈ numbered f n pairs := by
  induction pairs generalizing n with
  | nil => exact absurd h List.not_mem_nil
  | cons pair pairs ih =>
      rcases List.mem_cons.mp h with rfl | later
      · exact ⟨pair, List.mem_cons_self⟩
      · obtain ⟨other, mem⟩ := ih later
        exact ⟨other, List.mem_cons_of_mem _ mem⟩

/-- The numbers of a document, or of its shapes, are all different. -/
theorem nodup_numbers {α : Type} {f : Text × Text → α} {pairs : List (Text × Text)} {x y : α}
    {l : List (Nat × α)} (order : l.Perm ((0, x) :: (1, y) :: numbered f 2 pairs)) :
    (l.map (·.1)).Nodup := by
  rw [(order.map (·.1)).nodup_iff, List.map_cons, List.map_cons, numbered_numbers]
  have zero : 0 ∉ itemNumbers 2 pairs := fun h => absurd (itemNumbers_large h) (by decide)
  have one : 1 ∉ itemNumbers 2 pairs := fun h => absurd (itemNumbers_large h) (by decide)
  simp [zero, one, itemNumbers_nodup]

theorem nodup_listShapes (pairs : List (Text × Text)) : ((listShapes pairs).map (·.1)).Nodup := by
  apply nodup_numbers (f := itemShape) (x := rootShape) (y := listShape pairs)
  have turned : listShapes pairs =
      ((0, rootShape) :: (1, listShape pairs) :: numbered itemShape 2 pairs).reverse := by
    simp [listShapes]
  rw [turned]
  exact List.reverse_perm _

theorem unfold_listShape (pairs : List (Text × Text)) (fuel : Nat) :
    (Part.ref 1).unfold (listShapes pairs) (fuel + 2) [0] = .list (pairs.map entryData) := by
  have once := nodup_listShapes pairs
  have there : ∀ e ∈ numbered itemShape 2 pairs, e ∈ listShapes pairs := by
    intro e he
    simp [listShapes, he]
  have items := unfold_items once there [1, 0] (fun m hm => fresh_number hm) fuel
  have inner : (listShape pairs).unfold (listShapes pairs) (fuel + 1) [1, 0] =
      .list (pairs.map entryData) := by
    rw [listShape, Shape.unfold, items]
  exact unfold_ref once (by simp [listShapes]) (by decide) inner (entries_straight 1 pairs)

theorem data_listDocument (pairs : List (Text × Text)) :
    (listDocument pairs).data = .ok (definition (.list (pairs.map entryData))) := by
  have once : ((listDocument pairs).collections.map (·.1)).Nodup :=
    nodup_numbers (((List.reverse_perm _).cons _).cons _)
  have there : ∀ e ∈ numbered itemCollection 2 pairs, e ∈ (listDocument pairs).collections := by
    intro e he
    simp [listDocument, he]
  have types : (1, listCollection pairs) ∈ (listDocument pairs).collections := by
    simp [listDocument]
  have waits : ∀ m ∈ itemNumbers 2 pairs, ∃ c, (m, c) ∈ (listDocument pairs).collections ∧
      isCollectionTag c.tag = true := by
    intro m hm
    obtain ⟨pair, mem⟩ := exists_of_mem_numbers (f := itemCollection) hm
    exact ⟨_, there _ mem, rfl⟩
  have count : ∀ {α : Type} (f : Text × Text → α), (numbered f 2 pairs).length = pairs.length := by
    intro α f
    have numbers := congrArg List.length (numbered_numbers f 2 pairs)
    simpa [itemNumbers] using numbers
  have size : (listDocument pairs).collections.length = pairs.length + 2 := by
    simp [listDocument, count]
  have parts : (((itemNumbers 2 pairs).map Node.collection).mapM part).run
      ⟨(listDocument pairs).collections, [], [1, 0], [(0, rootShape)]⟩ = .ok (_, _) :=
    parts_collections once waits (itemNumbers_nodup 2 pairs) fun m hm => fresh_number hm
  have grown := (grow_step (pairs.length + 2) (shape_list once types parts)).trans
    (grow_items once there _ _ 1)
  rw [← size] at grown
  have shapes : (listShapes pairs).length = pairs.length + 2 := by simp [listShapes, count]
  have body := unfold_listShape pairs pairs.length
  rw [← shapes] at body
  exact data_eq once List.mem_cons_self types rfl grown (nodup_listShapes pairs)
    (by simp) body (entries_straight 0 pairs)

theorem data_mappingDocument (pairs : List (Text × Text)) :
    (mappingDocument pairs).data = .ok (definition (mappingData pairs)) := by
  have once : ((mappingDocument pairs).collections.map (·.1)).Nodup := by simp [mappingDocument]
  have texts : TextKeys (pairs.map fun pair => (textNode pair.1, textNode pair.2)) := by
    intro e he
    obtain ⟨pair, -, rfl⟩ := List.mem_map.mp he
    exact ⟨pair.1, rfl⟩
  have types : (1, mappingCollection pairs) ∈ (mappingDocument pairs).collections := by
    simp [mappingDocument]
  have shaped : (shape 1).run ⟨(mappingDocument pairs).collections, [], [1, 0],
      [(0, rootShape)]⟩ = .ok (textShape pairs, _) :=
    shape_mapping once types texts (entries_texts pairs)
  have numbers : ([(1, textShape pairs), (0, rootShape)].map (·.1)).Nodup := by simp
  have straight : ∀ label, (mappingData pairs).refersTo label = false := fun label =>
    texts_straight label _
  have body := unfold_ref numbers List.mem_cons_self (by decide)
    (unfold_textShape pairs _ 1 [1, 0]) (straight 1)
  exact data_eq once List.mem_cons_self types rfl ((grow_step _ shaped).trans grow_end)
    numbers (by simp) body (straight 0)

end MaximalMunch.Grammar
