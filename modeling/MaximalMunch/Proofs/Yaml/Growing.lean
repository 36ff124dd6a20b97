import Mathlib.Data.List.Nodup
import MaximalMunch.Yaml.Graph

/-!
Growing a document of texts, lists and mappings into data. Where each number belongs to one
collection and the keys are texts, nothing is merged, every collection waits once and gets the
contents it was read with.
-/

namespace MaximalMunch.Yaml

theorem ok_bind {α β : Type} (a : α) (f : α → Except Fault β) : (Except.ok a >>= f) = f a := rfl

/-- In a list of numbered things, a number leads to the only thing that has it. -/
theorem find?_numbered {α : Type} {l : List (Nat × α)} (once : (l.map (·.1)).Nodup) {n : Nat} {x : α}
    (h : (n, x) ∈ l) : l.find? (fun e => e.1 == n) = some (n, x) := by
  induction l with
  | nil => exact absurd h List.not_mem_nil
  | cons e l ih =>
      rw [List.map_cons, List.nodup_cons] at once
      rcases List.mem_cons.mp h with rfl | later
      · simp
      · have other : e.1 ≠ n := by
          rintro rfl
          exact once.1 (List.mem_map.mpr ⟨_, later, rfl⟩)
        rw [List.find?_cons_of_neg (by simpa using other), ih once.2 later]

section Collections

variable {t : Collections} {n : Nat}

theorem get?_numbered (once : (t.map (·.1)).Nodup) {c : Collection} (h : (n, c) ∈ t) :
    t.get? n = some c := by
  rw [Collections.get?, find?_numbered once h]
  rfl

theorem entries?_numbered (once : (t.map (·.1)).Nodup) {tag : Tag} {entries : List (Node × Node)}
    (h : (n, ⟨tag, .mapping entries⟩) ∈ t) : t.entries? n = some entries := by
  rw [Collections.entries?, get?_numbered once h]

def TextKeys (entries : List (Node × Node)) : Prop := ∀ e ∈ entries, ∃ k, e.1 = .scalar .text k

theorem TextKeys.takeMerge {entries : List (Node × Node)} (texts : TextKeys entries) :
    takeMerge entries = none := by
  induction entries with
  | nil => rfl
  | cons e entries ih =>
      obtain ⟨k, key⟩ := texts e List.mem_cons_self
      have noMerge : e.1.isMerge = false := by rw [key]; rfl
      rw [Yaml.takeMerge, noMerge, ih fun e he => texts e (List.mem_cons_of_mem _ he)]
      rfl

theorem TextKeys.isValue {entries : List (Node × Node)} (texts : TextKeys entries) :
    (entries.map (·.1)).filter Node.isValue = [] := by
  rw [List.filter_eq_nil_iff]
  intro node member
  obtain ⟨e, he, rfl⟩ := List.mem_map.mp member
  obtain ⟨k, key⟩ := texts e he
  rw [key]
  exact Bool.false_ne_true

/-- A mapping with text keys has nothing to merge. -/
theorem flatten_texts (once : (t.map (·.1)).Nodup) {tag : Tag} {entries : List (Node × Node)}
    (h : (n, ⟨tag, .mapping entries⟩) ∈ t) (texts : TextKeys entries) :
    t.flatten n = .ok t := by
  have flat : Yaml.flatten (mergeKeyCount t + 1) t n = .ok t := by
    rw [Yaml.flatten, entries?_numbered once h, Option.getD_some]
    simp only [texts.takeMerge]
  have plain : t.plainKeys n = t := by
    rw [Collections.plainKeys, entries?_numbered once h, Option.getD_some, texts.isValue]
  rw [Collections.flatten, flat]
  exact congrArg Except.ok plain

end Collections

namespace Grow

variable {t : Collections} {waiting : List (Option Nat)} {known : List Nat}
  {shapes : List (Nat × Shape)} {s s' : Growing} {n : Nat}

theorem key_text (k : Text) : (key (.scalar .text k)).run s = .ok (.text k, s) := rfl

theorem part_collection (waiting : List (Option Nat)) {known : List Nat}
    (shapes : List (Nat × Shape)) (once : (t.map (·.1)).Nodup) {c : Collection} (h : (n, c) ∈ t)
    (collects : isCollectionTag c.tag = true) (fresh : n ∉ known) :
    (part (.collection n)).run ⟨t, waiting, known, shapes⟩ =
      .ok (.ref n, ⟨t, waiting ++ [some n], n :: known, shapes⟩) := by
  have found := get?_numbered once h
  have begun : (part (.collection n)).run ⟨t, waiting, known, shapes⟩ =
      (collectionPart n).run ⟨t, waiting, known, shapes⟩ := rfl
  have awaited : (await n).run ⟨t, waiting, known, shapes⟩ =
      .ok ((), ⟨t, waiting ++ [some n], n :: known, shapes⟩) := by
    simp only [await, StateT.run_modify, List.contains_iff_mem, fresh, if_false]
    rfl
  simp only [begun, collectionPart, StateT.run_bind, StateT.run_get, pure_bind, found, collects,
    if_true, awaited]
  rfl

/-- Collections that were not met before wait in order. -/
theorem parts_collections (once : (t.map (·.1)).Nodup) {numbers : List Nat}
    (there : ∀ n ∈ numbers, ∃ c, (n, c) ∈ t ∧ isCollectionTag c.tag = true)
    (distinct : numbers.Nodup) (fresh : ∀ n ∈ numbers, n ∉ known) :
    ((numbers.map Node.collection).mapM part).run ⟨t, waiting, known, shapes⟩ =
      .ok (numbers.map .ref,
        ⟨t, waiting ++ numbers.map some, numbers.reverse ++ known, shapes⟩) := by
  -- On the numbers: what is known grows, but by none of those that are still to come.
  induction numbers generalizing waiting known with
  | nil =>
      simp only [List.map_nil, List.append_nil]
      rfl
  | cons n numbers ih =>
      obtain ⟨c, mem, collects⟩ := there n List.mem_cons_self
      rw [List.nodup_cons] at distinct
      have first := part_collection waiting shapes once mem collects
        (fresh n List.mem_cons_self)
      have still : ∀ m ∈ numbers, m ∉ n :: known := by
        intro m hm
        rw [List.mem_cons, not_or]
        exact ⟨fun same => distinct.1 (same ▸ hm), fresh m (List.mem_cons_of_mem _ hm)⟩
      have more := @ih (waiting ++ [some n]) _ (fun m hm => there m (List.mem_cons_of_mem _ hm))
        distinct.2 still
      rw [List.map_cons, List.mapM_cons, StateT.run_bind, first, ok_bind, StateT.run_bind, more,
        ok_bind]
      simp only [List.map_cons, List.reverse_cons, List.append_assoc]
      rfl

/-- Entries of texts are texts in place. -/
theorem entries_texts (pairs : List (Text × Text)) :
    ((pairs.map fun e => (Node.scalar .text e.1, Node.scalar .text e.2)).mapM fun e => do
      return (← key e.1, ← part e.2) : Grow (List (Data × Part))).run s =
        .ok (pairs.map fun e => (.text e.1, .value (.text e.2)), s) := by
  induction pairs with
  | nil => rfl
  | cons e pairs ih =>
      have first : (do return (← key (.scalar .text e.1), ← part (.scalar .text e.2)) :
          Grow (Data × Part)).run s = .ok ((.text e.1, .value (.text e.2)), s) := rfl
      rw [List.map_cons, List.mapM_cons, StateT.run_bind, first, ok_bind, StateT.run_bind, ih]
      rfl

/-- The entries of a mapping with text keys grow one after the other. -/
theorem entriesOf_texts (once : (t.map (·.1)).Nodup) {tag : Tag} {entries : List (Node × Node)}
    (h : (n, ⟨tag, .mapping entries⟩) ∈ t) (texts : TextKeys entries) :
    (entriesOf n).run ⟨t, waiting, known, shapes⟩ =
      (entries.mapM fun e => do return (← key e.1, ← part e.2) : Grow (List (Data × Part))).run
        ⟨t, waiting, known, shapes⟩ := by
  have found := entries?_numbered once h
  have flat : (t.flatten n : Grow Collections).run ⟨t, waiting, known, shapes⟩ =
      .ok (t, ⟨t, waiting, known, shapes⟩) := by
    rw [flatten_texts once h texts]
    rfl
  simp only [entriesOf, StateT.run_bind, StateT.run_get, StateT.run_modify, pure_bind, ok_bind, found,
    flat, Option.getD_some]

theorem shape_list (once : (t.map (·.1)).Nodup) {items : List Node}
    (h : (n, ⟨.list, .sequence items⟩) ∈ t) {parts : List Part}
    (grown : (items.mapM part).run ⟨t, waiting, known, shapes⟩ = .ok (parts, s)) :
    (shape n).run ⟨t, waiting, known, shapes⟩ = .ok (.list parts, s) := by
  have found := get?_numbered once h
  have itemsRead : (itemsOf n).run ⟨t, waiting, known, shapes⟩ =
      .ok (items, ⟨t, waiting, known, shapes⟩) := by
    simp only [itemsOf, StateT.run_bind, StateT.run_get, pure_bind, found]
    rfl
  simp only [shape, StateT.run_bind, StateT.run_get, pure_bind, ok_bind, found, Option.map_some,
    itemsRead, grown]
  rfl

theorem shape_mapping (once : (t.map (·.1)).Nodup) {entries : List (Node × Node)}
    (h : (n, ⟨.map, .mapping entries⟩) ∈ t) (texts : TextKeys entries) {parts : List (Data × Part)}
    (grown : (entries.mapM fun e => do return (← key e.1, ← part e.2) :
      Grow (List (Data × Part))).run ⟨t, waiting, known, shapes⟩ = .ok (parts, s)) :
    (shape n).run ⟨t, waiting, known, shapes⟩ = .ok (.map parts, s) := by
  have found := get?_numbered once h
  simp only [shape, StateT.run_bind, StateT.run_get, pure_bind, found, Option.map_some,
    entriesOf_texts once h texts, grown]
  rfl

/-- One step of growing takes the collection that waits the longest. -/
theorem grow_step (fuel : Nat) {shaped : Shape}
    (first : (shape n).run ⟨t, waiting, known, shapes⟩ = .ok (shaped, s)) :
    (grow (fuel + 1)).run ⟨t, some n :: waiting, known, shapes⟩ =
      (grow fuel).run { s with shapes := (n, shaped) :: s.shapes } := by
  simp only [grow, StateT.run_bind, StateT.run_get, StateT.run_modify, pure_bind, first]
  rfl

theorem grow_end {fuel : Nat} :
    (grow (fuel + 1)).run ⟨t, [], known, shapes⟩ = .ok ((), ⟨t, [], known, shapes⟩) := rfl

end Grow

/-- A collection that holds no reference to itself unfolds into its body. -/
theorem unfold_ref {shapes : List (Nat × Shape)} (once : (shapes.map (·.1)).Nodup) {n : Nat}
    {shape : Shape} (h : (n, shape) ∈ shapes) {around : List Nat} (outside : n ∉ around)
    {fuel : Nat} {body : Data} (inner : shape.unfold shapes fuel (n :: around) = body)
    (straight : body.refersTo n = false) :
    (Part.ref n).unfold shapes (fuel + 1) around = body := by
  rw [Part.unfold, find?_numbered once h]
  simp [outside, inner, straight]

end MaximalMunch.Yaml
