import MaximalMunch.Yaml.Document

/-!
Composing block collections of scalars. A scalar without properties is a node of its own; a block
collection takes the next number, and its content is what its symbols up to the closing one give.
-/

namespace MaximalMunch.Yaml.Compose

variable {f : Option Fault} {hs : List (Text × Text)} {as : List (Text × Node)} {n : Nat}
  {cs : List (Nat × Collection)} {rest : List Symbol} {s s' : Composing}

/-- A key and a value that are scalars give an entry before the others. -/
theorem blockEntries_scalars (fuel : Nat) (k v : Text) (p q : Bool) :
    (blockEntries (fuel + 3)).run
        ⟨.key :: .scalar k p :: .value :: .scalar v q :: rest, f, hs, as, n, cs⟩ =
      ((blockEntries (fuel + 2)).run ⟨rest, f, hs, as, n, cs⟩).map fun r =>
        ((.scalar ((scalarTag none p k).placed (rest.length + 2)) k,
          .scalar ((scalarTag none q v).placed rest.length) v) :: r.1, r.2) := by
  rfl

theorem blockEntries_end (fuel : Nat) :
    (blockEntries (fuel + 1)).run ⟨.closeBlock :: rest, f, hs, as, n, cs⟩ =
      .ok ([], ⟨rest, f, hs, as, n, cs⟩) := by
  rfl

theorem blockItems_end (fuel : Nat) :
    (blockItems (fuel + 1)).run ⟨.closeBlock :: rest, f, hs, as, n, cs⟩ =
      .ok ([], ⟨rest, f, hs, as, n, cs⟩) := by
  rfl

/-- A collection is put before those that are complete when it is. -/
theorem collection_run {tag : Tag} {c : Content} (content : Compose Content)
    (inside : content.run { s with count := s.count + 1 } = .ok (c, s')) :
    (collection none tag content).run s =
      .ok (.collection s.count, { s' with collections := (s.count, ⟨tag, c⟩) :: s'.collections }) := by
  simp only [collection, checkAnchor, setAnchor, StateT.run_bind, StateT.run_get,
    StateT.run_modify, StateT.run_pure, pure_bind, inside]
  rfl

theorem node_blockMapping {fuel : Nat} {entries : List (Node × Node)} (bare : Bool)
    (inside : (blockEntries fuel).run ⟨rest, f, hs, as, n + 1, cs⟩ = .ok (entries, s)) :
    (node (fuel + 1) true bare).run ⟨.openBlockMapping :: rest, f, hs, as, n, cs⟩ =
      .ok (.collection n, { s with
        collections := (n, ⟨.map, .mapping entries⟩) :: s.collections }) := by
  have content : (do return Content.mapping (← blockEntries fuel) : Compose Content).run
      ⟨rest, f, hs, as, n + 1, cs⟩ = .ok (.mapping entries, s) := by
    simp only [StateT.run_bind, inside]
    rfl
  exact collection_run (s := ⟨.openBlockMapping :: rest, f, hs, as, n, cs⟩)
    (do skip; return .mapping (← blockEntries fuel)) content

theorem node_blockSequence {fuel : Nat} {items : List Node} (bare : Bool)
    (inside : (blockItems fuel).run ⟨rest, f, hs, as, n + 1, cs⟩ = .ok (items, s)) :
    (node (fuel + 1) true bare).run ⟨.openBlockSequence :: rest, f, hs, as, n, cs⟩ =
      .ok (.collection n, { s with
        collections := (n, ⟨.list, .sequence items⟩) :: s.collections }) := by
  have content : (do return Content.sequence (← blockItems fuel) : Compose Content).run
      ⟨rest, f, hs, as, n + 1, cs⟩ = .ok (.sequence items, s) := by
    simp only [StateT.run_bind, inside]
    rfl
  exact collection_run (s := ⟨.openBlockSequence :: rest, f, hs, as, n, cs⟩)
    (do skip; return .sequence (← blockItems fuel)) content

theorem blockItems_mapping {fuel : Nat} {item : Node} {items : List Node}
    (first : (node fuel true false).run ⟨.openBlockMapping :: rest, f, hs, as, n, cs⟩ = .ok (item, s))
    (more : (blockItems fuel).run s = .ok (items, s')) :
    (blockItems (fuel + 1)).run ⟨.dash :: .openBlockMapping :: rest, f, hs, as, n, cs⟩ =
      .ok (item :: items, s') := by
  have begun : (blockItems (fuel + 1)).run ⟨.dash :: .openBlockMapping :: rest, f, hs, as, n, cs⟩ =
      (do return (← node fuel true false) :: (← blockItems fuel) : Compose (List Node)).run
        ⟨.openBlockMapping :: rest, f, hs, as, n, cs⟩ := rfl
  rw [begun, StateT.run_bind, first]
  change StateT.run (do return item :: (← blockItems fuel)) s = _
  rw [StateT.run_bind, more]
  rfl

/-- The value of a scalar key may be a block collection. -/
theorem blockEntries_block {fuel : Nat} {k : Text} {p : Bool} {opening : Symbol} {value : Node}
    {entries : List (Node × Node)}
    (block : opening = .openBlockSequence ∨ opening = .openBlockMapping)
    (first : (node (fuel + 1) true true).run ⟨opening :: rest, f, hs, as, n, cs⟩ = .ok (value, s))
    (more : (blockEntries (fuel + 2)).run s = .ok (entries, s')) :
    (blockEntries (fuel + 3)).run
        ⟨.key :: .scalar k p :: .value :: opening :: rest, f, hs, as, n, cs⟩ =
      .ok ((.scalar ((scalarTag none p k).placed (rest.length + 2)) k, value) :: entries, s') := by
  have begun : (blockEntries (fuel + 3)).run
      ⟨.key :: .scalar k p :: .value :: opening :: rest, f, hs, as, n, cs⟩ =
        (do
          let value ← node (fuel + 1) true true
          return (.scalar ((scalarTag none p k).placed (rest.length + 2)) k, value) ::
            (← blockEntries (fuel + 2)) :
            Compose (List (Node × Node))).run ⟨opening :: rest, f, hs, as, n, cs⟩ := by
    rcases block with rfl | rfl <;> rfl
  rw [begun, StateT.run_bind, first]
  change StateT.run
    (do return (.scalar ((scalarTag none p k).placed (rest.length + 2)) k, value) ::
      (← blockEntries (fuel + 2))) s = _
  rw [StateT.run_bind, more]
  rfl

/-- A document that is one block mapping. -/
theorem ofStream_eq {root : Node}
    (inside : (node (4 * (rest.length + 1) + 8) true false).run
      ⟨.openBlockMapping :: rest, none, defaultHandles, [], 0, []⟩ =
        .ok (root, ⟨[.textEnd], none, hs, as, n, cs⟩)) :
    Document.ofStream ⟨.openBlockMapping :: rest, none⟩ = .ok ⟨some root, cs⟩ := by
  have begun : ∀ fuel, (Compose.root fuel).run ⟨.openBlockMapping :: rest, none, [], [], 0, []⟩ =
      (do
        let node ← node fuel true false
        atEnd fuel
        return some node : Compose (Option Node)).run
        ⟨.openBlockMapping :: rest, none, defaultHandles, [], 0, []⟩ := fun _ => rfl
  rw [Document.ofStream, List.length_cons]
  simp only [begun, StateT.run_bind, inside]
  rfl

end MaximalMunch.Yaml.Compose
