import MaximalMunch.Proofs.Yaml.Composed
import MaximalMunch.Proofs.Yaml.Lexical

/-!
The faults of data. Merging moves nodes between mappings and makes no scalars, so the scalars whose
values are asked for are those that were read; besides malformed data, only their values can be
faulty.
-/

namespace MaximalMunch.Yaml

variable {s : Stream} {symbols : List Symbol}

theorem Written.source {tag : Tag} {text : Text} (h : Written symbols tag text) :
    text = [] ∨ ∃ plain, .scalar text plain ∈ symbols := by
  cases h with
  | text mem => exact .inr ⟨_, mem⟩
  | form mem => exact .inr ⟨_, mem⟩
  | empty => exact .inl rfl
  | tagged _ source => exact source

def Collections.From (symbols : List Symbol) (t : Collections) : Prop :=
  ∀ e ∈ t, e.2.From symbols

namespace Collections

variable {t : Collections}

theorem From.get? (h : t.From symbols) {n : Nat} {c : Collection} (found : t.get? n = some c) :
    c.From symbols := by
  obtain ⟨e, there, rfl⟩ := Option.map_eq_some_iff.mp found
  exact h e (List.mem_of_find?_eq_some there)

theorem From.entries? (h : t.From symbols) {n : Nat} {entries : List (Node × Node)}
    (found : t.entries? n = some entries) : Content.From symbols (.mapping entries) := by
  rw [Collections.entries?] at found
  split at found
  case h_1 there =>
    cases found
    exact (h.get? there).content
  case h_2 => cases found

theorem From.entries (h : t.From symbols) (n : Nat) :
    Content.From symbols (.mapping ((t.entries? n).getD [])) := by
  cases found : t.entries? n with
  | none => exact fun _ he => absurd he List.not_mem_nil
  | some entries => exact h.entries? found

theorem From.setEntries (h : t.From symbols) (n : Nat) {entries : List (Node × Node)}
    (ofEntries : Content.From symbols (.mapping entries)) :
    (t.setEntries n entries).From symbols := by
  intro e he
  obtain ⟨c, mem, rfl⟩ := List.mem_map.mp he
  split
  · exact ⟨(h c mem).tag, ofEntries⟩
  · exact h c mem

end Collections

theorem takeMerge_from {entries rest : List (Node × Node)} {value : Node}
    (h : Content.From symbols (.mapping entries)) (taken : takeMerge entries = some (value, rest)) :
    value.From symbols ∧ Content.From symbols (.mapping rest) := by
  induction entries generalizing rest with
  | nil => cases taken
  | cons e entries ih =>
      obtain ⟨first, others⟩ := List.forall_mem_cons.mp h
      rw [takeMerge] at taken
      split at taken
      · cases taken
        exact ⟨first.2, others⟩
      · obtain ⟨r, inside, same⟩ := Option.map_eq_some_iff.mp taken
        cases same
        obtain ⟨ofValue, ofRest⟩ := ih others inside
        exact ⟨ofValue, List.forall_mem_cons.mpr ⟨first, ofRest⟩⟩

/-- A scalar that is not empty could be a text as well. -/
theorem Written.asText {tag : Tag} {text : Text} (h : Written symbols tag text)
    (notNull : tag ≠ .null) : Written symbols .text text := by
  cases h with
  | text mem => exact .text mem
  | form mem => exact .text mem
  | empty => exact absurd rfl notNull
  | tagged has source => exact .tagged has source

theorem Node.From.plain {nodes : List Node} (texts : ∀ m ∈ nodes, m.isValue = true) {node : Node}
    (h : node.From symbols) : (node.plain nodes).From symbols := by
  cases node with
  | collection n => trivial
  | scalar tag text =>
      rw [Node.plain]
      split
      case isFalse => exact h
      case isTrue mem =>
        have value := texts _ (List.contains_iff_mem.mp mem)
        cases tag with
        | value place => exact Written.asText h nofun
        | _ => cases value

theorem Content.From.plain {nodes : List Node} (texts : ∀ m ∈ nodes, m.isValue = true)
    {content : Content} (h : content.From symbols) : (content.plain nodes).From symbols := by
  cases content with
  | sequence items =>
      intro n hn
      obtain ⟨m, mem, rfl⟩ := List.mem_map.mp hn
      exact (h m mem).plain texts
  | mapping entries =>
      intro e he
      obtain ⟨d, mem, rfl⟩ := List.mem_map.mp he
      exact ⟨(h d mem).1.plain texts, (h d mem).2.plain texts⟩

theorem Collections.From.plainKeys {t : Collections} (h : t.From symbols) (n : Nat) :
    (t.plainKeys n).From symbols := by
  rw [Collections.plainKeys]
  split
  · exact h
  · intro e he
    obtain ⟨c, mem, rfl⟩ := List.mem_map.mp he
    refine ⟨(h c mem).tag, (h c mem).content.plain fun m hm => ?_⟩
    exact (List.mem_filter.mp hm).2

theorem append_from {first more : List (Node × Node)}
    (h : Content.From symbols (.mapping first)) (h' : Content.From symbols (.mapping more)) :
    Content.From symbols (.mapping (first ++ more)) :=
  List.forall_mem_append.mpr ⟨h, h'⟩

/-- Merging fails only where a node does not have the form of what is merged. -/
abbrev Merges {α : Type} (Q : α → Prop) : Except Fault α → Prop := Yields (· = .malformed) Q

section Merging

variable {flattens : Collections → Nat → Except Fault Collections} {t : Collections}
  (ih : ∀ (t : Collections) (n : Nat), t.From symbols →
    Merges (Collections.From symbols) (flattens t n))
include ih

theorem mergedMapping_from (h : t.From symbols) (node : Node) :
    Merges (fun r => Content.From symbols (.mapping r.1) ∧ r.2.From symbols)
      (mergedMapping flattens t node) := by
  cases node with
  | scalar tag text => exact .error rfl
  | collection n =>
      rw [mergedMapping]
      split
      · exact .error rfl
      · exact (ih t n h).map fun t ofT => ⟨ofT.entries n, ofT⟩

theorem mergedItems_from (h : t.From symbols) (items : List Node) :
    Merges (fun r => Content.From symbols (.mapping r.1) ∧ r.2.From symbols)
      (mergedItems flattens t items) := by
  induction items generalizing t with
  | nil => exact .ok ⟨fun _ he => absurd he List.not_mem_nil, h⟩
  | cons item items again =>
      have first := mergedMapping_from ih h item
      rw [mergedItems]
      split
      case h_1 failed => exact .error (first.of_error failed)
      case h_2 before t merged =>
        obtain ⟨ofBefore, ofT⟩ := first.of_ok merged
        exact (again ofT).map fun r more => ⟨append_from more.1 ofBefore, more.2⟩

theorem merged_from (h : t.From symbols) (value : Node) :
    Merges (fun r => Content.From symbols (.mapping r.1) ∧ r.2.From symbols)
      (merged flattens t value) := by
  cases value with
  | scalar tag text => exact .error rfl
  | collection n =>
      rw [merged]
      split
      · exact mergedItems_from ih h _
      · exact mergedMapping_from ih h _

end Merging

theorem flatten_from (fuel : Nat) {t : Collections} (h : t.From symbols) (n : Nat) :
    Merges (Collections.From symbols) (flatten fuel t n) := by
  -- On the fuel: what is merged into a mapping is flattened with less of it.
  induction fuel generalizing t n with
  | zero => exact .ok h
  | succ fuel ih =>
      have again : ∀ (t : Collections) (n : Nat), t.From symbols →
          Merges (Collections.From symbols) (flatten fuel t n) :=
        fun t n h => ih h n
      rw [flatten]
      split
      case h_1 => exact .ok h
      case h_2 value rest taken =>
        obtain ⟨-, ofRest⟩ := takeMerge_from (h.entries n) taken
        have inside := merged_from again (h.setEntries n ofRest) value
        split
        case h_1 failed => exact .error (inside.of_error failed)
        case h_2 before t merged =>
          obtain ⟨ofBefore, ofT⟩ := inside.of_ok merged
          exact (again t n ofT).map fun t more =>
            more.setEntries n (append_from ofBefore (more.entries n))

namespace Grow

/-- The collections that contents are taken from come from the symbols. -/
def GrowingFrom (s : Stream) (g : Growing) : Prop := g.collections.From s.symbols

abbrev Grows (s : Stream) {α : Type} : Grow α → Prop :=
  Keeps (GrowingFrom s) s.FaultOf fun _ => True

variable {α β : Type}

theorem malformed : Grows s (throw .malformed : Grow α) := Keeps.throw .malformed

theorem done (a : α) : Grows s (pure a) := Keeps.pure trivial

theorem await_grows (n : Nat) : Grows s (await n) := by
  refine Keeps.modify fun g inv => ?_
  split
  · exact inv
  · exact inv

theorem value_grows {tag : Tag} {text : Text} (h : Written s.symbols (tag.placed 0) text) :
    Grows s (do return .value (← scalarValue tag text) : Grow Part) := by
  refine Keeps.bind (Keeps.lift (Q := fun _ => True) ?_) fun d _ => done _
  cases value : scalarValue tag text with
  | error f => exact .error (.value h ((scalarValue_placed tag 0 text).trans value))
  | ok d => exact .ok trivial

theorem scalarText?_source {t : Collections} (h : t.From symbols) (fuel : Nat) {node : Node}
    (ofNode : node.From symbols) {text : Text} (found : scalarText? t fuel node = some text) :
    text = [] ∨ ∃ plain, .scalar text plain ∈ symbols := by
  induction fuel generalizing node with
  | zero => cases found
  | succ fuel ih =>
      cases node with
      | scalar tag text =>
          cases found
          exact Written.source ofNode
      | collection n =>
          rw [scalarText?] at found
          split at found
          case h_1 e there =>
            obtain ⟨entries, inside, first⟩ := Option.bind_eq_some_iff.mp there
            exact ih (h.entries? inside e (List.mem_of_find?_eq_some first)).2 found
          case h_2 => cases found

theorem collectionPart_grows (n : Nat) : Grows s (collectionPart n) := by
  refine Keeps.bind Keeps.get fun g inv => ?_
  extract_lets t
  split
  · exact malformed
  case h_2 c there =>
    refine Keeps.ite (fun _ => (await_grows n).bind fun _ _ => done _) fun standard => ?_
    split
    · exact malformed
    case h_2 text found =>
      have has : HasTag s.symbols := by
        rcases (inv.get? there).tag with same | same | has
        · exact absurd (by rw [same]; rfl) standard
        · exact absurd (by rw [same]; rfl) standard
        · exact has
      refine Keeps.ite (fun _ => Keeps.throw_bind (.collection has)) fun _ => ?_
      have ofNode : (Node.collection n).From s.symbols := trivial
      exact value_grows (.tagged has (scalarText?_source inv _ ofNode found))

theorem part_grows {node : Node} (h : node.From s.symbols) : Grows s (part node) := by
  cases node with
  | collection n => exact collectionPart_grows n
  | scalar tag text =>
      refine Keeps.ite (fun _ => ?_) fun _ => value_grows h
      exact Keeps.bind (Keeps.modify fun g inv => inv) fun _ _ => done _

/-- A part that has to be whole already. -/
theorem whole_grows {node : Node} (h : node.From s.symbols) :
    Grows s (do
      match ← part node with
      | .value d => return d
      | .ref _ => throw .malformed) := by
  refine (part_grows h).bind fun p _ => ?_
  split
  · exact done _
  · exact malformed

theorem key_grows {node : Node} (h : node.From s.symbols) : Grows s (key node) := by
  cases node with
  | collection n => exact whole_grows h
  | scalar tag text =>
      exact Keeps.ite (fun _ => Keeps.throw_bind .malformed) fun _ => whole_grows h

theorem entriesOf_grows (n : Nat) : Grows s (entriesOf n) := by
  refine Keeps.bind Keeps.get fun g _ => ?_
  split
  · exact malformed
  · refine Keeps.bind Keeps.get fun g inv => ?_
    have flattened : Yields s.FaultOf (Collections.From s.symbols) (g.collections.flatten n) := by
      refine ((flatten_from _ inv n).map fun t ofT => ofT.plainKeys n).weaken ?_ fun _ ofT => ofT
      rintro _ rfl
      exact .malformed
    refine Keeps.bind (Keeps.lift flattened) fun t ofT => ?_
    refine Keeps.bind (Keeps.modify fun _ _ => ofT) fun _ _ => ?_
    have entry : ∀ e ∈ (t.entries? n).getD [], Grows s (do
        let k ← key e.1
        return (k, ← part e.2)) := by
      intro e he
      have taken := ofT.entries n e he
      exact (key_grows taken.1).bind fun _ _ => (part_grows taken.2).bind fun _ _ => done _
    exact (Keeps.mapM entry).weaken fun _ _ => trivial

theorem onlyEntry_grows (node : Node) : Grows s (onlyEntry node) := by
  cases node with
  | scalar tag text => exact malformed
  | collection n =>
      refine Keeps.bind Keeps.get fun g inv => ?_
      split
      case h_1 e there =>
        have taken := inv.entries? there e List.mem_cons_self
        exact (part_grows taken.1).bind fun _ _ => (part_grows taken.2).bind fun _ _ => done _
      case h_2 => exact malformed

theorem itemsOf_grows (n : Nat) :
    Keeps (GrowingFrom s) s.FaultOf (fun items => ∀ m ∈ items, m.From s.symbols)
      (itemsOf n) := by
  refine Keeps.bind Keeps.get fun g inv => ?_
  split
  case h_1 there => exact Keeps.pure (inv.get? there).content
  case h_2 => exact Keeps.throw .malformed

theorem shape_grows (n : Nat) : Grows s (shape n) := by
  refine Keeps.bind Keeps.get fun g _ => ?_
  extract_lets tag
  clear_value tag
  split
  · refine (itemsOf_grows n).bind fun items taken => ?_
    exact (Keeps.mapM fun m hm => part_grows (taken m hm)).bind fun _ _ => done _
  iterate 2
    refine (itemsOf_grows n).bind fun items taken => ?_
    exact (Keeps.mapM fun m _ => onlyEntry_grows m).bind fun _ _ => done _
  · exact (entriesOf_grows n).bind fun _ _ => done _
  · exact (entriesOf_grows n).bind fun _ _ => done _

theorem grow_grows (fuel : Nat) : Grows s (grow fuel) := by
  induction fuel with
  | zero => exact done _
  | succ fuel ih =>
      refine Keeps.bind Keeps.get fun g _ => ?_
      split
      · exact done _
      · exact malformed
      · refine Keeps.bind (Keeps.modify fun _ inv => inv) fun _ _ => ?_
        refine (shape_grows _).bind fun _ _ => ?_
        exact Keeps.bind (Keeps.modify fun _ inv => inv) fun _ _ => ih

end Grow

theorem Document.data_fails {d : Document} (h : d.From s.symbols) :
    FailsWith s.FaultOf d.data := by
  rw [data]
  split
  · exact .ok trivial
  case h_2 root rooted =>
    have run : Grow.Grows s (do
        let p ← Grow.part root
        Grow.grow (d.collections.length + 2)
        return p) :=
      (Grow.part_grows (h.root root rooted)).bind fun p _ =>
        (Grow.grow_grows _).bind fun _ _ => Grow.done p
    have ends := run ⟨d.collections, [], [], []⟩ h.collections
    dsimp only
    split
    case h_1 failed => exact .error (ends.of_error failed)
    case h_2 => exact .ok trivial

/-- What a text that cannot be read as data is faulty with. -/
theorem read_fails (t : Text) : FailsWith (Stream.ofText t).FaultOf (read t) := by
  have composed := Document.ofStream_from (Stream.ofText t)
  rw [read]
  refine .ite (fun _ => ?_) fun _ => .error .malformed
  split
  case h_1 failed => exact .error (composed.of_error failed)
  case h_2 d there => exact Document.data_fails (composed.of_ok there)

end MaximalMunch.Yaml
