import MaximalMunch.Proofs.Keeps
import MaximalMunch.Yaml.Graph

/-!
Where the nodes of a document come from. The text of a scalar is that of a symbol or empty; its tag
is that of a text or follows from the form of a plain scalar, unless tags are written. While a
document is read, this holds of all nodes read so far.
-/

namespace MaximalMunch.Yaml

/-- A tag is written somewhere among these symbols. -/
def HasTag (symbols : List Symbol) : Prop := ∃ handle suffix, .tag handle suffix ∈ symbols

/-- The tags and texts of the scalars that can be read from these symbols. -/
inductive Written (symbols : List Symbol) : Tag → Text → Prop where
  | text {text : Text} {plain : Bool} : .scalar text plain ∈ symbols → Written symbols .text text
  | form {text : Text} : .scalar text true ∈ symbols → Written symbols (Tag.ofForm text) text
  | empty : Written symbols .null []
  | tagged {tag : Tag} {text : Text} : HasTag symbols →
      (text = [] ∨ ∃ plain, .scalar text plain ∈ symbols) → Written symbols tag text

@[simp] theorem Tag.placed_placed (tag : Tag) (n m : Nat) :
    (tag.placed n).placed m = tag.placed m := by
  cases tag <;> rfl

/-- The form of a scalar does not tell its place. -/
theorem Tag.placed_ofForm (text : Text) : (Tag.ofForm text).placed 0 = Tag.ofForm text := by
  simp only [ofForm, apply_ite (placed 0)]
  rfl

theorem Written.placed {symbols : List Symbol} {tag : Tag} {text : Text}
    (h : Written symbols tag text) : Written symbols (tag.placed 0) text := by
  cases h with
  | text mem => exact .text mem
  | form mem =>
      rw [Tag.placed_ofForm]
      exact .form mem
  | empty => exact .empty
  | tagged has source => exact .tagged has source

theorem scalarValue_placed (tag : Tag) (place : Nat) (text : Text) :
    scalarValue (tag.placed place) text = scalarValue tag text := by
  cases tag <;> rfl

/-- The faults that can be met in reading these symbols as data. -/
inductive Stream.FaultOf (s : Stream) : Fault → Prop where
  | malformed : FaultOf s .malformed
  /-- The symbols break off with the fault. -/
  | symbols {f : Fault} : s.fault = some f → FaultOf s f
  /-- There is no value of that text for that tag. -/
  | value {f : Fault} {tag : Tag} {text : Text} : Written s.symbols tag text →
      scalarValue tag text = .error f → FaultOf s f
  /-- A collection is tagged as a timestamp. -/
  | collection : HasTag s.symbols → FaultOf s .timestampNotText

variable {s : Stream}

/-- Where a node stands does not tell what it comes from. -/
def Node.From (symbols : List Symbol) : Node → Prop
  | .scalar tag text => Written symbols (tag.placed 0) text
  | .collection _ => True

def Content.From (symbols : List Symbol) : Content → Prop
  | .sequence items => ∀ n ∈ items, n.From symbols
  | .mapping entries => ∀ e ∈ entries, e.1.From symbols ∧ e.2.From symbols

/-- Without tags, a collection is a list or a map. -/
def IsCollectionTagOf (symbols : List Symbol) (tag : Tag) : Prop :=
  tag = .list ∨ tag = .map ∨ HasTag symbols

structure Collection.From (symbols : List Symbol) (c : Collection) : Prop where
  tag : IsCollectionTagOf symbols c.tag
  content : c.content.From symbols

structure Composing.From (s : Stream) (c : Composing) : Prop where
  symbols : ∀ symbol ∈ c.symbols, symbol ∈ s.symbols
  fault : c.fault = s.fault
  anchors : ∀ a ∈ c.anchors, a.2.From s.symbols
  collections : ∀ e ∈ c.collections, e.2.From s.symbols

namespace Compose

/-- A part of the reading takes nodes from the symbols and nowhere else. -/
abbrev Composes (s : Stream) {α : Type} (Q : α → Prop) : Compose α → Prop :=
  Keeps (Composing.From s) s.FaultOf Q

theorem malformed {α : Type} {Q : α → Prop} : Composes s Q (throw .malformed) :=
  Keeps.throw .malformed

theorem empty_from : empty.From s.symbols := Written.empty

theorem peek_composes : Composes s (· ∈ s.symbols) peek := by
  refine Keeps.bind Keeps.get fun c inv => ?_
  split
  case h_1 symbol rest ahead =>
    refine Keeps.pure (inv.symbols _ ?_)
    rw [ahead]
    exact List.mem_cons_self
  case h_2 =>
    refine Keeps.bind Keeps.get fun c inv => Keeps.throw ?_
    rw [inv.fault]
    cases broken : s.fault with
    | none => exact .malformed
    | some f => exact .symbols broken

theorem skip_composes : Composes s (fun _ => True) skip :=
  Keeps.modify fun _ inv => ⟨fun x hx => inv.symbols x (List.mem_of_mem_drop hx), inv.fault,
    inv.anchors, inv.collections⟩

/-- Takes the next symbol before the rest of the reading. -/
theorem skipped {α : Type} {Q : α → Prop} {m : Compose α} (h : Composes s Q m) :
    Composes s Q (do skip; m) :=
  skip_composes.bind fun _ _ => h

theorem tagName_composes (handle : Option Text) (suffix : Text) :
    Composes s (fun _ => True) (tagName handle suffix) := by
  cases handle with
  | none => exact Keeps.pure trivial
  | some handle =>
      refine Keeps.bind Keeps.get fun c _ => ?_
      split
      · exact Keeps.pure trivial
      · exact malformed

theorem anchor?_composes : Composes s (fun _ => True) anchor? := by
  refine peek_composes.bind fun symbol _ => ?_
  split
  · exact skipped (Keeps.pure trivial)
  · exact Keeps.pure trivial

theorem tag?_composes :
    Composes s (fun tag => tag.isSome = true → HasTag s.symbols) tag? := by
  refine peek_composes.bind fun symbol mem => ?_
  split
  case h_1 handle suffix => exact skipped (Keeps.pure fun _ => ⟨handle, suffix, mem⟩)
  case h_2 => exact Keeps.pure nofun

/-- A tag that is told by its name comes from a symbol still. -/
theorem named_composes (anchor : Option Text) {tag : Option (Option Text × Text)}
    (written : tag.isSome = true → HasTag s.symbols) :
    Composes s (fun r => r.2.isSome = true → HasTag s.symbols)
      (match tag with
      | some (handle, suffix) => do return (anchor, some (← tagName handle suffix))
      | none => return (anchor, none)) := by
  cases tag with
  | some t => exact (tagName_composes _ _).bind fun _ _ => Keeps.pure fun _ => written rfl
  | none => exact Keeps.pure fun absent => absurd absent Bool.false_ne_true

theorem properties_composes :
    Composes s (fun r => r.2.isSome = true → HasTag s.symbols) properties := by
  refine anchor?_composes.bind fun anchor _ => ?_
  split
  · exact tag?_composes.bind fun tag written => named_composes _ written
  · refine tag?_composes.bind fun tag written => ?_
    split
    · exact anchor?_composes.bind fun anchor _ => named_composes _ written
    · exact named_composes none written

theorem checkAnchor_composes (anchor : Option Text) :
    Composes s (fun _ => True) (checkAnchor anchor) := by
  cases anchor with
  | none => exact Keeps.pure trivial
  | some name =>
      refine Keeps.bind Keeps.get fun c _ => ?_
      exact Keeps.ite (fun _ => malformed) fun _ => Keeps.pure trivial

theorem setAnchor_composes (anchor : Option Text) (node : Node) (h : node.From s.symbols) :
    Composes s (fun _ => True) (setAnchor anchor node) := by
  cases anchor with
  | none => exact Keeps.pure trivial
  | some name =>
      refine Keeps.modify fun c inv => ⟨inv.symbols, inv.fault, ?_, inv.collections⟩
      exact List.forall_mem_cons.mpr ⟨h, inv.anchors⟩

theorem scalar_composes (anchor : Option Text) {tag : Tag} {text : Text}
    (h : Written s.symbols tag text) :
    Composes s (fun n => n.From s.symbols) (scalar anchor tag text) := by
  have ofNode : ∀ place, (Node.scalar (tag.placed place) text).From s.symbols := fun place => by
    rw [Node.From, Tag.placed_placed]
    exact h.placed
  refine (checkAnchor_composes anchor).bind fun _ _ => ?_
  refine Keeps.bind Keeps.get fun c _ => ?_
  exact (setAnchor_composes anchor _ (ofNode _)).bind fun _ _ => Keeps.pure (ofNode _)

theorem collection_composes (anchor : Option Text) {tag : Tag} {content : Compose Content}
    (ofTag : IsCollectionTagOf s.symbols tag)
    (h : Composes s (fun c => c.From s.symbols) content) :
    Composes s (fun n => n.From s.symbols) (collection anchor tag content) := by
  refine (checkAnchor_composes anchor).bind fun _ _ => ?_
  refine Keeps.bind Keeps.get fun c _ => ?_
  refine (setAnchor_composes anchor (.collection c.count) trivial).bind fun _ _ => ?_
  refine Keeps.bind (Keeps.modify fun d inv => ⟨inv.symbols, inv.fault, inv.anchors,
    inv.collections⟩) fun _ _ => ?_
  refine h.bind fun content taken => ?_
  refine Keeps.bind (Keeps.modify fun d inv => ⟨inv.symbols, inv.fault, inv.anchors, ?_⟩)
    fun _ _ => Keeps.pure trivial
  exact List.forall_mem_cons.mpr ⟨⟨ofTag, taken⟩, inv.collections⟩

theorem scalarTag_written {tag : Option Text} (written : tag.isSome = true → HasTag s.symbols)
    {text : Text} {plain : Bool} (mem : .scalar text plain ∈ s.symbols) :
    Written s.symbols (scalarTag tag plain text) text := by
  cases tag with
  | some name => exact .tagged (written rfl) (.inr ⟨plain, mem⟩)
  | none =>
      cases plain with
      | true => exact .form mem
      | false => exact .text mem

theorem scalarTag_empty {tag : Option Text} (written : tag.isSome = true → HasTag s.symbols) :
    Written s.symbols (scalarTag tag true []) [] := by
  cases tag with
  | some name => exact .tagged (written rfl) (.inl rfl)
  | none =>
      have isNull : scalarTag none true [] = .null := by decide
      rw [isNull]
      exact .empty

theorem collectionTag_of {tag : Option Text} (written : tag.isSome = true → HasTag s.symbols)
    {standard : Tag} (h : standard = .list ∨ standard = .map) :
    IsCollectionTagOf s.symbols (collectionTag tag standard) := by
  cases tag with
  | some name => exact .inr (.inr (written rfl))
  | none => exact h.imp_right .inl

/-- The readings of nodes and of their parts, which call each other, with this much fuel. -/
structure Composed (s : Stream) (fuel : Nat) : Prop where
  node : ∀ block bare, Composes s (fun n => n.From s.symbols) (node fuel block bare)
  blockItems : Composes s (fun items => ∀ n ∈ items, n.From s.symbols) (blockItems fuel)
  bareItems : Composes s (fun items => ∀ n ∈ items, n.From s.symbols) (bareItems fuel)
  blockEntries : Composes s (fun entries => Content.From s.symbols (.mapping entries))
    (blockEntries fuel)
  blockPart : Composes s (fun n => n.From s.symbols) (blockPart fuel)
  flowItems : ∀ first,
    Composes s (fun items => ∀ n ∈ items, n.From s.symbols) (flowItems fuel first)
  flowPair : Composes s (fun e => e.1.From s.symbols ∧ e.2.From s.symbols) (flowPair fuel)
  flowEntries : ∀ first,
    Composes s (fun entries => Content.From s.symbols (.mapping entries)) (flowEntries fuel first)

variable {fuel : Nat}

theorem pure_empty : Composes s (fun n => n.From s.symbols) (pure empty) := Keeps.pure empty_from

theorem single_from {e : Node × Node} (h : e.1.From s.symbols ∧ e.2.From s.symbols) :
    Content.From s.symbols (.mapping [e]) := by
  intro d hd
  rw [List.mem_singleton.mp hd]
  exact h

theorem nil_composes {α : Type} {P : α → Prop} :
    Composes s (fun items => ∀ a ∈ items, P a) (pure []) :=
  Keeps.pure fun _ h => absurd h List.not_mem_nil

theorem cons_composes {α : Type} {P : α → Prop} {a : α} (h : P a) {rest : Compose (List α)}
    (others : Composes s (fun items => ∀ a ∈ items, P a) rest) :
    Composes s (fun items => ∀ a ∈ items, P a) (do return a :: (← rest)) :=
  others.bind fun _ taken => Keeps.pure (List.forall_mem_cons.mpr ⟨h, taken⟩)

/-- What stands where no tag is asked for is empty or faulty. -/
theorem emptyOrFault_composes (anchor : Option Text) {tag : Option Text}
    (written : tag.isSome = true → HasTag s.symbols) :
    Composes s (fun n => n.From s.symbols)
      (if anchor.isNone && tag.isNone then throw .malformed
        else scalar anchor (scalarTag tag true []) []) :=
  Keeps.ite (fun _ => malformed) fun _ => scalar_composes _ (scalarTag_empty written)

theorem list_composes (anchor : Option Text) {tag : Option Text}
    (written : tag.isSome = true → HasTag s.symbols) {items : Compose (List Node)}
    (h : Composes s (fun items => ∀ n ∈ items, n.From s.symbols) items) :
    Composes s (fun n => n.From s.symbols)
      (collection anchor (collectionTag tag .list) (do return .sequence (← items))) :=
  collection_composes _ (collectionTag_of written (.inl rfl))
    (h.bind fun _ taken => Keeps.pure taken)

theorem map_composes (anchor : Option Text) {tag : Option Text}
    (written : tag.isSome = true → HasTag s.symbols) {entries : Compose (List (Node × Node))}
    (h : Composes s (fun entries => Content.From s.symbols (.mapping entries)) entries) :
    Composes s (fun n => n.From s.symbols)
      (collection anchor (collectionTag tag .map) (do return .mapping (← entries))) :=
  collection_composes _ (collectionTag_of written (.inr rfl))
    (h.bind fun _ taken => Keeps.pure taken)

/-- An alias stands for the node of its anchor, which is read already. -/
theorem alias_composes (symbol : Symbol) {rest : PUnit → Compose Node} :
    Composes s (fun n => n.From s.symbols) (rest ⟨⟩) →
    Composes s (fun n => n.From s.symbols)
      (match symbol with
      | .alias name => do
        skip
        match (← get).anchors.find? fun a => a.1 == name with
        | some a => return a.2
        | none => do
          let u ← throw .malformed
          rest u
      | _ => rest ⟨⟩) := by
  intro h
  split
  · refine skipped (Keeps.bind Keeps.get fun c inv => ?_)
    split
    case h_1 a found => exact Keeps.pure (inv.anchors a (List.mem_of_find?_eq_some found))
    case h_2 => exact Keeps.throw_bind .malformed
  · exact h

/-- A comma is due before all parts of a flow collection but the first. -/
theorem comma_composes {α : Type} {Q : α → Prop} (first : Bool) {rest : PUnit → Compose α}
    (h : Composes s Q (rest ⟨⟩)) :
    Composes s Q
      (if !first then do
        if (← peek) = .comma then do
          let u ← skip
          rest u
        else do
          let u ← throw .malformed
          rest u
      else rest ⟨⟩) := by
  refine Keeps.ite (fun _ => peek_composes.bind fun symbol _ => ?_) fun _ => h
  exact Keeps.ite (fun _ => skip_composes.bind fun _ _ => h) fun _ => Keeps.throw_bind .malformed

namespace Composed

variable (ih : Composed s fuel)
include ih

theorem node_succ (block bare : Bool) :
    Composes s (fun n => n.From s.symbols) (Compose.node (fuel + 1) block bare) := by
  rw [Compose.node]
  refine peek_composes.bind fun symbol _ => alias_composes symbol ?_
  refine properties_composes.bind fun r written => ?_
  refine peek_composes.bind fun symbol mem => ?_
  have other := emptyOrFault_composes r.1 written
  split
  · exact Keeps.ite (fun _ => list_composes _ written ih.bareItems) fun _ => other
  · exact skipped (scalar_composes _ (scalarTag_written written mem))
  · exact list_composes _ written (skipped (ih.flowItems true))
  · exact map_composes _ written (skipped (ih.flowEntries true))
  · exact Keeps.ite (fun _ => list_composes _ written (skipped ih.blockItems)) fun _ => other
  · exact Keeps.ite (fun _ => map_composes _ written (skipped ih.blockEntries)) fun _ => other
  · exact other

theorem blockItems_succ :
    Composes s (fun items => ∀ n ∈ items, n.From s.symbols) (Compose.blockItems (fuel + 1)) := by
  rw [Compose.blockItems]
  refine peek_composes.bind fun symbol _ => ?_
  split
  · refine skipped (peek_composes.bind fun next _ => ?_)
    split
    · exact pure_empty.bind fun item taken => cons_composes taken ih.blockItems
    · exact pure_empty.bind fun item taken => cons_composes taken ih.blockItems
    · exact (ih.node _ _).bind fun item taken => cons_composes taken ih.blockItems
  · exact skipped nil_composes
  · exact malformed

theorem bareItems_succ :
    Composes s (fun items => ∀ n ∈ items, n.From s.symbols) (Compose.bareItems (fuel + 1)) := by
  rw [Compose.bareItems]
  refine peek_composes.bind fun symbol _ => ?_
  have others : ∀ item : Node, item.From s.symbols →
      Composes s (fun items => ∀ n ∈ items, n.From s.symbols)
        (do return item :: (← Compose.bareItems fuel)) :=
    fun item taken => cons_composes taken ih.bareItems
  split
  · refine skipped (peek_composes.bind fun next _ => ?_)
    split
    iterate 4 exact pure_empty.bind others
    exact (ih.node _ _).bind others
  · exact nil_composes

theorem blockPart_succ :
    Composes s (fun n => n.From s.symbols) (Compose.blockPart (fuel + 1)) := by
  rw [Compose.blockPart]
  refine peek_composes.bind fun symbol _ => ?_
  split
  iterate 3 exact pure_empty
  exact ih.node _ _

theorem blockEntries_succ :
    Composes s (fun entries => Content.From s.symbols (.mapping entries))
      (Compose.blockEntries (fuel + 1)) := by
  rw [Compose.blockEntries]
  refine peek_composes.bind fun symbol _ => ?_
  split
  · exact skipped nil_composes
  · refine skipped (ih.blockPart.bind fun key taken => ?_)
    have others : ∀ value : Node, value.From s.symbols →
        Composes s (fun entries => Content.From s.symbols (.mapping entries))
          (do return (key, value) :: (← Compose.blockEntries fuel)) :=
      fun value found => cons_composes ⟨taken, found⟩ ih.blockEntries
    refine peek_composes.bind fun next _ => ?_
    split
    · exact skipped (ih.blockPart.bind others)
    · exact pure_empty.bind others
  · exact malformed

theorem flowItems_succ (first : Bool) :
    Composes s (fun items => ∀ n ∈ items, n.From s.symbols)
      (Compose.flowItems (fuel + 1) first) := by
  rw [Compose.flowItems]
  refine peek_composes.bind fun symbol _ => ?_
  refine Keeps.ite (fun _ => skipped nil_composes) fun _ => ?_
  refine comma_composes first (peek_composes.bind fun next _ => ?_)
  split
  · exact skipped nil_composes
  · have entry := collection_composes none (.inr (.inl rfl)) (skipped (ih.flowPair.bind
      fun e taken => Keeps.pure (single_from taken)))
    exact entry.bind fun item taken => cons_composes taken (ih.flowItems false)
  · exact (ih.node _ _).bind fun item taken => cons_composes taken (ih.flowItems false)

theorem flowPair_succ :
    Composes s (fun e => e.1.From s.symbols ∧ e.2.From s.symbols)
      (Compose.flowPair (fuel + 1)) := by
  rw [Compose.flowPair]
  refine peek_composes.bind fun symbol _ => ?_
  -- What comes behind a key is the same whether the key is written or left out.
  extract_lets withKey
  have ofKey : ∀ key : Node, key.From s.symbols →
      Composes s (fun e => e.1.From s.symbols ∧ e.2.From s.symbols) (withKey key) := by
    intro key taken
    refine peek_composes.bind fun next _ => ?_
    extract_lets withValue
    have ofValue : ∀ value : Node, value.From s.symbols →
        Composes s (fun e => e.1.From s.symbols ∧ e.2.From s.symbols) (withValue value) :=
      fun value found => Keeps.pure ⟨taken, found⟩
    split
    · refine skipped (peek_composes.bind fun next _ => ?_)
      split
      iterate 2 exact pure_empty.bind ofValue
      exact (ih.node _ _).bind ofValue
    · exact pure_empty.bind ofValue
  split
  iterate 3 exact pure_empty.bind ofKey
  exact (ih.node _ _).bind ofKey

theorem flowEntries_succ (first : Bool) :
    Composes s (fun entries => Content.From s.symbols (.mapping entries))
      (Compose.flowEntries (fuel + 1) first) := by
  rw [Compose.flowEntries]
  refine peek_composes.bind fun symbol _ => ?_
  refine Keeps.ite (fun _ => skipped nil_composes) fun _ => ?_
  refine comma_composes first (peek_composes.bind fun next _ => ?_)
  have more : ∀ key value : Node, key.From s.symbols → value.From s.symbols →
      Composes s (fun entries => Content.From s.symbols (.mapping entries))
        (do return (key, value) :: (← Compose.flowEntries fuel false)) :=
    fun key value taken found => cons_composes ⟨taken, found⟩ (ih.flowEntries false)
  split
  · exact skipped nil_composes
  · refine skipped (peek_composes.bind fun ahead _ => ?_)
    extract_lets withKey
    have ofKey : ∀ key : Node, key.From s.symbols →
        Composes s (fun entries => Content.From s.symbols (.mapping entries)) (withKey key) := by
      intro key taken
      have ofValue := fun value => more key value taken
      refine peek_composes.bind fun behind _ => ?_
      split
      · refine skipped (peek_composes.bind fun _ _ => ?_)
        split
        iterate 2 exact pure_empty.bind ofValue
        exact (ih.node _ _).bind ofValue
      · exact pure_empty.bind ofValue
    split
    iterate 3 exact pure_empty.bind ofKey
    exact (ih.node _ _).bind ofKey
  · exact (ih.node _ _).bind fun key taken => more key empty taken empty_from

end Composed

/-- Each reading takes its nodes from the symbols, by induction on the fuel. -/
theorem composed (s : Stream) (fuel : Nat) : Composed s fuel := by
  induction fuel with
  | zero =>
      exact ⟨fun _ _ => malformed, malformed, malformed, malformed, malformed, fun _ => malformed,
        malformed, fun _ => malformed⟩
  | succ fuel ih =>
      exact ⟨ih.node_succ, ih.blockItems_succ, ih.bareItems_succ, ih.blockEntries_succ,
        ih.blockPart_succ, ih.flowItems_succ, ih.flowPair_succ, ih.flowEntries_succ⟩

theorem handles_composes (f : Composing → List (Text × Text)) :
    Composes s (fun _ => True) (modify fun c => { c with handles := f c }) :=
  Keeps.modify fun _ inv => ⟨inv.symbols, inv.fault, inv.anchors, inv.collections⟩

theorem directives_composes (fuel : Nat) (versioned : Bool) :
    Composes s (fun _ => True) (directives fuel versioned) := by
  induction fuel generalizing versioned with
  | zero => exact malformed
  | succ fuel ih =>
      rw [directives]
      refine peek_composes.bind fun symbol _ => ?_
      split
      · refine skipped ?_
        split
        · exact Keeps.ite (fun _ => Keeps.throw_bind .malformed) fun _ => ih _
        · refine Keeps.bind Keeps.get fun c _ => ?_
          refine Keeps.ite (fun _ => Keeps.throw_bind .malformed) fun _ => ?_
          exact (handles_composes _).bind fun _ _ => ih _
        · exact ih _
      · exact handles_composes _

theorem documentEnds_composes (fuel : Nat) : Composes s (fun _ => True) (documentEnds fuel) := by
  induction fuel with
  | zero => exact Keeps.pure trivial
  | succ fuel ih =>
      rw [documentEnds]
      refine peek_composes.bind fun symbol _ => ?_
      exact Keeps.ite (fun _ => skipped ih) fun _ => Keeps.pure trivial

theorem markedDocument_composes (fuel : Nat) :
    Composes s (fun n => n.From s.symbols) (markedDocument fuel) := by
  refine peek_composes.bind fun symbol _ => ?_
  refine Keeps.ite (fun _ => Keeps.throw_bind .malformed) fun _ => ?_
  refine skipped (peek_composes.bind fun next _ => ?_)
  split
  iterate 4 exact pure_empty
  exact (composed s fuel).node _ _

theorem atEnd_composes (fuel : Nat) : Composes s (fun _ => True) (atEnd fuel) := by
  refine (documentEnds_composes fuel).bind fun _ _ => ?_
  refine peek_composes.bind fun symbol _ => ?_
  refine Keeps.ite (fun _ => Keeps.pure trivial) fun _ => ?_
  refine (handles_composes _).bind fun _ _ => ?_
  exact (directives_composes fuel false).bind fun _ _ => peek_composes.bind fun _ _ => malformed

theorem root_composes (fuel : Nat) :
    Composes s (fun root => ∀ n ∈ root, n.From s.symbols) (root fuel) := by
  have ended : ∀ n : Node, n.From s.symbols →
      Composes s (fun root => ∀ n ∈ root, n.From s.symbols) (do atEnd fuel; return some n) := by
    intro n taken
    refine (atEnd_composes fuel).bind fun _ _ => Keeps.pure ?_
    rintro m ⟨⟩
    exact taken
  refine peek_composes.bind fun symbol _ => ?_
  split
  · exact Keeps.pure nofun
  iterate 2
    refine (directives_composes fuel false).bind fun _ _ => ?_
    exact (markedDocument_composes fuel).bind ended
  · refine (handles_composes _).bind fun _ _ => ?_
    exact ((composed s fuel).node _ _).bind ended

end Compose

/-- All nodes of a document come from its symbols. -/
structure Document.From (symbols : List Symbol) (d : Document) : Prop where
  root : ∀ n ∈ d.root, n.From symbols
  collections : ∀ e ∈ d.collections, e.2.From symbols

theorem Document.ofStream_from (s : Stream) :
    Yields s.FaultOf (Document.From s.symbols) (Document.ofStream s) := by
  have start : Composing.From s ⟨s.symbols, s.fault, [], [], 0, []⟩ :=
    ⟨fun _ h => h, rfl, fun _ h => absurd h List.not_mem_nil, fun _ h => absurd h List.not_mem_nil⟩
  have run := Compose.root_composes (4 * s.symbols.length + 8) _ start
  rw [ofStream]
  split
  case h_1 failed => exact .error (run.of_error failed)
  case h_2 root c read =>
    obtain ⟨rooted, inv⟩ := run.of_ok read
    exact .ok ⟨rooted, inv.collections⟩

end MaximalMunch.Yaml
