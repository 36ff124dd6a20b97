import MaximalMunch.Yaml.Merge
import MaximalMunch.Yaml.Scalar

/-!
From a document to data. First every collection is given its contents, with scalars in place and
collections by number, breadth first: what is wrong nearer to the root is found before what is wrong
deeper inside. Then the graph is unfolded from the root; a collection that contains itself becomes a
loop. A YAML 1.1 text is read through its symbols and its graph, and the first fault on that way counts.
-/

namespace MaximalMunch.Yaml

/-- A value in place, or the number of a collection. -/
inductive Part where
  | value (d : Data)
  | ref (number : Nat)

inductive Shape where
  | list (items : List Part)
  | pairs (items : List (Part × Part))
  | map (entries : List (Data × Part))
  | set (members : List Data)

/-- The graph so far, with the collections that are still to be given contents. An entry without a
number is a scalar that was announced as a collection. -/
structure Growing where
  collections : Collections
  waiting : List (Option Nat)
  known : List Nat
  shapes : List (Nat × Shape)

abbrev Grow := StateT Growing (Except Fault)

namespace Grow

def isCollectionTag : Tag → Bool
  | .list | .map | .set | .orderedMap | .pairs => true
  | _ => false

/-- The text that stands for a node where a scalar is asked for: of a mapping, the value of its
value key. -/
def scalarText? (t : Collections) : (fuel : Nat) → Node → Option Text
  | 0, _ => none
  | _ + 1, .scalar _ text => some text
  | fuel + 1, .collection number =>
    match (t.entries? number).bind fun entries => entries.find? fun e => e.1.isValue with
    | some e => scalarText? t fuel e.2
    | none => none

/-- Lets a collection wait for its contents, once. -/
def await (number : Nat) : Grow Unit :=
  modify fun s =>
    if s.known.contains number then s
    else { s with waiting := s.waiting ++ [some number], known := number :: s.known }

def collectionPart (number : Nat) : Grow Part := do
  let t := (← get).collections
  match t.get? number with
  | none => throw .malformed
  | some c =>
    if isCollectionTag c.tag then
      await number
      return .ref number
    else
      match scalarText? t (t.length + 1) (.collection number) with
      | none => throw .malformed
      | some text =>
        if c.tag = .timestamp then throw .timestampNotText
        return .value (← scalarValue c.tag text)

def part : Node → Grow Part
  | .collection number => collectionPart number
  | .scalar tag text => do
    if isCollectionTag tag then
      modify fun s => { s with waiting := s.waiting ++ [none] }
      return .value .null
    else return .value (← scalarValue tag text)

/-- A key is not a collection. -/
def key (node : Node) : Grow Data := do
  match node with
  | .scalar tag _ => if isCollectionTag tag then throw .malformed
  | .collection _ => pure ()
  match ← part node with
  | .value d => return d
  | .ref _ => throw .malformed

def entriesOf (number : Nat) : Grow (List (Data × Part)) := do
  match (← get).collections.entries? number with
  | none => throw .malformed
  | some _ =>
    let t ← (← get).collections.flatten number
    modify fun s => { s with collections := t }
    ((t.entries? number).getD []).mapM fun e => do
      let k ← key e.1
      return (k, ← part e.2)

/-- The only entry of a mapping inside an ordered map. -/
def onlyEntry (node : Node) : Grow (Part × Part) := do
  match node with
  | .scalar _ _ => throw .malformed
  | .collection number =>
    match (← get).collections.entries? number with
    | some [e] =>
      let k ← part e.1
      return (k, ← part e.2)
    | _ => throw .malformed

def itemsOf (number : Nat) : Grow (List Node) := do
  match (← get).collections.get? number with
  | some ⟨_, .sequence items⟩ => return items
  | _ => throw .malformed

def shape (number : Nat) : Grow Shape := do
  let tag : Option Tag := ((← get).collections.get? number).map (·.tag)
  match tag with
  | some .list => return .list (← (← itemsOf number).mapM part)
  | some .orderedMap | some .pairs => return .pairs (← (← itemsOf number).mapM onlyEntry)
  | some .set => return .set ((← entriesOf number).map (·.1))
  | _ => return .map (← entriesOf number)

/-- Gives contents to the collections that wait. Each collection waits once. -/
def grow : (fuel : Nat) → Grow Unit
  | 0 => return
  | fuel + 1 => do
    match (← get).waiting with
    | [] => return
    | none :: _ => throw .malformed
    | some number :: waiting =>
      modify fun s => { s with waiting }
      let shape ← shape number
      modify fun s => { s with shapes := (number, shape) :: s.shapes }
      grow fuel

end Grow

/-- Keys are one also where both are the absent number. -/
def sameYamlKey (a b : Data) : Bool :=
  Data.sameKey a b ||
    match a, b with
    | .float x, .float y => x.isNaN && y.isNaN
    | _, _ => false

def distinctMembers (members : List Data) : List Data :=
  members.foldl (fun seen d => if seen.any (sameYamlKey d) then seen else seen ++ [d]) []

def Shape.bracket : Shape → Bracket
  | .list _ | .pairs _ => .list
  | .map _ | .set _ => .map

mutual

/-- Unfolds a part inside the collections in `around`. -/
def Part.unfold (shapes : List (Nat × Shape)) : (fuel : Nat) → (around : List Nat) → Part → Data
  | _, _, .value d => d
  | 0, _, .ref _ => .null
  | fuel + 1, around, .ref number =>
    match shapes.find? fun s => s.1 == number with
    | none => .null
    | some s =>
      if around.contains number then .again number s.2.bracket
      else
        let body := s.2.unfold shapes fuel (number :: around)
        if body.refersTo number then .loop number body else body

def Shape.unfold (shapes : List (Nat × Shape)) (fuel : Nat) (around : List Nat) : Shape → Data
  | .list items => .list (items.map fun p => p.unfold shapes fuel around)
  | .pairs items =>
    .list (items.map fun p =>
      .tuple [p.1.unfold shapes fuel around, p.2.unfold shapes fuel around])
  | .map entries =>
    Data.ofEntriesWith sameYamlKey (entries.map fun e => (e.1, e.2.unfold shapes fuel around))
  | .set members => .set (distinctMembers members)

end

/-- The data of a document; an empty text is nothing. -/
def Document.data (d : Document) : Except Fault Data :=
  match d.root with
  | none => .ok .null
  | some root =>
    let growing : Grow Part := do
      let p ← Grow.part root
      Grow.grow (d.collections.length + 2)
      return p
    match growing.run ⟨d.collections, [], [], []⟩ with
    | .error e => .error e
    | .ok (p, s) => .ok (p.unfold s.shapes (s.shapes.length + 1) [])

def read (t : Text) : Except Fault Data :=
  if t.all isAllowed then
    match Document.ofStream (Stream.ofText t) with
    | .error f => .error f
    | .ok d => d.data
  else .error .malformed

end MaximalMunch.Yaml
