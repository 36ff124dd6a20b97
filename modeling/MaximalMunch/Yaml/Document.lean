import MaximalMunch.Yaml.Layout
import MaximalMunch.Yaml.Tag

/-!
From symbols to a document. A document is a graph: its collections are numbered, and a node is a
scalar or the number of a collection, so an alias to a collection is its number again.
-/

namespace MaximalMunch.Yaml

inductive Node where
  | scalar (tag : Tag) (text : Text)
  | collection (number : Nat)
  deriving DecidableEq, Repr

inductive Content where
  | sequence (items : List Node)
  | mapping (entries : List (Node × Node))
  deriving DecidableEq, Repr

structure Collection where
  tag : Tag
  content : Content
  deriving DecidableEq, Repr

structure Document where
  /-- There is no root in an empty text. -/
  root : Option Node
  collections : List (Nat × Collection)
  deriving DecidableEq, Repr

/-- What a document is read from, and what has been read. -/
structure Composing where
  symbols : List Symbol
  fault : Option Fault
  handles : List (Text × Text)
  anchors : List (Text × Node)
  /-- The number of collections begun. -/
  count : Nat
  collections : List (Nat × Collection)

abbrev Compose := StateT Composing (Except Fault)

namespace Compose

def peek : Compose Symbol := do
  match (← get).symbols with
  | symbol :: _ => return symbol
  | [] => throw ((← get).fault.getD .malformed)

def skip : Compose Unit := modify fun s => { s with symbols := s.symbols.drop 1 }

def empty : Node := .scalar .null []

def defaultHandles : List (Text × Text) := [("!".toList, "!".toList), ("!!".toList, tagStem)]

/-- The full name of a tag. -/
def tagName (handle : Option Text) (suffix : Text) : Compose Text := do
  match handle with
  | none => return suffix
  | some handle =>
    match (← get).handles.find? fun h => h.1 == handle with
    | some h => return h.2 ++ suffix
    | none => throw .malformed

def anchor? : Compose (Option Text) := do
  match ← peek with
  | .anchor name =>
    skip
    return some name
  | _ => return none

def tag? : Compose (Option (Option Text × Text)) := do
  match ← peek with
  | .tag handle suffix =>
    skip
    return some (handle, suffix)
  | _ => return none

/-- The anchor and the tag of a node, in either order. -/
def properties : Compose (Option Text × Option Text) := do
  let (anchor, tag) ←
    match ← anchor? with
    | some name => pure (some name, ← tag?)
    | none =>
      match ← tag? with
      | some tag => pure (← anchor?, some tag)
      | none => pure (none, none)
  match tag with
  | some (handle, suffix) => return (anchor, some (← tagName handle suffix))
  | none => return (anchor, none)

/-- An anchor names one node of a document only. -/
def checkAnchor : Option Text → Compose Unit
  | none => return
  | some name => do
    if (← get).anchors.any fun a => a.1 == name then throw .malformed

def setAnchor (anchor : Option Text) (node : Node) : Compose Unit :=
  match anchor with
  | none => return
  | some name => modify fun s => { s with anchors := (name, node) :: s.anchors }

/-- Whether the tag of a node is left to its form. -/
def isOpenTag (tag : Option Text) : Bool := tag.all (· == ['!'])

/-- Reads a scalar. Its place is told by the symbols that are left. -/
def scalar (anchor : Option Text) (tag : Tag) (text : Text) : Compose Node := do
  checkAnchor anchor
  let node : Node := .scalar (tag.placed (← get).symbols.length) text
  setAnchor anchor node
  return node

def scalarTag (tag : Option Text) (plain : Bool) (text : Text) : Tag :=
  match tag with
  | none => if plain then Tag.ofForm text else .text
  | some name => if name = ['!'] then Tag.ofForm text else Tag.ofName name

def collectionTag (tag : Option Text) (standard : Tag) : Tag :=
  if isOpenTag tag then standard else (tag.map Tag.ofName).getD standard

/-- Reads a collection. Its number is known before its content. -/
def collection (anchor : Option Text) (tag : Tag) (content : Compose Content) : Compose Node := do
  checkAnchor anchor
  let number := (← get).count
  setAnchor anchor (.collection number)
  modify fun s => { s with count := number + 1 }
  let content ← content
  modify fun s => { s with collections := (number, ⟨tag, content⟩) :: s.collections }
  return .collection number

mutual

/-- Reads a node. Block collections are allowed where `block` is set, and a sequence that is not
indented where `bare` is. -/
def node : (fuel : Nat) → (block bare : Bool) → Compose Node
  | 0, _, _ => throw .malformed
  | fuel + 1, block, bare => do
    if let .alias name ← peek then
      skip
      match (← get).anchors.find? fun a => a.1 == name with
      | some a => return a.2
      | none => throw .malformed
    let (anchor, tag) ← properties
    let listTag := collectionTag tag .list
    let mapTag := collectionTag tag .map
    let emptyOrFault : Compose Node :=
      if anchor.isNone && tag.isNone then throw .malformed
      else scalar anchor (scalarTag tag true []) []
    match ← peek with
    | .dash =>
      if bare then collection anchor listTag (return .sequence (← bareItems fuel))
      else emptyOrFault
    | .scalar text plain =>
      skip
      scalar anchor (scalarTag tag plain text) text
    | .openSequence =>
      collection anchor listTag do
        skip
        return .sequence (← flowItems fuel true)
    | .openMapping =>
      collection anchor mapTag do
        skip
        return .mapping (← flowEntries fuel true)
    | .openBlockSequence =>
      if block then
        collection anchor listTag do
          skip
          return .sequence (← blockItems fuel)
      else emptyOrFault
    | .openBlockMapping =>
      if block then
        collection anchor mapTag do
          skip
          return .mapping (← blockEntries fuel)
      else emptyOrFault
    | _ => emptyOrFault

def blockItems : (fuel : Nat) → Compose (List Node)
  | 0 => throw .malformed
  | fuel + 1 => do
    match ← peek with
    | .dash =>
      skip
      let item ←
        match ← peek with
        | .dash | .closeBlock => pure empty
        | _ => node fuel true false
      return item :: (← blockItems fuel)
    | .closeBlock =>
      skip
      return []
    | _ => throw .malformed

/-- The items of a sequence that is not indented. -/
def bareItems : (fuel : Nat) → Compose (List Node)
  | 0 => throw .malformed
  | fuel + 1 => do
    match ← peek with
    | .dash =>
      skip
      let item ←
        match ← peek with
        | .dash | .key | .value | .closeBlock => pure empty
        | _ => node fuel true false
      return item :: (← bareItems fuel)
    | _ => return []

def blockEntries : (fuel : Nat) → Compose (List (Node × Node))
  | 0 => throw .malformed
  | fuel + 1 => do
    match ← peek with
    | .closeBlock =>
      skip
      return []
    | .key =>
      skip
      let key ← blockPart fuel
      let value ←
        match ← peek with
        | .value =>
          skip
          blockPart fuel
        | _ => pure empty
      return (key, value) :: (← blockEntries fuel)
    | _ => throw .malformed

/-- A key or a value of a block mapping, which may be empty. -/
def blockPart : (fuel : Nat) → Compose Node
  | 0 => throw .malformed
  | fuel + 1 => do
    match ← peek with
    | .key | .value | .closeBlock => return empty
    | _ => node fuel true true

/-- The items of a flow sequence; `first` says that no comma is due. -/
def flowItems : (fuel : Nat) → (first : Bool) → Compose (List Node)
  | 0, _ => throw .malformed
  | fuel + 1, first => do
    if (← peek) = .closeSequence then
      skip
      return []
    if !first then
      if (← peek) = .comma then skip else throw .malformed
    match ← peek with
    | .closeSequence =>
      skip
      return []
    | .key =>
      let item ← collection none .map do
        skip
        return .mapping [← flowPair fuel]
      return item :: (← flowItems fuel false)
    | _ =>
      let item ← node fuel false false
      return item :: (← flowItems fuel false)

/-- The only entry of a mapping that stands inside a flow sequence without braces. -/
def flowPair : (fuel : Nat) → Compose (Node × Node)
  | 0 => throw .malformed
  | fuel + 1 => do
    let key ←
      match ← peek with
      | .value | .comma | .closeSequence => pure empty
      | _ => node fuel false false
    let value ←
      match ← peek with
      | .value =>
        skip
        match ← peek with
        | .comma | .closeSequence => pure empty
        | _ => node fuel false false
      | _ => pure empty
    return (key, value)

/-- The entries of a flow mapping; `first` says that no comma is due. -/
def flowEntries : (fuel : Nat) → (first : Bool) → Compose (List (Node × Node))
  | 0, _ => throw .malformed
  | fuel + 1, first => do
    if (← peek) = .closeMapping then
      skip
      return []
    if !first then
      if (← peek) = .comma then skip else throw .malformed
    match ← peek with
    | .closeMapping =>
      skip
      return []
    | .key =>
      skip
      let key ←
        match ← peek with
        | .value | .comma | .closeMapping => pure empty
        | _ => node fuel false false
      let value ←
        match ← peek with
        | .value =>
          skip
          match ← peek with
          | .comma | .closeMapping => pure empty
          | _ => node fuel false false
        | _ => pure empty
      return (key, value) :: (← flowEntries fuel false)
    | _ =>
      let key ← node fuel false false
      return (key, empty) :: (← flowEntries fuel false)

end

/-- Reads the directives before a document, of which the version comes once at most. -/
def directives : (fuel : Nat) → (versioned : Bool) → Compose Unit
  | 0, _ => throw .malformed
  | fuel + 1, versioned => do
    match ← peek with
    | .directive d =>
      skip
      match d with
      | .version major _ =>
        if versioned || major ≠ 1 then throw .malformed
        directives fuel true
      | .tagHandle handle expansion =>
        if (← get).handles.any fun h => h.1 == handle then throw .malformed
        modify fun s => { s with handles := s.handles ++ [(handle, expansion)] }
        directives fuel versioned
      | .other => directives fuel versioned
    | _ => modify fun s => { s with handles := s.handles ++ defaultHandles }

def documentEnds : (fuel : Nat) → Compose Unit
  | 0 => return
  | fuel + 1 => do
    if (← peek) = .documentEnd then
      skip
      documentEnds fuel

/-- Reads a document after its directives, from its opening marker on. -/
def markedDocument (fuel : Nat) : Compose Node := do
  if (← peek) ≠ .documentStart then throw .malformed
  skip
  match ← peek with
  | .directive _ | .documentStart | .documentEnd | .textEnd => return empty
  | _ => node fuel true false

/-- There may be one document only. What follows another one is not looked at. -/
def atEnd (fuel : Nat) : Compose Unit := do
  documentEnds fuel
  if (← peek) = .textEnd then return
  modify fun s => { s with handles := [] }
  directives fuel false
  let _ ← peek
  throw .malformed

def root (fuel : Nat) : Compose (Option Node) := do
  match ← peek with
  | .textEnd => return none
  | .directive _ | .documentStart =>
    directives fuel false
    let node ← markedDocument fuel
    atEnd fuel
    return some node
  | _ =>
    modify fun s => { s with handles := defaultHandles }
    let node ← node fuel true false
    atEnd fuel
    return some node

end Compose

/-- Every step down takes a symbol, or is followed by one that does. -/
def Document.ofStream (s : Stream) : Except Fault Document :=
  let fuel := 4 * s.symbols.length + 8
  match (Compose.root fuel).run ⟨s.symbols, s.fault, [], [], 0, []⟩ with
  | .error e => .error e
  | .ok (root, c) => .ok ⟨root, c.collections⟩

end MaximalMunch.Yaml
