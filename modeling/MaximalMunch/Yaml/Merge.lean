import MaximalMunch.Yaml.Document

/-!
Merge keys. The value of a merge key is a mapping or a sequence of mappings, whose entries are put
before the entries of the mapping with the key; of a sequence, later mappings come first. As the
last entry of a key counts, own entries win over merged ones, and earlier mappings over later ones.
-/

namespace MaximalMunch.Yaml

abbrev Collections := List (Nat × Collection)

namespace Collections

def get? (t : Collections) (number : Nat) : Option Collection :=
  (t.find? fun c => c.1 == number).map (·.2)

def entries? (t : Collections) (number : Nat) : Option (List (Node × Node)) :=
  match t.get? number with
  | some ⟨_, .mapping entries⟩ => some entries
  | _ => none

def setEntries (t : Collections) (number : Nat) (entries : List (Node × Node)) : Collections :=
  t.map fun c => if c.1 == number then (c.1, ⟨c.2.tag, .mapping entries⟩) else c

end Collections

def Node.isMerge : Node → Bool
  | .scalar .merge _ => true
  | _ => false

/-- Whether a node as a key stands for its mapping. -/
def Node.isValue : Node → Bool
  | .scalar (.value _) _ => true
  | _ => false

/-- Takes the first merge key out: its value and the other entries. -/
def takeMerge : List (Node × Node) → Option (Node × List (Node × Node))
  | [] => none
  | e :: rest =>
    if e.1.isMerge then some (e.2, rest)
    else (takeMerge rest).map fun r => (r.1, e :: r.2)

/-- Flattens one mapping and gives its entries. -/
def mergedMapping (flatten : Collections → Nat → Except Fault Collections) (t : Collections) :
    Node → Except Fault (List (Node × Node) × Collections)
  | .scalar _ _ => .error .malformed
  | .collection number =>
    match t.entries? number with
    | none => .error .malformed
    | some _ => (flatten t number).map fun t => ((t.entries? number).getD [], t)

def mergedItems (flatten : Collections → Nat → Except Fault Collections) (t : Collections) :
    List Node → Except Fault (List (Node × Node) × Collections)
  | [] => .ok ([], t)
  | item :: rest =>
    match mergedMapping flatten t item with
    | .error e => .error e
    | .ok (first, t) => (mergedItems flatten t rest).map fun r => (r.1 ++ first, r.2)

/-- The entries that the value of a merge key stands for. -/
def merged (flatten : Collections → Nat → Except Fault Collections) (t : Collections)
    (value : Node) : Except Fault (List (Node × Node) × Collections) :=
  match value with
  | .collection number =>
    match t.get? number with
    | some ⟨_, .sequence items⟩ => mergedItems flatten t items
    | _ => mergedMapping flatten t value
  | .scalar _ _ => .error .malformed

/-- Puts the entries in the place of the merge keys of a mapping. Each step takes a merge key. -/
def flatten : (fuel : Nat) → Collections → Nat → Except Fault Collections
  | 0, t, _ => .ok t
  | fuel + 1, t, number =>
    let entries := (t.entries? number).getD []
    match takeMerge entries with
    | none => .ok t
    | some (value, rest) =>
      match merged (flatten fuel) (t.setEntries number rest) value with
      | .error e => .error e
      | .ok (before, t) =>
        (flatten fuel t number).map fun t =>
          t.setEntries number (before ++ (t.entries? number).getD [])

def mergeKeyCount (t : Collections) : Nat :=
  t.foldl
    (fun count c =>
      match c.2.content with
      | .mapping entries => count + entries.countP fun e => e.1.isMerge
      | .sequence _ => count)
    0

/-- A node among these is a text after all. -/
def Node.plain (nodes : List Node) : Node → Node
  | .scalar tag text => .scalar (if nodes.contains (.scalar tag text) then .text else tag) text
  | node => node

def Content.plain (nodes : List Node) : Content → Content
  | .sequence items => .sequence (items.map (·.plain nodes))
  | .mapping entries => .mapping (entries.map fun e => (e.1.plain nodes, e.2.plain nodes))

namespace Collections

/-- The keys that would stand for a mapping are texts once it is flattened. They may be shared with
other collections. -/
def plainKeys (t : Collections) (number : Nat) : Collections :=
  match (((t.entries? number).getD []).map (·.1)).filter Node.isValue with
  | [] => t
  | keys => t.map fun c => (c.1, ⟨c.2.tag, c.2.content.plain keys⟩)

def flatten (t : Collections) (number : Nat) : Except Fault Collections :=
  (Yaml.flatten (mergeKeyCount t + 1) t number).map (·.plainKeys number)

end Collections

end MaximalMunch.Yaml
