import MaximalMunch.Calendar
import MaximalMunch.Decimal.Shortest
import MaximalMunch.Text

/-!
Plain data, as grammars are defined by. A collection may hold itself: `loop` puts a label on a
collection, and `again` inside it stands for the labelled collection. `view` opens such a loop by
one round, so that a value is looked at without meeting `loop` or `again` at its top.

Mappings keep their entries in order. Two keys are one key if they are equal as values, where truth
values count as the numbers zero and one, and numbers are equal across their kinds.
-/

namespace MaximalMunch

inductive Bracket where
  | list
  | map
  deriving DecidableEq, Repr

inductive Data where
  | null
  | flag (b : Bool)
  | int (n : Int)
  | float (x : Float)
  | text (t : Text)
  | bytes (bytes : List UInt8)
  | date (d : Date)
  | moment (m : Moment)
  | list (items : List Data)
  | tuple (items : List Data)
  | map (entries : List (Data × Data))
  | set (members : List Data)
  | loop (label : Nat) (body : Data)
  | again (label : Nat) (shape : Bracket)
  deriving Inhabited

namespace Data

mutual

/-- Puts `whole` in the place of the references to a label. -/
def substitute (label : Nat) (whole : Data) : Data → Data
  | .list items => .list (substituteItems label whole items)
  | .tuple items => .tuple (substituteItems label whole items)
  | .map entries => .map (substituteEntries label whole entries)
  | .loop inner body => .loop inner (if inner = label then body else substitute label whole body)
  | .again other shape => if other = label then whole else .again other shape
  | d => d

def substituteItems (label : Nat) (whole : Data) : List Data → List Data
  | [] => []
  | d :: rest => substitute label whole d :: substituteItems label whole rest

def substituteEntries (label : Nat) (whole : Data) : List (Data × Data) → List (Data × Data)
  | [] => []
  | (k, v) :: rest => (k, substitute label whole v) :: substituteEntries label whole rest

end

def view : Data → Data
  | .loop label body => substitute label (.loop label body) body
  | d => d

mutual

/-- Whether a reference to a label occurs. -/
def refersTo (label : Nat) : Data → Bool
  | .list items | .tuple items => itemsReferTo label items
  | .map entries => entriesReferTo label entries
  | .loop _ body => refersTo label body
  | .again other _ => other == label
  | _ => false

def itemsReferTo (label : Nat) : List Data → Bool
  | [] => false
  | d :: rest => refersTo label d || itemsReferTo label rest

def entriesReferTo (label : Nat) : List (Data × Data) → Bool
  | [] => false
  | (_, v) :: rest => refersTo label v || entriesReferTo label rest

end

/-- The number that a value counts as, where it is a whole one. -/
def whole? : Data → Option Int
  | .flag b => some (if b then 1 else 0)
  | .int n => some n
  | .float x =>
    match Decimal.valueOf x with
    | .finite b => b.whole?
    | _ => none
  | _ => none

/-- Whether two values are one key of a mapping. -/
def sameKey (a b : Data) : Bool :=
  match a, b with
  | .null, .null => true
  | .text s, .text t => s == t
  | .bytes s, .bytes t => s == t
  | .date d, .date e => d == e
  | .moment m, .moment n => m.same n
  | .float x, .float y => x == y
  | a, b =>
    match a.whole?, b.whole? with
    | some m, some n => m == n
    | _, _ => false

/-- Sets a key to a value. A key that is there already keeps its place and its form. -/
def insertWith (same : Data → Data → Bool) (key value : Data) :
    List (Data × Data) → List (Data × Data)
  | [] => [(key, value)]
  | (k, v) :: rest =>
    if same k key then (k, value) :: rest else (k, v) :: insertWith same key value rest

/-- The mapping with these entries; of several values for one key the last one counts. -/
def ofEntriesWith (same : Data → Data → Bool) (entries : List (Data × Data)) : Data :=
  .map (entries.foldl (fun m e => insertWith same e.1 e.2 m) [])

def ofEntries (entries : List (Data × Data)) : Data := ofEntriesWith sameKey entries

/-- The value of a text key. -/
def lookup? (key : Text) (entries : List (Data × Data)) : Option Data :=
  (entries.find? fun e => sameKey e.1 (.text key)).map (·.2)

end Data
end MaximalMunch
