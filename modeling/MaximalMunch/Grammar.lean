import MaximalMunch.Data.Shown
import MaximalMunch.TokenType

/-!
Grammars. A grammar is a list of token types with names of their own, in the order of their
priority, and says whether blanks around and between tokens are trimmed. Types are added one by one;
a name that is taken is refused and leaves the grammar as it was. A grammar may also be changed in
place; whatever a change has done before it fails stays done.
-/

namespace MaximalMunch

structure Grammar where
  types : List TokenType
  trimming : Bool
  deriving DecidableEq

namespace Grammar

def empty (trimming : Bool) : Grammar := ⟨[], trimming⟩

def names (g : Grammar) : List Text := g.types.map (·.name)

def contains (g : Grammar) (name : Text) : Bool := g.types.any fun t => t.name == name

def get? (g : Grammar) (name : Text) : Option TokenType := g.types.find? fun t => t.name == name

/-- Adds a token type behind all others. -/
def register (g : Grammar) (t : TokenType) : Except GrammarError Grammar :=
  if g.contains t.name then .error (.duplicate t.name) else .ok { g with types := g.types ++ [t] }

def add (g : Grammar) (name regex : Text) : Except GrammarError Grammar :=
  match TokenType.make name regex with
  | .error e => .error e
  | .ok t => g.register t

def registerAll (g : Grammar) : List TokenType → Except GrammarError Grammar
  | [] => .ok g
  | t :: rest =>
    match g.register t with
    | .error e => .error e
    | .ok g => g.registerAll rest

def makeAll : List (Text × Text) → Except GrammarError (List TokenType)
  | [] => .ok []
  | (name, regex) :: rest =>
    match TokenType.make name regex with
    | .error e => .error e
    | .ok t => (makeAll rest).map (t :: ·)

/-- The grammar of these names and expressions. All types are made before the first is added. -/
def ofPairs (pairs : List (Text × Text)) (trimming : Bool) : Except GrammarError Grammar :=
  match makeAll pairs with
  | .error e => .error e
  | .ok types => (empty trimming).registerAll types

def shown (g : Grammar) : Text :=
  "Grammar([".toList ++ commaSeparated g.names ++ "], trimming=".toList ++
    shownFlag g.trimming ++ ")".toList

/-- The written form of a grammar that may be missing. -/
def shownIfAny : Option Grammar → Text
  | none => shownNull
  | some g => g.shown

end Grammar

/-! ### Looking up, and changing in place -/

/-- There is no token type of this name. -/
structure UnknownName where
  name : Text
  deriving DecidableEq

def UnknownName.message (e : UnknownName) : Text := Text.quoted e.name

namespace Grammar

abbrev Change := EStateM GrammarError Grammar

/-- Puts a token type behind all others. -/
def registerIn (t : TokenType) : Change Unit := do
  let g ← get
  if g.contains t.name then throw (.duplicate t.name)
  set { g with types := g.types ++ [t] }

/-- Makes a token type, adds it and gives it back. -/
def addIn (name regex : Text) : Change TokenType := do
  let t ← MonadExcept.ofExcept (TokenType.make name regex)
  registerIn t
  return t

def setTrimmingIn (trimming : Bool) : Change Unit := modify fun g => { g with trimming }

/-- The grammar that a change leaves, whether it fails or not. -/
def Change.leaves {α : Type} (change : Change α) (g : Grammar) : Grammar :=
  match change.run g with
  | .ok _ g => g
  | .error _ g => g

def lookup (g : Grammar) (name : Text) : Except UnknownName TokenType :=
  match g.get? name with
  | some t => .ok t
  | none => .error ⟨name⟩

end Grammar
end MaximalMunch
