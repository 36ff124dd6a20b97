import MaximalMunch.Pattern.Fault
import MaximalMunch.Pattern.Tree

/-!
What is known while a regular expression is read: the unread part, the groups seen so far with
their names and, once closed, their widths, the switches set for the whole pattern, and the groups
by which conditions have asked.

The unread part is read by lexemes: a backslash and the character after it are one lexeme. One lexeme is
read ahead, and a backslash at the very end is refused as soon as it would be that lexeme.
-/

namespace MaximalMunch.Pattern

inductive Lexeme where
  | plain (c : Char)
  | escaped (c : Char)
  deriving DecidableEq, Repr

def Lexeme.text : Lexeme → Text
  | .plain c => [c]
  | .escaped c => ['\\', c]

structure Source where
  next : Option Lexeme
  rest : Text
  position : Nat

namespace Source

/-- Reads ahead in `t`, whose first character has the given position. -/
def load (position : Nat) : Text → Except Error Source
  | [] => .ok ⟨none, [], position⟩
  | ['\\'] => .error (.fault ⟨.escapeAtEnd, some position⟩)
  | '\\' :: c :: rest => .ok ⟨some (.escaped c), rest, position⟩
  | c :: rest => .ok ⟨some (.plain c), rest, position⟩

def advance (s : Source) : Except Error Source :=
  match s.next with
  | none => .ok s
  | some l => load (s.position + l.text.length) s.rest

end Source

structure Reader where
  source : Source
  /-- One entry for each group opened, its width once it is closed. -/
  groups : List (Option Width) := []
  names : List (Text × Nat) := []
  flags : Flags := .none
  /-- Inside a look-behind, the number that its first own group would have. -/
  ownGroupsFrom : Option Nat := none
  /-- The groups asked for by number, each with the first place that asks. -/
  asked : List (Nat × Nat) := []

abbrev Read := StateT Reader (Except Error)

namespace Read

def next : Read (Option Lexeme) := do return (← get).source.next

def position : Read Nat := do return (← get).source.position

def failAt {α : Type} (position : Nat) (cause : Cause) : Read α :=
  throw (.fault ⟨cause, some position⟩)

/-- Blames the place that lies `back` characters before the read-ahead lexeme. -/
def fail {α : Type} (cause : Cause) (back : Nat := 0) : Read α := do
  failAt ((← position) - back) cause

def skip : Read Unit := do
  let r ← get
  set { r with source := ← r.source.advance }

def take : Read (Option Lexeme) := do
  let l ← next
  skip
  return l

/-- Takes the next lexeme if it is the plain character `c`. -/
def accept (c : Char) : Read Bool := do
  if (← next) = some (.plain c) then
    skip
    return true
  else return false

/-- Takes at most `n` plain characters in `p`. -/
def takeSome (p : Char → Bool) : Nat → Read Text
  | 0 => return []
  | n + 1 => do
    match ← next with
    | some (.plain c) =>
      if p c then
        skip
        return c :: (← takeSome p n)
      else return []
    | _ => return []

/-- Takes a name up to the character `closer`, which is taken too. -/
def nameUpTo (closer : Char) (what : Text) : Nat → Text → Read Text
  | 0, name => fail (.unterminatedName closer) name.length
  | fuel + 1, name => do
    match ← take with
    | none =>
      if name.isEmpty then fail (.missingName what)
      else fail (.unterminatedName closer) name.length
    | some l =>
      if l = .plain closer then
        if name.isEmpty then fail (.missingName what) 1 else return name
      else nameUpTo closer what fuel (name ++ l.text)

def name (closer : Char) (what : Text) : Read Text := do
  nameUpTo closer what ((← get).source.rest.length + 2) []

/-- The number that the next group will have. -/
def groupCount : Read Nat := do return (← get).groups.length + 1

def isClosed (number : Nat) : Read Bool := do
  return ((← get).groups[number - 1]?).join.isSome && number != 0

/-- Inside a look-behind, a group is of use only if it was closed before. -/
def checkLookBehind (number : Nat) : Read Unit := do
  match (← get).ownGroupsFrom with
  | none => return
  | some limit =>
    if !(← isClosed number) then fail .openGroup
    if limit ≤ number then fail .groupOfSameLookBehind

def numberOf? (name : Text) : Read (Option Nat) := do
  return ((← get).names.find? (·.1 == name)).map (·.2)

/-- Opens a group and tells its number. -/
def openGroup (name? : Option Text) : Read Nat := do
  let number ← groupCount
  match name? with
  | none => modify fun r => { r with groups := r.groups ++ [none] }
  | some name =>
    match ← numberOf? name with
    | some old => fail (.groupNameTaken name number old) (name.length + 1)
    | none =>
      modify fun r =>
        { r with groups := r.groups ++ [none], names := r.names ++ [(name, number)] }
  return number

def closeGroup (number : Nat) (body : List Tree) : Read Unit :=
  modify fun r =>
    { r with groups := r.groups.set (number - 1) (some (sequenceWidth r.groups body)) }

end Read
end MaximalMunch.Pattern
