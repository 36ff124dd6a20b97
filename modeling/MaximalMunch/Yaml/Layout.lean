import MaximalMunch.Yaml.BlockScalar
import MaximalMunch.Yaml.Name
import MaximalMunch.Yaml.PlainScalar

/-!
From characters to symbols. A block collection begins at a column that is greater than that of the
block around it and ends when a line begins before that column.

A scalar, an alias or a flow collection may turn out to be the key of a mapping when a colon comes
after it. Until then it is pending; a key has to end on the line it began on, within 1024
characters. The symbols of a key are put before it when the colon is met, so symbols from the first
pending one on are not settled yet.
-/

namespace MaximalMunch.Yaml

structure PendingKey where
  /-- The place in the list of symbols where the key begins. -/
  number : Nat
  /-- Nothing but a key can begin there. -/
  required : Bool
  index : Nat
  line : Nat
  column : Nat
  deriving DecidableEq, Repr

structure Layout where
  place : Place
  symbols : List Symbol
  /-- The depth of flow collections. -/
  flow : Nat
  /-- The column of the innermost block, `-1` outside of all blocks. -/
  indent : Int
  outer : List Int
  keyAllowed : Bool
  /-- At most one key for each depth of flow collections. -/
  pending : List (Nat × PendingKey)

/-- A key is at most as long as this. -/
def maxKeySize : Nat := 1024

namespace Layout

/-- A byte order mark at the very beginning does not count. -/
def start (t : Text) : Layout :=
  let p := Place.start t
  ⟨if p.next = some '\uFEFF' then p.advance else p, [], 0, -1, [], true, []⟩

def column (s : Layout) : Int := s.place.column

def push (s : Layout) (symbol : Symbol) : Layout := { s with symbols := s.symbols ++ [symbol] }

/-- Puts symbols at a place in the list. -/
def insertAt (s : Layout) (number : Nat) (symbols : List Symbol) : Layout :=
  { s with symbols := s.symbols.take number ++ symbols ++ s.symbols.drop number }

def isExpired (s : Layout) (k : PendingKey) : Bool :=
  k.line != s.place.line || maxKeySize < s.place.index - k.index

/-- The number of symbols that no key can be put before any more. -/
def settled (s : Layout) : Nat :=
  (s.pending.filter fun k => !s.isExpired k.2).foldl (fun n k => min n k.2.number) s.symbols.length

def dropExpired (s : Layout) : Except Fault Layout :=
  if s.pending.any fun k => k.2.required && s.isExpired k.2 then .error .malformed
  else .ok { s with pending := s.pending.filter fun k => !s.isExpired k.2 }

/-- Gives the pending key of this depth up. -/
def giveUpKey (s : Layout) : Except Fault Layout :=
  if s.pending.any fun k => k.1 == s.flow && k.2.required then .error .malformed
  else .ok { s with pending := s.pending.filter fun k => k.1 != s.flow }

/-- What comes next may be a key. -/
def awaitKey (s : Layout) : Except Fault Layout :=
  if s.keyAllowed then
    s.giveUpKey.map fun s =>
      let key : PendingKey :=
        ⟨s.symbols.length, s.flow == 0 && s.indent == s.column, s.place.index, s.place.line,
          s.place.column⟩
      { s with pending := (s.flow, key) :: s.pending }
  else .ok s

/-- Ends the blocks that begin after the column. -/
def closeFrom (s : Layout) (column : Int) : List Int → Layout
  | [] => s
  | o :: outer =>
    if column < s.indent then closeFrom { s.push .closeBlock with indent := o, outer } column outer
    else s

def closeTo (s : Layout) (column : Int) : Layout :=
  if s.flow = 0 then s.closeFrom column s.outer else s

/-- Begins a block at the column if that is deeper than the block around it. -/
def indentTo (s : Layout) (column : Int) : Option Layout :=
  if s.indent < column then some { s with indent := column, outer := s.indent :: s.outer } else none

/-- Begins a block here, with its symbol, if this column is deeper. -/
def beginBlock (s : Layout) (symbol : Symbol) : Except Fault Layout :=
  if s.flow = 0 then
    if s.keyAllowed then .ok (((s.indentTo s.column).map (·.push symbol)).getD s)
    else .error .malformed
  else .ok s

/-- Skips blanks, comments and line breaks. After a break outside of flow collections a key may
begin. -/
def skipBlank : (fuel : Nat) → Layout → Layout
  | 0, s => s
  | fuel + 1, s =>
    let p := s.place.skipWhile isSpace
    let p := if p.next = some '#' then p.skipWhile (fun c => !isBreak c) else p
    match p.lineBreak with
    | ([], _) => { s with place := p }
    | (_, p) => skipBlank fuel { s with place := p, keyAllowed := s.keyAllowed || s.flow == 0 }

/-- Goes to where the next symbol begins. -/
def prepare (s : Layout) : Except Fault Layout :=
  (s.skipBlank (s.place.rest.length + 1)).dropExpired.map fun s => s.closeTo s.column

def finish (s : Layout) : Except Fault Layout :=
  (s.closeTo (-1)).giveUpKey.map fun s => s.push .textEnd

/-- Goes over the indicator of a symbol of so many characters. -/
def take (s : Layout) (symbol : Symbol) (size : Nat) : Layout :=
  { s.push symbol with place := s.place.advanceBy size }

def takeDirective (s : Layout) : Except Fault Layout := do
  let s ← (s.closeTo (-1)).giveUpKey
  let (symbol, place) ← directiveSymbol s.place
  return { s.push symbol with place, keyAllowed := false }

def takeMarker (s : Layout) (symbol : Symbol) : Except Fault Layout := do
  let s ← (s.closeTo (-1)).giveUpKey
  return { s with keyAllowed := false }.take symbol 3

def openFlow (s : Layout) (symbol : Symbol) : Except Fault Layout := do
  let s ← s.awaitKey
  return { s with keyAllowed := true, flow := s.flow + 1 }.take symbol 1

def closeFlow (s : Layout) (symbol : Symbol) : Except Fault Layout := do
  let s ← s.giveUpKey
  return { s with keyAllowed := false, flow := s.flow - 1 }.take symbol 1

def takeComma (s : Layout) : Except Fault Layout := do
  let s ← s.giveUpKey
  return { s with keyAllowed := true }.take .comma 1

def takeDash (s : Layout) : Except Fault Layout := do
  let s ← s.beginBlock .openBlockSequence
  let s ← s.giveUpKey
  return { s with keyAllowed := true }.take .dash 1

def takeQuestionMark (s : Layout) : Except Fault Layout := do
  let s ← s.beginBlock .openBlockMapping
  let s ← s.giveUpKey
  return { s with keyAllowed := s.flow == 0 }.take .key 1

/-- A colon makes the pending key of this depth a key; without one, the key is empty. -/
def takeColon (s : Layout) : Except Fault Layout :=
  match s.pending.find? fun k => k.1 == s.flow with
  | some (_, k) =>
    let s := { s with pending := s.pending.filter fun k => k.1 != s.flow }
    let s :=
      match if s.flow = 0 then s.indentTo k.column else none with
      | some s => s.insertAt k.number [.openBlockMapping, .key]
      | none => s.insertAt k.number [.key]
    .ok ({ s with keyAllowed := false }.take .value 1)
  | none => do
    let s ← s.beginBlock .openBlockMapping
    let s ← { s with keyAllowed := s.flow == 0 }.giveUpKey
    return s.take .value 1

/-- Reads something that may be a key. -/
def takeItem (s : Layout) (read : Place → Except Fault (Symbol × Place)) :
    Except Fault Layout := do
  let s ← s.awaitKey
  let (symbol, place) ← read s.place
  return { s.push symbol with place, keyAllowed := false }

def takeBlockScalar (s : Layout) (folds : Bool) : Except Fault Layout := do
  let s ← { s with keyAllowed := true }.giveUpKey
  let (t, place) ← blockScalar folds s.indent s.place
  return { s.push (.scalar t false) with place }

/-- After a plain scalar, a key may begin only at the beginning of a line. -/
def takePlainScalar (s : Layout) : Except Fault Layout := do
  let s ← s.awaitKey
  let r := plainScalar (s.flow != 0) s.indent s.place
  return { s.push (.scalar r.text true) with place := r.place, keyAllowed := r.broke }

/-- Characters that no plain scalar begins with, except before a character that is not a blank. -/
def isIndicator (c : Char) : Bool := "-?:,[]\x7b\x7d#&*!|>'\"%@\x60".toList.contains c

def startsPlain (s : Layout) (c : Char) : Bool :=
  (!isGap c && !isBreak c && !isIndicator c) ||
    (!endsItem (s.place.ahead 1) && (c == '-' || (s.flow == 0 && (c == '?' || c == ':'))))

/-- Reads the symbol that begins with `c`, which is next. -/
def takeNext (s : Layout) (c : Char) : Except Fault Layout :=
  let blankNext := endsItem (s.place.ahead 1)
  if c = '%' ∧ s.place.column = 0 then s.takeDirective
  else if s.place.column = 0 ∧ s.place.isMarker '-' then s.takeMarker .documentStart
  else if s.place.column = 0 ∧ s.place.isMarker '.' then s.takeMarker .documentEnd
  else if c = '[' then s.openFlow .openSequence
  else if c = '\x7b' then s.openFlow .openMapping
  else if c = ']' then s.closeFlow .closeSequence
  else if c = '\x7d' then s.closeFlow .closeMapping
  else if c = ',' then s.takeComma
  else if c = '-' ∧ blankNext then s.takeDash
  else if c = '?' ∧ (s.flow ≠ 0 ∨ blankNext) then s.takeQuestionMark
  else if c = ':' ∧ (s.flow ≠ 0 ∨ blankNext) then s.takeColon
  else if c = '*' then s.takeItem fun p => (anchorName p).map fun r => (.alias r.1, r.2)
  else if c = '&' then s.takeItem fun p => (anchorName p).map fun r => (.anchor r.1, r.2)
  else if c = '!' then s.takeItem tagSymbol
  else if c = '|' ∧ s.flow = 0 then s.takeBlockScalar false
  else if c = '>' ∧ s.flow = 0 then s.takeBlockScalar true
  else if c = '\x27' ∨ c = '"' then
    s.takeItem fun p => (quotedScalar (c == '"') p).map fun r => (.scalar r.1 false, r.2)
  else if s.startsPlain c then s.takePlainScalar
  else .error .malformed

end Layout

/-- The symbols of a text. Where it is not in order, they go as far as they are settled. -/
structure Stream where
  symbols : List Symbol
  fault : Option Fault
  deriving DecidableEq, Repr

def Layout.stream : (fuel : Nat) → Layout → Stream
  | 0, s => ⟨s.symbols, some .malformed⟩
  | fuel + 1, s =>
    let step : Except Fault (Layout × Bool) := do
      let t ← s.prepare
      match t.place.next with
      | none => return (← t.finish, true)
      | some c => return (← t.takeNext c, false)
    match step with
    | .error f => ⟨s.symbols.take s.settled, some f⟩
    | .ok (t, true) => ⟨t.symbols, none⟩
    | .ok (t, false) => t.stream fuel

/-- The symbols of a text. Each but the last takes a character at least. -/
def Stream.ofText (t : Text) : Stream := (Layout.start t).stream (t.length + 2)

end MaximalMunch.Yaml
