import MaximalMunch.Pattern.Escape
import MaximalMunch.Text.Letter

/-!
The parts of a pattern without patterns inside: switches in parentheses, sets in brackets, and the
repeat marks behind an item.
-/

namespace MaximalMunch.Pattern

def Lexeme.isLetter : Lexeme → Bool
  | .plain c => Text.isLetter c
  | .escaped _ => false

def Lexeme.flag? : Lexeme → Option Flag
  | .plain c => Flag.ofChar? c
  | .escaped _ => none

namespace Read

/-- Turns switches on up to a character that ends the list, which is taken too. -/
def flagsOn : Nat → Flags → Flag → Read (Flags × Char)
  | 0, _, _ => fail .missingFlagsEnd
  | fuel + 1, on, flag => do
    if flag = .locale then fail .localeFlag
    let on := on.insert flag
    if flag.isMode && on.modes != [flag] then fail .clashingFlags
    match ← take with
    | none => fail .missingFlagsEnd
    | some l =>
      if l = .plain ')' then return (on, ')')
      else if l = .plain '-' then return (on, '-')
      else if l = .plain ':' then return (on, ':')
      else match l.flag? with
        | some flag => flagsOn fuel on flag
        | none => fail (if l.isLetter then .unknownFlag else .missingFlagsEnd) l.text.length

/-- Turns switches off up to the colon. -/
def flagsOff : Nat → Flags → Flag → Read Flags
  | 0, _, _ => fail .missingColon
  | fuel + 1, off, flag => do
    if flag.isMode then fail .modeTurnedOff
    let off := off.insert flag
    match ← take with
    | none => fail .missingColon
    | some l =>
      if l = .plain ':' then return off
      else match l.flag? with
        | some flag => flagsOff fuel off flag
        | none => fail (if l.isLetter then .unknownFlag else .missingColon) l.text.length

def firstFlagOff : Read Flags := do
  match ← take with
  | none => fail .missingFlag
  | some l =>
    match l.flag? with
    | some flag => flagsOff ((← get).source.rest.length + 3) .none flag
    | none => fail (if l.isLetter then .unknownFlag else .missingFlag) l.text.length

/-- The switches after an opening `(?`, whose first one is `flag?`, or a minus sign where that is
`none`. Switches for the whole pattern are stored, and `none` is the answer. -/
def switches (flag? : Option Flag) : Read (Option (Flags × Flags)) := do
  let (on, closer) ← match flag? with
    | some flag => flagsOn ((← get).source.rest.length + 3) .none flag
    | none => pure (.none, '-')
  if closer = ')' then
    modify fun r => { r with flags := r.flags.union on }
    return none
  if on.has .template then fail .globalFlagTurnedOn 1
  let off ← if closer = '-' then firstFlagOff else pure .none
  if off.has .template then fail .globalFlagTurnedOff 1
  if on.meets off then fail .flagOnAndOff 1
  return some (on, off)

/-- One end of a range or a member that stands alone. -/
def setItem : Lexeme → Read Member
  | .plain c => return .char c.toNat
  | .escaped c => setEscape c

/-- The members of a set up to its closing bracket, onto those in `members`. -/
def setMembers (start : Nat) : Nat → List Member → Read (List Member)
  | 0, _ => failAt start .unterminatedSet
  | fuel + 1, members => do
    match ← take with
    | none => failAt start .unterminatedSet
    | some l =>
      if l = .plain ']' && !members.isEmpty then return members
      let low ← setItem l
      if ← accept '-' then
        match ← take with
        | none => failAt start .unterminatedSet
        | some h =>
          if h = .plain ']' then return members ++ [low, .char 45]
          let high ← setItem h
          match low, high with
          | .char a, .char b =>
            if b < a then
              fail (.badRange l.text h.text) (l.text.length + 1 + h.text.length)
            setMembers start fuel (members ++ [.range a b])
          | _, _ => fail (.badRange l.text h.text) (l.text.length + 1 + h.text.length)
      else setMembers start fuel (members ++ [low])

/-- A list without its later repetitions. -/
def distinct (members : List Member) : List Member :=
  members.foldl (fun seen m => if seen.contains m then seen else seen ++ [m]) []

/-- A set whose opening bracket has been taken. One literal character alone needs no set. -/
def set : Read Tree := do
  let start := (← position) - 1
  let negated ← accept '^'
  let members := distinct (← setMembers start ((← get).source.rest.length + 2) [])
  match members with
  | [.char c] => return if negated then .notChar c else .char c
  | _ => return .set negated members

/-- The counts from `maxCount` on are refused. -/
def maxCount : Nat := 4294967295

def repeatCount (digits : Text) : Read Nat := do
  if Text.maxDigits < digits.length then throw (.numeralTooLong digits.length)
  let n := Text.digitsValue 10 digits
  if maxCount ≤ n then throw .repeatTooLarge
  return n

/-- The bounds after an opening brace, or `none` where the brace stands for itself. -/
def braceBounds : Read (Option (Nat × Option Nat)) := do
  if (← next) = some (.plain '\x7d') then return none
  let start ← position
  let saved := (← get).source
  let size := saved.rest.length + 1
  let low ← takeSome isAsciiDigit size
  let comma ← accept ','
  let high ← if comma then takeSome isAsciiDigit size else pure low
  if !(← accept '\x7d') then
    modify fun r => { r with source := saved }
    return none
  let least ← if low.isEmpty then pure 0 else repeatCount low
  if high.isEmpty then return some (least, none)
  let most ← repeatCount high
  if most < least then failAt start .reversedBounds
  return some (least, some most)

def greed : Read Greed := do
  if ← accept '?' then return .reluctant
  else if ← accept '+' then return .possessive
  else return .greedy

/-- Repeats the last item of `items`, which lie in reverse order. -/
def repeatLast (start least : Nat) (most : Option Nat) (items : List Tree) : Read (List Tree) := do
  match items with
  | [] | .anchor _ :: _ => failAt start .nothingToRepeat
  | .loop _ _ _ _ :: _ => failAt start .repeatedRepeat
  | item :: rest =>
    let body := match item with
      | .group none on off body => if on.isEmpty && off.isEmpty then body else [item]
      | item => [item]
    return .loop (← greed) least most body :: rest

/-- A repeat mark `c` that has been taken, behind `items`. -/
def repeatMark (c : Char) (items : List Tree) : Read (List Tree) := do
  let start := (← position) - 1
  match c with
  | '?' => repeatLast start 0 (some 1) items
  | '*' => repeatLast start 0 none items
  | '+' => repeatLast start 1 none items
  | _ =>
    match ← braceBounds with
    | some (least, most) => repeatLast start least most items
    | none => return .char c.toNat :: items

end Read
end MaximalMunch.Pattern
