import MaximalMunch.Pattern.Reader
import MaximalMunch.Text.CharacterName

/-!
Escapes of a regular expression: what follows a backslash. Inside a set an escape names a character
or a class of characters; outside it may also be an anchor or a reference to a group.
-/

namespace MaximalMunch.Pattern

def isAsciiDigit (c : Char) : Bool := '0' ≤ c && c ≤ '9'

def isOctalDigit (c : Char) : Bool := '0' ≤ c && c ≤ '7'

def isHexDigit (c : Char) : Bool :=
  isAsciiDigit c || ('a' ≤ c && c ≤ 'f') || ('A' ≤ c && c ≤ 'F')

def isAsciiLetter (c : Char) : Bool := ('a' ≤ c && c ≤ 'z') || ('A' ≤ c && c ≤ 'Z')

def controlLetter? : Char → Option Nat
  | 'a' => some 7
  | 'f' => some 12
  | 'n' => some 10
  | 'r' => some 13
  | 't' => some 9
  | 'v' => some 11
  | '\\' => some 92
  | _ => none

def categoryLetter? : Char → Option Member
  | 'd' => some (.category .digit false)
  | 'D' => some (.category .digit true)
  | 's' => some (.category .space false)
  | 'S' => some (.category .space true)
  | 'w' => some (.category .word false)
  | 'W' => some (.category .word true)
  | _ => none

def anchorLetter? : Char → Option Anchor
  | 'A' => some .textStart
  | 'b' => some .boundary
  | 'B' => some .noBoundary
  | 'Z' => some .textEnd
  | _ => none

namespace Read

def failEscape {α : Type} (escape : Text) : Read α := fail (.unknownEscape escape) escape.length

/-- Exactly `count` hexadecimal digits after the letter `c`. -/
def hexEscape (c : Char) (count : Nat) : Read (Text × Nat) := do
  let digits ← takeSome isHexDigit count
  let escape := '\\' :: c :: digits
  if digits.length < count then fail (.incompleteEscape escape) escape.length
  return (escape, Text.digitsValue 16 digits)

/-- A code point given by its number or by the name of its character. -/
def codePoint? (c : Char) : Read (Option Nat) := do
  if c = 'x' then return some (← hexEscape c 2).2
  else if c = 'u' then return some (← hexEscape c 4).2
  else if c = 'U' then
    let (escape, n) ← hexEscape c 8
    if 0x7FFFFFFF < n then throw .codePointTooLarge
    if 0x10FFFF < n then failEscape escape
    return some n
  else if c = 'N' then
    if !(← accept '\x7b') then fail .missingBrace
    let name ← name '\x7d' "character name".toList
    match CharacterName.codePoint? name with
    | some n => return some n
    | none => fail (.unknownCharacterName name) (name.length + 4)
  else return none

/-- An octal numeral that begins with the digits `digits` and may take `more` digits. -/
def octalEscape (digits : Text) (more : Nat) : Read Nat := do
  let digits := digits ++ (← takeSome isOctalDigit more)
  let n := Text.digitsValue 8 digits
  if 0o377 < n then fail (.octalTooLarge ('\\' :: digits)) (digits.length + 1)
  return n

/-- The escape of `c` inside a set. -/
def setEscape (c : Char) : Read Member := do
  if c = 'b' then return .char 8
  if let some n := controlLetter? c then return .char n
  if let some m := categoryLetter? c then return m
  if let some n ← codePoint? c then return .char n
  if isOctalDigit c then return .char (← octalEscape [c] 2)
  if isAsciiDigit c || isAsciiLetter c then failEscape ['\\', c]
  return .char c.toNat

def groupReference (digits : Text) : Read Tree := do
  let number := Text.digitsValue 10 digits
  if number < (← groupCount) then
    if !(← isClosed number) then fail .openGroup (digits.length + 1)
    checkLookBehind number
    return .again number
  else fail (.unknownGroupNumber number) digits.length

/-- A digit other than zero after the backslash: three octal digits name a character, one or two
digits refer to a group. -/
def numberEscape (c : Char) : Read Tree := do
  match ← next with
  | some (.plain d) =>
    if isAsciiDigit d then
      skip
      match ← next with
      | some (.plain e) =>
        if isOctalDigit c && isOctalDigit d && isOctalDigit e then
          return .char (← octalEscape [c, d] 1)
        else groupReference [c, d]
      | _ => groupReference [c, d]
    else groupReference [c]
  | _ => groupReference [c]

/-- The escape of `c` outside of sets. -/
def escape (c : Char) : Read Tree := do
  if let some a := anchorLetter? c then return .anchor a
  if let some m := categoryLetter? c then return .set false [m]
  if let some n := controlLetter? c then return .char n
  if let some n ← codePoint? c then return .char n
  if c = '0' then return .char (← octalEscape [c] 2)
  if isAsciiDigit c then return (← numberEscape c)
  if isAsciiLetter c then failEscape ['\\', c]
  return .char c.toNat

end Read
end MaximalMunch.Pattern
