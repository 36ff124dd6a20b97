import MaximalMunch.Yaml.Fault
import MaximalMunch.Yaml.Place

/-!
Quoted scalars. Between single quotes, a quote is written twice and nothing else is special; between
double quotes there are escapes. In both, a line break with the blanks around it reads as one space,
and each further one as itself.
-/

namespace MaximalMunch.Yaml

def isHexDigit (c : Char) : Bool :=
  ('0' ≤ c && c ≤ '9') || ('a' ≤ c && c ≤ 'f') || ('A' ≤ c && c ≤ 'F')

/-- The character of a one-letter escape. -/
def escapeLetter? (c : Char) : Option Char :=
  match c with
  | '0' => some '\x00'
  | 'a' => some '\x07'
  | 'b' => some '\x08'
  | 't' | '\t' => some '\t'
  | 'n' => some '\n'
  | 'v' => some '\x0b'
  | 'f' => some '\x0c'
  | 'r' => some '\r'
  | 'e' => some '\x1b'
  | ' ' => some ' '
  | '"' => some '"'
  | '\\' => some '\\'
  | '/' => some '/'
  | 'N' => some '\x85'
  | '_' => some '\xa0'
  | 'L' => some '\u2028'
  | 'P' => some '\u2029'
  | _ => none

/-- The number of hexadecimal digits after the letter of an escape. -/
def escapeWidth? (c : Char) : Option Nat :=
  match c with
  | 'x' => some 2
  | 'u' => some 4
  | 'U' => some 8
  | _ => none

/-- A text has no halves of surrogate pairs: the code of one is read as the character zero. -/
def charOfCode (code : Nat) : Except Fault Char :=
  if code < 0x110000 then .ok (Char.ofNat code)
  else if code < 0x80000000 then .error .codePointPastUnicode
  else .error .codePointTooLarge

/-- Takes line breaks with the blanks after them. A document marker may not follow a break. -/
def foldedBreaks : (fuel : Nat) → Place → Except Fault (Text × Place)
  | 0, p => .ok ([], p)
  | fuel + 1, p =>
    if p.atDocumentMarker then .error .malformed
    else
      let p := p.skipWhile isGap
      match p.lineBreak with
      | ([], _) => .ok ([], p)
      | (b, p) => (foldedBreaks fuel p).map fun r => (b ++ r.1, r.2)

/-- Reads what follows a backslash. -/
def quotedEscape (p : Place) : Except Fault (Text × Place) :=
  match p.next with
  | none => .error .malformed
  | some c =>
    match escapeLetter? c, escapeWidth? c with
    | some d, _ => .ok ([d], p.advance)
    | none, some width =>
      let p := p.advance
      let digits := p.rest.take width
      if digits.length = width ∧ digits.all isHexDigit then
        (charOfCode (Text.digitsValue 16 digits)).map fun d => ([d], p.advanceBy width)
      else .error .malformed
    | none, none =>
      if isBreak c then foldedBreaks (p.rest.length + 1) p.lineBreak.2 else .error .malformed

def isQuotedSpecial (c : Char) : Bool :=
  c == '\x27' || c == '"' || c == '\\' || isGap c || isBreak c

/-- Reads up to a blank, a line break or the closing quote. -/
def quotedWord (double : Bool) : (fuel : Nat) → Place → Except Fault (Text × Place)
  | 0, p => .ok ([], p)
  | fuel + 1, p =>
    let (run, p) := p.splitWhile fun c => !isQuotedSpecial c
    let continued (t : Text) (p : Place) : Except Fault (Text × Place) :=
      (quotedWord double fuel p).map fun r => (run ++ t ++ r.1, r.2)
    match p.next with
    | some c =>
      if c = '\x27' ∧ !double ∧ p.ahead 1 = some '\x27' then continued [c] (p.advanceBy 2)
      else if (c = '\x27' ∧ double) ∨ ((c = '"' ∨ c = '\\') ∧ !double) then
        continued [c] p.advance
      else if c = '\\' then
        match quotedEscape p.advance with
        | .error e => .error e
        | .ok (t, p) => continued t p
      else .ok (run, p)
    | none => .ok (run, p)

/-- Reads blanks and line breaks between words. -/
def quotedSpaces (p : Place) : Except Fault (Text × Place) :=
  let (blanks, p) := p.splitWhile isGap
  match p.next with
  | none => .error .malformed
  | some c =>
    if isBreak c then
      let (b, p) := p.lineBreak
      (foldedBreaks (p.rest.length + 1) p).map fun r => (Place.folded b r.1, r.2)
    else .ok (blanks, p)

/-- Reads on up to the closing quote, which is taken. -/
def quotedFrom (double : Bool) : (fuel : Nat) → Place → Except Fault (Text × Place)
  | 0, _ => .error .malformed
  | fuel + 1, p =>
    if p.next = some (if double then '"' else '\x27') then .ok ([], p.advance)
    else
      match quotedSpaces p with
      | .error e => .error e
      | .ok (blanks, p) =>
        match quotedWord double (p.rest.length + 1) p with
        | .error e => .error e
        | .ok (word, p) => (quotedFrom double fuel p).map fun r => (blanks ++ word ++ r.1, r.2)

/-- Reads a quoted scalar from its opening quote on. -/
def quotedScalar (double : Bool) (p : Place) : Except Fault (Text × Place) :=
  let p := p.advance
  match quotedWord double (p.rest.length + 1) p with
  | .error e => .error e
  | .ok (word, p) =>
    (quotedFrom double (p.rest.length + 2) p).map fun r => (word ++ r.1, r.2)

end MaximalMunch.Yaml
