import MaximalMunch.Text

/-!
Places in a YAML text: what is left to read, and where that is by index, line and column.
-/

namespace MaximalMunch.Yaml

def isBreak (c : Char) : Bool :=
  c == '\n' || c == '\r' || c == '\x85' || c == '\u2028' || c == '\u2029'

/-- Blanks inside a line. -/
def isGap (c : Char) : Bool := c == ' ' || c == '\t'

def isSpace (c : Char) : Bool := c == ' '

/-- Whether a line ends here. Nothing at all is the end of the text. -/
def endsLine : Option Char → Bool
  | none => true
  | some c => isBreak c

/-- Whether a blank or the end of the line comes here. -/
def endsItem : Option Char → Bool
  | none => true
  | some c => isGap c || isBreak c

/-- Whether a space, not a tab, or the end of the line comes here. -/
def endsWord : Option Char → Bool
  | none => true
  | some c => isSpace c || isBreak c

/-- Whether a character may occur in YAML at all. -/
def isAllowed (c : Char) : Bool :=
  let n := c.toNat
  n == 0x09 || n == 0x0A || n == 0x0D || (0x20 ≤ n && n ≤ 0x7E) || n == 0x85 ||
    (0xA0 ≤ n && n ≤ 0xFFFD) || 0x10000 ≤ n

structure Place where
  rest : Text
  index : Nat
  line : Nat
  column : Nat
  deriving DecidableEq, Repr

namespace Place

def start (t : Text) : Place := ⟨t, 0, 0, 0⟩

def next (p : Place) : Option Char := p.rest.head?

def ahead (p : Place) (n : Nat) : Option Char := p.rest[n]?

def isEnd (p : Place) : Bool := p.rest.isEmpty

/-- Goes over one character. A byte order mark takes no column. -/
def advance (p : Place) : Place :=
  match p.rest with
  | [] => p
  | c :: rest =>
    if isBreak c && !(c == '\r' && rest.head? == some '\n') then ⟨rest, p.index + 1, p.line + 1, 0⟩
    else ⟨rest, p.index + 1, p.line, if c = '\uFEFF' then p.column else p.column + 1⟩

def advanceBy (p : Place) : Nat → Place
  | 0 => p
  | n + 1 => p.advance.advanceBy n

/-- Takes the longest run of characters in `q`. -/
def splitWhile (q : Char → Bool) (p : Place) : Text × Place :=
  let run := p.rest.takeWhile q
  (run, p.advanceBy run.length)

def skipWhile (q : Char → Bool) (p : Place) : Place := (p.splitWhile q).2

/-- Takes one line break, which reads as a line feed unless it is a separator of its own kind. -/
def lineBreak (p : Place) : Text × Place :=
  match p.rest with
  | '\r' :: '\n' :: _ => (['\n'], p.advanceBy 2)
  | c :: _ =>
    if c == '\n' || c == '\r' || c == '\x85' then (['\n'], p.advance)
    else if isBreak c then ([c], p.advance)
    else ([], p)
  | [] => ([], p)

/-- Whether three such characters stand here alone. -/
def isMarker (p : Place) (c : Char) : Bool :=
  p.rest.take 3 == [c, c, c] && endsItem (p.ahead 3)

/-- At the beginning of a line, a marker ends the document. -/
def atDocumentMarker (p : Place) : Bool := p.isMarker '-' || p.isMarker '.'

/-- What breaks between lines of a scalar read as: a single one is folded into a space. -/
def folded (first more : Text) : Text :=
  (if first ≠ ['\n'] then first else if more.isEmpty then [' '] else []) ++ more

/-- Skips the rest of a line that may hold a comment only; none if it holds more. -/
def ignoredLine? (p : Place) : Option Place :=
  let p := p.skipWhile isSpace
  let p := if p.next = some '#' then p.skipWhile (fun c => !isBreak c) else p
  if endsLine p.next then some p.lineBreak.2 else none

end Place
end MaximalMunch.Yaml
