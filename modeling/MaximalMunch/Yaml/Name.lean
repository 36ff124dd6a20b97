import MaximalMunch.Text.Utf8
import MaximalMunch.Yaml.QuotedScalar

/-!
The symbols that a YAML text is made of, and those of its parts that are names: anchors, tags with their
handles, and directives. Indentation is told by symbols of its own, which begin and end block
collections; a directive stands before a document. What may follow a name differs from one to the other.
-/

namespace MaximalMunch.Yaml

inductive Directive where
  | version (major minor : Nat)
  | tagHandle (handle expansion : Text)
  | other
  deriving DecidableEq, Repr

inductive Symbol where
  | directive (d : Directive)
  | documentStart
  | documentEnd
  | openBlockSequence
  | openBlockMapping
  | closeBlock
  | openSequence
  | closeSequence
  | openMapping
  | closeMapping
  | dash
  | comma
  /-- A key follows, announced by a question mark or known by the colon behind it. -/
  | key
  /-- A colon: the value of the key follows. -/
  | value
  | alias (name : Text)
  | anchor (name : Text)
  /-- A tag without a handle is complete as it stands. -/
  | tag (handle : Option Text) (suffix : Text)
  | scalar (text : Text) (plain : Bool)
  | textEnd
  deriving DecidableEq, Repr

def isNameChar (c : Char) : Bool := c.isAlphanum || c == '-' || c == '_'

def endsAnchor : Option Char → Bool
  | none => true
  | some c => isGap c || isBreak c || "?:,]\x7d%@\x60".toList.contains c

/-- Reads the name of an anchor or of an alias from its indicator on. -/
def anchorName (p : Place) : Except Fault (Text × Place) :=
  let (name, p) := p.advance.splitWhile isNameChar
  if name.isEmpty || !endsAnchor p.next then .error .malformed else .ok (name, p)

def isUriChar (c : Char) : Bool := c.isAlphanum || "-;/?:@&=+$,_.!~*'()[]".toList.contains c

/-- Takes bytes written as a percent sign and two hexadecimal digits each. -/
def uriBytes : (fuel : Nat) → Place → Except Fault (List UInt8 × Place)
  | 0, p => .ok ([], p)
  | fuel + 1, p =>
    if p.next = some '%' then
      let digits := p.advance.rest.take 2
      if digits.length = 2 ∧ digits.all isHexDigit then
        let byte := Text.digitsValue 16 digits
        (uriBytes fuel (p.advanceBy 3)).map fun r => (.ofNat byte :: r.1, r.2)
      else .error .malformed
    else .ok ([], p)

def uriFrom : (fuel : Nat) → Place → Except Fault (Text × Place)
  | 0, p => .ok ([], p)
  | fuel + 1, p =>
    match p.next with
    | none => .ok ([], p)
    | some c =>
      if c = '%' then
        match uriBytes (p.rest.length + 1) p with
        | .error e => .error e
        | .ok (bytes, p) =>
          match Utf8.decode bytes with
          | .error _ => .error .malformed
          | .ok t => (uriFrom fuel p).map fun r => (t ++ r.1, r.2)
      else if isUriChar c then (uriFrom fuel p.advance).map fun r => (c :: r.1, r.2)
      else .ok ([], p)

/-- Reads a resource identifier, which may not be empty. -/
def uri (p : Place) : Except Fault (Text × Place) :=
  match uriFrom (p.rest.length + 1) p with
  | .error e => .error e
  | .ok (t, q) => if q.index = p.index then .error .malformed else .ok (t, q)

/-- Reads a tag handle: an exclamation mark, or a name between two of them. -/
def tagHandle (p : Place) : Except Fault (Text × Place) :=
  if p.next ≠ some '!' then .error .malformed
  else if p.ahead 1 = some ' ' then .ok (['!'], p.advance)
  else
    let (name, p) := p.advance.splitWhile isNameChar
    if p.next = some '!' then .ok (['!'] ++ name ++ ['!'], p.advance) else .error .malformed

/-- Whether an exclamation mark comes before the word ends. -/
def hasHandle : Text → Bool
  | [] => false
  | c :: rest => if isSpace c || isBreak c then false else c == '!' || hasHandle rest

/-- Reads a tag from its exclamation mark on. -/
def tagSymbol (p : Place) : Except Fault (Symbol × Place) := do
  let (symbol, p) ←
    if p.ahead 1 = some '<' then do
      let (suffix, p) ← uri (p.advanceBy 2)
      if p.next ≠ some '>' then throw .malformed
      pure (Symbol.tag none suffix, p.advance)
    else if endsItem (p.ahead 1) then pure (Symbol.tag none ['!'], p.advance)
    else if hasHandle p.advance.rest then do
      let (handle, p) ← tagHandle p
      let (suffix, p) ← uri p
      pure (Symbol.tag (some handle) suffix, p)
    else do
      let (suffix, p) ← uri p.advance
      pure (Symbol.tag (some ['!']) suffix, p)
  if endsWord p.next then return (symbol, p) else throw .malformed

def versionNumber (p : Place) : Except Fault (Nat × Place) :=
  let (digits, p) := p.splitWhile Char.isDigit
  if digits.isEmpty then .error .malformed
  else if Text.maxDigits < digits.length then .error (.numeralTooLong digits.length)
  else .ok (digits.foldl (fun n c => n * 10 + (c.toNat - 48)) 0, p)

def versionDirective (p : Place) : Except Fault (Directive × Place) := do
  let (major, p) ← versionNumber (p.skipWhile isSpace)
  if p.next ≠ some '.' then throw .malformed
  let (minor, p) ← versionNumber p.advance
  if endsWord p.next then return (.version major minor, p) else throw .malformed

def handleDirective (p : Place) : Except Fault (Directive × Place) := do
  let (handle, p) ← tagHandle (p.skipWhile isSpace)
  if p.next ≠ some ' ' then throw .malformed
  let (expansion, p) ← uri (p.skipWhile isSpace)
  if endsWord p.next then return (.tagHandle handle expansion, p) else throw .malformed

/-- Reads a directive from its percent sign to the end of its line. -/
def directiveSymbol (p : Place) : Except Fault (Symbol × Place) := do
  let (name, p) := p.advance.splitWhile isNameChar
  if name.isEmpty || !endsWord p.next then throw .malformed
  let (directive, p) ←
    if name = "YAML".toList then versionDirective p
    else if name = "TAG".toList then handleDirective p
    else pure (.other, p.skipWhile fun c => !isBreak c)
  match p.ignoredLine? with
  | some p => return (.directive directive, p)
  | none => throw .malformed

end MaximalMunch.Yaml
