import MaximalMunch.Yaml.Place

/-!
Plain scalars. They are not quoted, so they end where an indicator may stand: at a colon before a
blank, at a comment, and inside flow collections at their punctuation. They may go over several
lines that are indented enough.
-/

namespace MaximalMunch.Yaml

def isFlowPunctuation (c : Char) : Bool :=
  c == ',' || c == '[' || c == ']' || c == '\x7b' || c == '\x7d'

/-- Whether a plain scalar ends before `c`, which is followed by `after`. -/
def endsPlain (inFlow : Bool) (c : Char) (after : Option Char) : Bool :=
  isGap c || isBreak c ||
    (c == ':' && (endsItem after || (inFlow && after.any isFlowPunctuation))) ||
    (inFlow && (c == '?' || isFlowPunctuation c))

def plainRun (inFlow : Bool) : Text → Text
  | [] => []
  | c :: rest => if endsPlain inFlow c rest.head? then [] else c :: plainRun inFlow rest

/-- Takes further line breaks and spaces. There are none to go on after if a document marker
follows. -/
def plainBreaks : (fuel : Nat) → Place → Option Text × Place
  | 0, p => (some [], p)
  | fuel + 1, p =>
    if p.next = some ' ' then plainBreaks fuel p.advance
    else
      match p.lineBreak with
      | ([], _) => (some [], p)
      | (b, p) =>
        if p.atDocumentMarker then (none, p)
        else let (more, p) := plainBreaks fuel p; (more.map (b ++ ·), p)

/-- Blanks inside a plain scalar, and whether there was a line break among them. -/
structure PlainSpaces where
  spaces : Text
  broke : Bool
  place : Place

def plainSpaces (p : Place) : PlainSpaces :=
  let (blanks, p) := p.splitWhile isSpace
  match p.lineBreak with
  | ([], _) => ⟨blanks, false, p⟩
  | (b, p) =>
    if p.atDocumentMarker then ⟨[], true, p⟩
    else
      match plainBreaks (p.rest.length + 1) p with
      | (none, p) => ⟨[], true, p⟩
      | (some more, p) => ⟨Place.folded b more, true, p⟩

structure PlainScalar where
  text : Text
  /-- Whether the reading stopped at the beginning of a line. -/
  broke : Bool
  place : Place

/-- Reads on after the given spaces. -/
def plainFrom (inFlow : Bool) (indent : Int) : (fuel : Nat) → PlainSpaces → PlainScalar
  | 0, s => ⟨[], s.broke, s.place⟩
  | fuel + 1, s =>
    let run := if s.place.next = some '#' then [] else plainRun inFlow s.place.rest
    if run.isEmpty then ⟨[], s.broke, s.place⟩
    else
      let after := plainSpaces (s.place.advanceBy run.length)
      if after.spaces.isEmpty || after.place.next == some '#' ||
          (!inFlow && after.place.column < indent) then
        ⟨s.spaces ++ run, after.broke, after.place⟩
      else
        let more := plainFrom inFlow indent fuel after
        { more with text := s.spaces ++ run ++ more.text }

/-- Reads a plain scalar inside a block of the given column. -/
def plainScalar (inFlow : Bool) (outer : Int) (p : Place) : PlainScalar :=
  plainFrom inFlow (outer + 1) (p.rest.length + 1) ⟨[], false, p⟩

end MaximalMunch.Yaml
