import MaximalMunch.Yaml.Fault
import MaximalMunch.Yaml.Place

/-!
Block scalars. The lines of the scalar are indented; a header says how the breaks at the end are
chomped and, if need be, how deep the lines are. In the folded style, a break between two lines that
do not begin with a blank reads as a space.
-/

namespace MaximalMunch.Yaml

/-- What becomes of the line breaks at the end: none is kept, the first one, or all. -/
inductive Chomping where
  | strip
  | clip
  | keep
  deriving DecidableEq, Repr

structure BlockHeader where
  chomping : Chomping
  increment : Option Nat
  deriving DecidableEq, Repr

def chomping? (p : Place) : Option Chomping :=
  match p.next with
  | some '+' => some .keep
  | some '-' => some .strip
  | _ => none

def digit? (p : Place) : Option Nat :=
  match p.next with
  | some c => if c.isDigit then some (c.toNat - 48) else none
  | none => none

/-- Chomping and indentation may be given in either order. -/
def blockHeader (p : Place) : Except Fault (BlockHeader × Place) :=
  let (header, p) :=
    match chomping? p with
    | some chomping =>
      let p := p.advance
      match digit? p with
      | some n => ((⟨chomping, some n⟩ : BlockHeader), p.advance)
      | none => (⟨chomping, none⟩, p)
    | none =>
      match digit? p with
      | some n =>
        let p := p.advance
        match chomping? p with
        | some chomping => (⟨chomping, some n⟩, p.advance)
        | none => (⟨.clip, some n⟩, p)
      | none => (⟨.clip, none⟩, p)
  if header.increment = some 0 ∨ !endsWord p.next then .error .malformed
  else
    match p.ignoredLine? with
    | some p => .ok (header, p)
    | none => .error .malformed

/-- Skips up to `n` spaces. -/
def skipSpaces (p : Place) : (n : Nat) → Place
  | 0 => p
  | n + 1 => if p.next = some ' ' then skipSpaces p.advance n else p

/-- Takes empty lines and goes on to the given column. -/
def blockBreaks (indent : Nat) : (fuel : Nat) → Place → Text × Place
  | 0, p => ([], p)
  | fuel + 1, p =>
    let p := skipSpaces p (indent - p.column)
    match p.lineBreak with
    | ([], _) => ([], p)
    | (b, p) => let (more, p) := blockBreaks indent fuel p; (b ++ more, p)

/-- Takes empty lines and finds the deepest column of the lines up to the first text. -/
def blockIndentation : (fuel deepest : Nat) → Place → Text × Nat × Place
  | 0, deepest, p => ([], deepest, p)
  | fuel + 1, deepest, p =>
    if p.next = some ' ' then
      let p := p.advance
      blockIndentation fuel (max deepest p.column) p
    else
      match p.lineBreak with
      | ([], _) => ([], deepest, p)
      | (b, p) => let (more, r) := blockIndentation fuel deepest p; (b ++ more, r)

def startsBlank (p : Place) : Bool := p.next == some ' ' || p.next == some '\t'

structure BlockBody where
  content : Text
  /-- The break after the last line. -/
  last : Text
  /-- The breaks after that. -/
  trailing : Text
  place : Place

/-- Reads lines, with the breaks before the first one. -/
def blockBody (folds : Bool) (indent : Nat) : (fuel : Nat) → Text → Place → BlockBody
  | 0, breaks, p => ⟨[], [], breaks, p⟩
  | fuel + 1, breaks, p =>
    if p.column = indent ∧ !p.isEnd then
      let blank := startsBlank p
      let (line, p) := p.splitWhile fun c => !isBreak c
      let (last, p) := p.lineBreak
      let (more, p) := blockBreaks indent (p.rest.length + 1) p
      if p.column = indent ∧ !p.isEnd then
        let joint :=
          if folds && last == ['\n'] && !blank && !startsBlank p then
            if more.isEmpty then [' '] else []
          else last
        let body := blockBody folds indent fuel more p
        { body with content := breaks ++ line ++ joint ++ body.content }
      else ⟨breaks ++ line, last, more, p⟩
    else ⟨[], [], breaks, p⟩

/-- Reads a block scalar from its indicator on, inside a block of the given column. -/
def blockScalar (folds : Bool) (outer : Int) (p : Place) : Except Fault (Text × Place) :=
  match blockHeader p.advance with
  | .error e => .error e
  | .ok (header, p) =>
    let least := max 1 (outer + 1).toNat
    let fuel := p.rest.length + 1
    let (breaks, indent, p) :=
      match header.increment with
      | none =>
        let (breaks, deepest, p) := blockIndentation fuel 0 p
        (breaks, max least deepest, p)
      | some n =>
        let indent := least + n - 1
        let (breaks, p) := blockBreaks indent fuel p
        (breaks, indent, p)
    let body := blockBody folds indent fuel breaks p
    let tail :=
      match header.chomping with
      | .strip => []
      | .clip => body.last
      | .keep => body.last ++ body.trailing
    .ok (body.content ++ tail, body.place)

end MaximalMunch.Yaml
