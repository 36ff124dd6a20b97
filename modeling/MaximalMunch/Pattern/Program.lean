import MaximalMunch.Pattern.CharTest
import MaximalMunch.Pattern.Parse

/-!
Patterns made ready for matching: the switches are worked into the tests, and a look-behind knows
how far it looks back. That distance has to be fixed, which is checked here, before anything else
that a later part of the pattern may be blamed for.
-/

namespace MaximalMunch.Pattern

/-- A condition on a place between characters. -/
inductive Spot where
  | textStart
  | lineStart
  | textEnd
  | lineEnd
  /-- The end of the text or of its last line. -/
  | lastEnd
  | boundary (ascii negated : Bool)
  deriving DecidableEq, Repr

inductive Program where
  | done
  | one (test : CharTest)
  | spot (s : Spot)
  | seq (first second : Program)
  | alt (first second : Program)
  | never
  | capture (number : Nat) (body : Program)
  | again (number : Nat) (fold : Fold)
  | look (back : Option Nat) (negated : Bool) (body : Program)
  | condition (number : Nat) (yes no : Program)
  | atomic (body : Program)
  | loopOne (greed : Greed) (least : Nat) (most : Option Nat) (test : CharTest)
  | loop (greed : Greed) (least : Nat) (most : Option Nat) (body : Program)

def Flags.fold (flags : Flags) : Fold :=
  if flags.has .ignoreCase then (if flags.has .unicode then .unicode else .ascii) else .exact

def Flags.asciiOnly (flags : Flags) : Bool := !flags.has .unicode

def Anchor.spot (flags : Flags) : Anchor → Spot
  | .textStart => .textStart
  | .textEnd => .textEnd
  | .lineStart => if flags.has .multiLine then .lineStart else .textStart
  | .lineEnd => if flags.has .multiLine then .lineEnd else .lastEnd
  | .boundary => .boundary flags.asciiOnly false
  | .noBoundary => .boundary flags.asciiOnly true

/-- The look-behind distances are below this. -/
def maxDistance : Nat := 4294967295

def fixedWidth (w : Width) : Except Error Nat :=
  if maxDistance < w.least then .error (.fault ⟨.lookBehindTooFar, none⟩)
  else if w.least ≠ w.most then .error (.fault ⟨.lookBehindNotFixed, none⟩)
  else .ok w.least

mutual

/-- The test that an item amounts to, if it is a single character. -/
def Tree.single? (flags : Flags) : Tree → Option CharTest
  | .char c => some (.literal flags.fold false c)
  | .notChar c => some (.literal flags.fold true c)
  | .any => some (if flags.has .dotAll then .anything else .anythingButNewline)
  | .set negated members => some (.set flags.fold flags.asciiOnly negated members)
  | .group none on off body => singleIn? (flags.within on off) body
  | _ => none

def singleIn? (flags : Flags) : List Tree → Option CharTest
  | [] => none
  | item :: rest => if rest.isEmpty then item.single? flags else none

end

mutual

def Tree.program (groups : List (Option Width)) (flags : Flags) : Tree → Except Error Program
  | .char c => .ok (.one (.literal flags.fold false c))
  | .notChar c => .ok (.one (.literal flags.fold true c))
  | .any => .ok (.one (if flags.has .dotAll then .anything else .anythingButNewline))
  | .set negated members => .ok (.one (.set flags.fold flags.asciiOnly negated members))
  | .anchor a => .ok (.spot (a.spot flags))
  | .branch alternatives => choiceProgram groups flags alternatives
  | .loop greed least most body =>
    if flags.has .template then .error (.fault ⟨.repeatInTemplate greed, none⟩)
    else match singleIn? flags body with
      | some test => .ok (.loopOne greed least most test)
      | none => (sequenceProgram groups flags body).map (.loop greed least most)
  | .group number on off body =>
    (sequenceProgram groups (flags.within on off) body).map fun p =>
      match number with
      | some n => .capture n p
      | none => p
  | .atomic body => (sequenceProgram groups flags body).map .atomic
  | .look true negated body =>
    match fixedWidth (sequenceWidth groups body) with
    | .error e => .error e
    | .ok distance => (sequenceProgram groups flags body).map (.look (some distance) negated)
  | .look false negated body => (sequenceProgram groups flags body).map (.look none negated)
  | .again n => .ok (.again n flags.fold)
  | .condition n yes no =>
    match sequenceProgram groups flags yes with
    | .error e => .error e
    | .ok yes => (sequenceProgram groups flags no).map (.condition n yes)

def sequenceProgram (groups : List (Option Width)) (flags : Flags) :
    List Tree → Except Error Program
  | [] => .ok .done
  | item :: rest =>
    match item.program groups flags with
    | .error e => .error e
    | .ok first => (sequenceProgram groups flags rest).map (.seq first)

def choiceProgram (groups : List (Option Width)) (flags : Flags) :
    List (List Tree) → Except Error Program
  | [] => .ok .never
  | items :: rest =>
    match sequenceProgram groups flags items with
    | .error e => .error e
    | .ok first => (choiceProgram groups flags rest).map (.alt first)

end

/-- Reads a regular expression and makes it ready for matching. -/
def compile (regex : Text) : Except Error Program :=
  match Written.read regex with
  | .error e => .error e
  | .ok w => sequenceProgram w.groups w.flags w.items

end MaximalMunch.Pattern
