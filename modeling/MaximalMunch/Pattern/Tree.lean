import MaximalMunch.Pattern.Fault
import MaximalMunch.Pattern.Flag

/-!
Patterns as they are written: a sequence of items, where an item may hold sequences again. Literal
characters are code points, so that an escape may name a code point that no text contains.

The width of a sequence is the least and the greatest number of characters that it can match, the
greatest being cut off at `widthLimit`.
-/

namespace MaximalMunch.Pattern

inductive Category where
  | digit
  | space
  | word
  deriving DecidableEq, Repr

inductive Member where
  | char (c : Nat)
  | range (lo hi : Nat)
  | category (kind : Category) (negated : Bool)
  deriving DecidableEq, Repr

inductive Anchor where
  | textStart
  | lineStart
  | lineEnd
  | textEnd
  | boundary
  | noBoundary
  deriving DecidableEq, Repr

inductive Tree where
  | char (c : Nat)
  | notChar (c : Nat)
  | any
  | set (negated : Bool) (members : List Member)
  | anchor (a : Anchor)
  | branch (alternatives : List (List Tree))
  | loop (greed : Greed) (least : Nat) (most : Option Nat) (body : List Tree)
  | group (number : Option Nat) (on off : Flags) (body : List Tree)
  | atomic (body : List Tree)
  | look (behind negated : Bool) (body : List Tree)
  | again (number : Nat)
  | condition (number : Nat) (yes : List Tree) (no : List Tree)

/-- Whether two items are the same item without parts of its own. -/
def Tree.sameAtom : Tree → Tree → Bool
  | .char c, .char d => c == d
  | .notChar c, .notChar d => c == d
  | .any, .any => true
  | .set n m, .set n' m' => n == n' && m == m'
  | .anchor a, .anchor b => a == b
  | .again n, .again m => n == m
  | _, _ => false

structure Width where
  least : Nat
  most : Nat
  deriving DecidableEq, Repr

def widthLimit : Nat := 0x10000000000000000

namespace Width

def zero : Width := ⟨0, 0⟩

def one : Width := ⟨1, 1⟩

def add (a b : Width) : Width := ⟨a.least + b.least, a.most + b.most⟩

def cut (a : Width) : Width := ⟨min a.least widthLimit, min a.most widthLimit⟩

def either (a b : Width) : Width := ⟨min a.least b.least, max a.most b.most⟩

def times (a : Width) (least : Nat) (most : Option Nat) : Width :=
  ⟨a.least * least,
    match most with
    | some n => a.most * n
    | none => if a.most = 0 then 0 else widthLimit⟩

end Width

mutual

/-- The width of an item, given the widths of the closed groups. -/
def Tree.width (groups : List (Option Width)) : Tree → Width
  | .char _ | .notChar _ | .any | .set _ _ => .one
  | .anchor _ | .look _ _ _ => .zero
  | .branch alternatives => narrowest groups alternatives
  | .loop _ least most body => (sequenceWidth groups body).times least most
  | .group _ _ _ body | .atomic body => sequenceWidth groups body
  | .again n => ((groups[n - 1]?).join).getD .zero
  | .condition _ yes no => (sequenceWidth groups yes).either (sequenceWidth groups no)

def sequenceWidth (groups : List (Option Width)) : List Tree → Width
  | [] => .zero
  | item :: rest => ((item.width groups).add (sequenceWidth groups rest)).cut

def narrowest (groups : List (Option Width)) : List (List Tree) → Width
  | [] => ⟨widthLimit, 0⟩
  | first :: rest => (sequenceWidth groups first).either (narrowest groups rest)

end

end MaximalMunch.Pattern
