import MaximalMunch.Pattern.Tree
import MaximalMunch.Text
import MaximalMunch.Text.Case
import MaximalMunch.Text.Letter
import MaximalMunch.Text.Numeric

/-!
Tests on single characters. Where case is ignored, the character is brought to lower case and the
members of the test have been brought to lower case with all their twins, the letters that share an
upper case form with them. Members beyond the first 65536 code points are an exception: a single
one is kept as written, and a range that reaches them tests the lower and the upper form.
-/

namespace MaximalMunch.Pattern

inductive Fold where
  | exact
  | ascii
  | unicode
  deriving DecidableEq, Repr

def Fold.apply : Fold → Nat → Nat
  | .exact, c => c
  | .ascii, c => Text.lowerAscii c
  | .unicode, c => Text.lower c

def Fold.changes : Fold → Nat → Bool
  | .exact, _ => false
  | .ascii, c => (0x41 ≤ c && c ≤ 0x5A) || (0x61 ≤ c && c ≤ 0x7A)
  | .unicode, c => Text.isCased c

def Fold.twins : Fold → Nat → List Nat
  | .unicode, c => Text.lowerTwins c
  | _, _ => []

/-- The characters that a lower case form may come from. -/
def Fold.sources : Fold → Nat → List Nat
  | .exact, c => [c]
  | .ascii, c =>
    if 0x61 ≤ c && c ≤ 0x7A then [c, c - 32] else if 0x41 ≤ c && c ≤ 0x5A then [] else [c]
  | .unicode, c => Text.lowersTo c

/-- Whether a code point belongs to a category, in ASCII alone or in all of Unicode. -/
def Category.holds (ascii : Bool) (c : Nat) : Category → Bool
  | .digit =>
    if c < 0x80 then 0x30 ≤ c && c ≤ 0x39 else !ascii && Text.inRanges Text.decimalRanges c
  | .space =>
    if ascii then (9 ≤ c && c ≤ 13) || c == 32 else Text.inRanges Text.blankRanges c
  | .word =>
    if c < 0x80 then
      (0x30 ≤ c && c ≤ 0x39) || (0x41 ≤ c && c ≤ 0x5A) || (0x61 ≤ c && c ≤ 0x7A) || c == 0x5F
    else !ascii && (Text.inRanges Text.letterRanges c || Text.inRanges Text.numericRanges c)

inductive TestMember where
  | char (c : Nat)
  | range (lo hi : Nat)
  /-- A lower case form, or a twin of one, of a character in the range. -/
  | loweredRange (fold : Fold) (lo hi : Nat)
  /-- The character or its upper case form lies in the range. -/
  | eitherCaseRange (lo hi : Nat)
  | category (kind : Category) (ascii negated : Bool)
  deriving DecidableEq, Repr

def inRange (lo hi c : Nat) : Bool := lo ≤ c && c ≤ hi

def TestMember.holds (c : Nat) : TestMember → Bool
  | .char d => c == d
  | .range lo hi => inRange lo hi c
  | .loweredRange fold lo hi =>
    (fold.sources c).any (inRange lo hi) ||
      (fold.twins c).any fun d => (fold.sources d).any (inRange lo hi)
  | .eitherCaseRange lo hi => inRange lo hi c || inRange lo hi (Text.upper c)
  | .category kind ascii negated => kind.holds ascii c != negated

structure CharTest where
  fold : Fold
  negated : Bool
  members : List TestMember
  deriving DecidableEq, Repr

def CharTest.holds (t : CharTest) (c : Char) : Bool :=
  let n := t.fold.apply c.toNat
  t.members.any (·.holds n) != t.negated

namespace CharTest

def anything : CharTest := ⟨.exact, true, []⟩

def anythingButNewline : CharTest := ⟨.exact, true, [.char 10]⟩

def literal (fold : Fold) (negated : Bool) (c : Nat) : CharTest :=
  if fold.changes c then
    let low := fold.apply c
    ⟨fold, negated, .char low :: (fold.twins low).map .char⟩
  else ⟨.exact, negated, [.char c]⟩

def firstPlane : Nat := 0xFFFF

/-- What becomes of a member of a set where case is folded. -/
def foldMember (fold : Fold) (ascii : Bool) : Member → List TestMember
  | .char c =>
    let low := fold.apply c
    if low ≤ firstPlane then .char low :: (fold.twins low).map .char else [.char c]
  | .range lo hi =>
    if hi ≤ firstPlane then [.loweredRange fold lo hi]
    else if lo ≤ firstPlane then [.loweredRange fold lo firstPlane, .eitherCaseRange lo hi]
    else [.eitherCaseRange lo hi]
  | .category kind negated => [.category kind ascii negated]

def plainMember (ascii : Bool) : Member → TestMember
  | .char c => .char c
  | .range lo hi => .range lo hi
  | .category kind negated => .category kind ascii negated

def set (fold : Fold) (ascii negated : Bool) (members : List Member) : CharTest :=
  if fold = .exact then ⟨.exact, negated, members.map (plainMember ascii)⟩
  else ⟨fold, negated, members.flatMap (foldMember fold ascii)⟩

end CharTest
end MaximalMunch.Pattern
