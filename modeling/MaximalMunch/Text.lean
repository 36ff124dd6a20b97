/-!
Texts are lists of Unicode scalar values. Cuts and look-ups take signed positions: a negative
position counts from the end, and a cut keeps both of its ends inside the text. Classes of
characters are given as closed ranges of code points, in ascending order.
-/

namespace MaximalMunch

abbrev Text := List Char

namespace Text

/-- The place that a signed position names in a text of the given size. -/
def clamp (size : Nat) (i : Int) : Nat :=
  if i < 0 then (i + size).toNat else min i.toNat size

/-- The characters from position `lo` up to position `hi`. -/
def slice (t : Text) (lo hi : Int) : Text :=
  (t.take (clamp t.length hi)).drop (clamp t.length lo)

def charAt? (t : Text) (i : Int) : Option Char :=
  if i < 0 then
    if i + t.length < 0 then none else t[(i + t.length).toNat]?
  else t[i.toNat]?

/-- Drops the longest run of characters in `p` from both ends. -/
def trimBoth (p : Char → Bool) (t : Text) : Text :=
  ((t.dropWhile p).reverse.dropWhile p).reverse

/-- The parts of a text between the separators. -/
def parts (separator : Char) : Text → List Text
  | [] => [[]]
  | c :: rest =>
    if c = separator then [] :: parts separator rest
    else
      match parts separator rest with
      | [] => [[c]]
      | part :: more => (c :: part) :: more

/-! ### Classes of characters -/

def inRanges (ranges : List (Nat × Nat)) (c : Nat) : Bool :=
  ranges.any fun r => r.1 ≤ c && c ≤ r.2

/-- White space: the characters that Unicode 14 classes as separators or whose bidirectional class
is a space, a paragraph or a segment separator. -/
def blankRanges : List (Nat × Nat) :=
  [(9, 0xD), (0x1C, 0x20), (0x85, 0x85), (0xA0, 0xA0), (0x1680, 0x1680), (0x2000, 0x200A),
   (0x2028, 0x2029), (0x202F, 0x202F), (0x205F, 0x205F), (0x3000, 0x3000)]

def isBlank (c : Char) : Bool := inRanges blankRanges c.toNat

end Text
end MaximalMunch
