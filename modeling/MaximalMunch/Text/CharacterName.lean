import MaximalMunch.Text.NameTable
import MaximalMunch.Text.Numeral

/-!
Characters by their names in Unicode 14. A name is looked up in the table, without regard to the case
of its letters. The names of most ideographs end in their code points, and a Hangul syllable is named
by its letters.
-/

namespace MaximalMunch.CharacterName

def upperAscii (c : Char) : Char :=
  if 'a' ≤ c && c ≤ 'z' then Char.ofNat (c.toNat - 32) else c

/-! ### The table -/

/-- A name as its words. -/
abbrev Words := List Text

/-- A word that is read backwards is moved on by one: a letter at its end, or the numeral there. -/
def movedOn : Text → Text
  | [] => []
  | [c] => [Char.ofNat (c.toNat + 1)]
  | c :: d :: rest =>
    if c = '9' then '0' :: (if d.isDigit then movedOn (d :: rest) else '1' :: d :: rest)
    else Char.ofNat (c.toNat + 1) :: d :: rest

/-- The names that follow a name one by one. -/
def series : Nat → Words → List Words
  | 0, _ => []
  | count + 1, last =>
    let next := last.dropLast ++ (last.getLast?.map fun w => (movedOn w.reverse).reverse).toList
    next :: series count next

/-- The name of an entry, which may keep words of the name before it. -/
def revised (last : Words) (entry : Text) : Words :=
  let first := entry.takeWhile Char.isDigit
  let own := (entry.drop first.length).takeWhile (· ≠ '/')
  let kept := Text.digitsValue 10 ((entry.dropWhile (· ≠ '/')).drop 1)
  last.take (Text.digitsValue 10 first) ++ Text.parts ' ' own ++ last.drop (last.length - kept)

def expanded : (last : Words) → List Text → List Words
  | _, [] => []
  | last, ('+' :: count) :: rest =>
    let names := series (Text.digitsValue 10 count) last
    names ++ expanded (names.getLastD last) rest
  | last, entry :: rest =>
    let name := revised last entry
    name :: expanded name rest

/-- The entries of a run, which may begin on lines of their own. -/
def entries (run : String) : List Text :=
  (Text.parts ';' run.toList).map fun entry => entry.dropWhile Char.isWhitespace

/-- The code point of a name in a run. -/
def inRun? (name : Words) (run : Nat × String) : Option Nat :=
  ((expanded [] (entries run.2)).idxOf? name).map (run.1 + ·)

/-! ### Names that are computed -/

def isUpperHex (c : Char) : Bool := c.isDigit || ('A' ≤ c && c ≤ 'F')

/-- The code point at the end of a name, if the name begins as those of the characters in `ranges`. -/
def numbered? (name : Text) (family : String × List (Nat × Nat)) : Option Nat :=
  match family.1.toList.isPrefixOf? name with
  | some digits =>
    let n := Text.digitsValue 16 digits
    if digits.all isUpperHex && digits.length == (if n < 0x10000 then 4 else 5) &&
        Text.inRanges family.2 n then some n
    else none
  | none => none

/-- Names in capital letters only. With four digits there may be a zero in front of them. -/
def unifiedIdeographs : List (String × List (Nat × Nat)) :=
  [("CJK UNIFIED IDEOGRAPH-",
      [(0x3400, 0x4DBF), (0x4E00, 0x9FFF), (0x20000, 0x2A6DF), (0x2A700, 0x2B738),
        (0x2B740, 0x2B81D), (0x2B820, 0x2CEA1), (0x2CEB0, 0x2EBE0), (0x30000, 0x3134A)]),
    ("CJK UNIFIED IDEOGRAPH-0", [(0x3400, 0x4DBF), (0x4E00, 0x9FFF)])]

def otherIdeographs : List (String × List (Nat × Nat)) :=
  [("CJK COMPATIBILITY IDEOGRAPH-", [(0xF900, 0xFA6D), (0xFA70, 0xFAD9), (0x2F800, 0x2FA1D)]),
    ("KHITAN SMALL SCRIPT CHARACTER-", [(0x18B00, 0x18CD5)]),
    ("NUSHU CHARACTER-", [(0x1B170, 0x1B2FB)])]

def leadingLetters : List String :=
  ["G", "GG", "N", "D", "DD", "R", "M", "B", "BB", "S", "SS", "", "J", "JJ", "C", "K", "T", "P", "H"]

def vowels : List String :=
  ["A", "AE", "YA", "YAE", "EO", "E", "YEO", "YE", "O", "WA", "WAE", "OE", "YO", "U", "WEO", "WE",
   "WI", "YU", "EU", "YI", "I"]

def trailingLetters : List String :=
  ["", "G", "GG", "GS", "N", "NJ", "NH", "D", "L", "LG", "LM", "LB", "LS", "LT", "LP", "LH", "M", "B",
   "BS", "S", "SS", "NG", "J", "C", "K", "T", "P", "H"]

/-- The number of the longest of the letters that the text begins with, and the text behind it. -/
def longestLetter? (letters : List String) (t : Text) : Option (Nat × Text) :=
  let fitting := letters.zipIdx.filter fun letter => letter.1.toList.isPrefixOf t
  let longest := fitting.foldl (fun best letter =>
    match best with
    | some b => if b.1.length < letter.1.length then some letter else best
    | none => some letter) none
  longest.map fun letter => (letter.2, t.drop letter.1.length)

def syllable? (name : Text) : Option Nat := do
  let letters ← "HANGUL SYLLABLE ".toList.isPrefixOf? name
  let (leading, rest) ← longestLetter? leadingLetters letters
  let (vowel, rest) ← longestLetter? vowels rest
  let (trailing, rest) ← longestLetter? trailingLetters rest
  if rest.isEmpty then
    some (0xAC00 + (leading * vowels.length + vowel) * trailingLetters.length + trailing)
  else none

/-- The code point of the character of this name. -/
def codePoint? (name : Text) : Option Nat :=
  let upper := name.map upperAscii
  syllable? name <|> unifiedIdeographs.findSome? (numbered? name) <|>
    otherIdeographs.findSome? (numbered? upper) <|>
      (nameRuns ++ aliasRuns).findSome? (inRun? (Text.parts ' ' upper))

end MaximalMunch.CharacterName
