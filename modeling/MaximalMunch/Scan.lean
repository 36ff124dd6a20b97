import MaximalMunch.Grammar

/-!
A scan in progress. The text is seen through a window from `pos` to `stop`; tokens are cut off its
front, and trimming draws blanks off both ends. The text itself never changes. Every operation gives
its result together with the scan after it, because a failing operation may have trimmed before. The
longest match at the start of the window wins; of equally long ones the match of the type that is
declared first.
-/

namespace MaximalMunch

inductive ScanError where
  | noGrammar
  | unmatched (rest : Text)
  /-- A bound of the window was moved to where the text has no character. -/
  | outsideText
  deriving DecidableEq, Repr

namespace ScanError

def message : ScanError → Text
  | .noGrammar => "No grammar set".toList
  | .unmatched rest => "No lexical element matches \"".toList ++ rest ++ "\"".toList
  | .outsideText => "string index out of range".toList

end ScanError

structure Scan where
  grammar : Option Grammar
  text : Text
  pos : Int
  stop : Int
  /-- The number of tokens cut off so far. -/
  matched : Nat
  deriving DecidableEq

namespace Scan

/-! ### The choice among token types -/

structure Longest where
  /-- The place of the type in the order of declaration. -/
  index : Nat
  type : TokenType
  length : Nat
  deriving DecidableEq

/-- Only a strictly longer match takes the place of the best one so far. -/
def better (best : Option Longest) (index : Nat) (type : TokenType) : Option Nat → Option Longest
  | none => best
  | some length =>
    match best with
    | none => some ⟨index, type, length⟩
    | some b => if b.length < length then some ⟨index, type, length⟩ else best

/-- Goes through the types from place `index` on. -/
def longestFrom (text : Array Char) (index : Nat) (best : Option Longest) :
    List TokenType → Option Longest
  | [] => best
  | t :: rest =>
    longestFrom text (index + 1) (better best index t (t.program.matchLength? text)) rest

def longest? (types : List TokenType) (text : Text) : Option Longest :=
  longestFrom text.toArray 0 none types

/-! ### The window -/

def start (grammar : Option Grammar) (text : Text) : Scan := ⟨grammar, text, 0, text.length, 0⟩

def remaining (s : Scan) : Text := Text.slice s.text s.pos s.stop

def atEnd (s : Scan) : Bool := s.stop ≤ s.pos

/-- Cuts the next `count` characters off, fewer where the window ends before. -/
def eat (s : Scan) (count : Int) : Text × Scan :=
  let pos := min (s.pos + count) s.stop
  (Text.slice s.text s.pos pos, { s with pos })

/-- The number of characters that the window can still lose. -/
def size (s : Scan) : Nat := (s.stop - s.pos).toNat

/-- Moves the front of the window over at most so many blanks. -/
def trimFrontBy (s : Scan) : Nat → Except ScanError Unit × Scan
  | 0 => (.ok (), s)
  | fuel + 1 =>
    match s.text.charAt? s.pos with
    | none => (.error .outsideText, s)
    | some c =>
      if Text.isBlank c then trimFrontBy { s with pos := s.pos + 1 } fuel else (.ok (), s)

def trimFront (s : Scan) : Except ScanError Unit × Scan := s.trimFrontBy s.size

/-- Moves the back of the window over at most so many blanks. -/
def trimBackBy (s : Scan) : Nat → Except ScanError Unit × Scan
  | 0 => (.ok (), s)
  | fuel + 1 =>
    match s.text.charAt? (s.stop - 1) with
    | none => (.error .outsideText, s)
    | some c =>
      if Text.isBlank c then trimBackBy { s with stop := s.stop - 1 } fuel else (.ok (), s)

def trimBack (s : Scan) : Except ScanError Unit × Scan := s.trimBackBy s.size

/-- What trimming takes away before a token is looked for: blanks at the back, and those at the
front as long as no token has been cut off. -/
def trimOutside (s : Scan) : Except ScanError Unit × Scan :=
  match s.trimBack with
  | (.error e, s) => (.error e, s)
  | (.ok _, s) => if s.matched = 0 then s.trimFront else (.ok (), s)

/-- Cuts a chosen match off the front. -/
def cut (s : Scan) (l : Longest) : Token × Scan :=
  let (value, after) := s.eat l.length
  (⟨l.type, value⟩, { after with matched := s.matched + 1 })

/-- Cuts the longest match off the front of a window that is not empty. With trimming, blanks that
no type matches are skipped once. -/
def cutLongest (s : Scan) (g : Grammar) : Except ScanError (Option Token) × Scan :=
  match longest? g.types s.remaining with
  | some l => let (token, s) := s.cut l; (.ok (some token), s)
  | none =>
    if g.trimming then
      match s.remaining with
      | [] => (.error .outsideText, s)
      | c :: _ =>
        if Text.isBlank c then
          match s.trimFront with
          | (.error e, s) => (.error e, s)
          | (.ok _, s) =>
            match longest? g.types s.remaining with
            | some l => let (token, s) := s.cut l; (.ok (some token), s)
            | none => (.error (.unmatched s.remaining), s)
        else (.error (.unmatched s.remaining), s)
    else (.error (.unmatched s.remaining), s)

/-- Cuts one token off the front. There is none when the window is empty. -/
def next (s : Scan) : Except ScanError (Option Token) × Scan :=
  match s.grammar with
  | none => (.error .noGrammar, s)
  | some g =>
    match if g.trimming then s.trimOutside else (.ok (), s) with
    | (.error e, s) => (.error e, s)
    | (.ok _, s) => if s.atEnd then (.ok none, s) else s.cutLongest g

/-- The scan with another grammar, nothing else changed. -/
def withGrammar (s : Scan) (grammar : Option Grammar) : Scan := { s with grammar }

end Scan
end MaximalMunch
