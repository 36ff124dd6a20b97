import MaximalMunch.Text.Numeral
import MaximalMunch.Text.Quoted

/-!
Texts in files: their byte form, and their line ends.

The first byte of a character says how many bytes it is owed and which range the first of them lies in;
all later ones lie between 0x80 and 0xBF. Decoding stops at the first byte that no character form
allows, or at a form that the data cut short.
-/

namespace MaximalMunch.Utf8

def encodeChar (c : Char) : List UInt8 :=
  let n := c.toNat
  if n < 0x80 then [.ofNat n]
  else if n < 0x800 then [.ofNat (0xC0 + n / 64), .ofNat (0x80 + n % 64)]
  else if n < 0x10000 then
    [.ofNat (0xE0 + n / 4096), .ofNat (0x80 + n / 64 % 64), .ofNat (0x80 + n % 64)]
  else
    [.ofNat (0xF0 + n / 262144), .ofNat (0x80 + n / 4096 % 64), .ofNat (0x80 + n / 64 % 64),
      .ofNat (0x80 + n % 64)]

def encode (t : Text) : List UInt8 := t.flatMap encodeChar

inductive Cause where
  | invalidStart
  | invalidContinuation
  | endOfData
  deriving DecidableEq, Repr

/-- The bytes from `start` on, `length` of them, have no character form. -/
structure Fault where
  first : UInt8
  start : Nat
  length : Nat
  cause : Cause
  deriving DecidableEq, Repr

/-- A character begun: the bytes it is still owed, the range of the next one, the bits so far. -/
structure Begun where
  first : UInt8
  start : Nat
  owed : Nat
  low : Nat
  high : Nat
  bits : Nat

def begin? (start : Nat) (b : UInt8) : Option Begun :=
  let n := b.toNat
  if n < 0x80 then some ⟨b, start, 0, 0x80, 0xBF, n⟩
  else if n < 0xC2 then none
  else if n < 0xE0 then some ⟨b, start, 1, 0x80, 0xBF, n - 0xC0⟩
  else if n = 0xE0 then some ⟨b, start, 2, 0xA0, 0xBF, 0⟩
  else if n = 0xED then some ⟨b, start, 2, 0x80, 0x9F, 0xD⟩
  else if n < 0xF0 then some ⟨b, start, 2, 0x80, 0xBF, n - 0xE0⟩
  else if n = 0xF0 then some ⟨b, start, 3, 0x90, 0xBF, 0⟩
  else if n < 0xF4 then some ⟨b, start, 3, 0x80, 0xBF, n - 0xF0⟩
  else if n = 0xF4 then some ⟨b, start, 3, 0x80, 0x8F, 4⟩
  else none

def decodeFrom : Nat → Option Begun → List UInt8 → Except Fault Text
  | _, none, [] => .ok []
  | pos, some p, [] => .error ⟨p.first, p.start, pos - p.start, .endOfData⟩
  | pos, none, b :: rest =>
    match begin? pos b with
    | none => .error ⟨b, pos, 1, .invalidStart⟩
    | some p =>
      if p.owed = 0 then (decodeFrom (pos + 1) none rest).map (Char.ofNat p.bits :: ·)
      else decodeFrom (pos + 1) (some p) rest
  | pos, some p, b :: rest =>
    let n := b.toNat
    if p.low ≤ n ∧ n ≤ p.high then
      let bits := p.bits * 64 + (n - 0x80)
      if p.owed = 1 then (decodeFrom (pos + 1) none rest).map (Char.ofNat bits :: ·)
      else decodeFrom (pos + 1) (some ⟨p.first, p.start, p.owed - 1, 0x80, 0xBF, bits⟩) rest
    else .error ⟨p.first, p.start, pos - p.start, .invalidContinuation⟩

def decode (bytes : List UInt8) : Except Fault Text := decodeFrom 0 none bytes

def Cause.message : Cause → Text
  | .invalidStart => "invalid start byte".toList
  | .invalidContinuation => "invalid continuation byte".toList
  | .endOfData => "unexpected end of data".toList

def Fault.message (f : Fault) : Text :=
  "'utf-8' codec can't decode ".toList ++
    (if f.length = 1 then
      "byte 0x".toList ++ Text.hexFixed 2 f.first.toNat ++ " in position ".toList ++
        Text.ofNat f.start
    else
      "bytes in position ".toList ++ Text.ofNat f.start ++ "-".toList ++
        Text.ofNat (f.start + f.length - 1)) ++
    ": ".toList ++ f.cause.message

end MaximalMunch.Utf8

namespace MaximalMunch.Text

/-- A carriage return, alone or before a line feed, counts as one line feed. -/
def unifyNewlines : Text → Text
  | [] => []
  | '\r' :: '\n' :: rest => '\n' :: unifyNewlines rest
  | '\r' :: rest => '\n' :: unifyNewlines rest
  | c :: rest => c :: unifyNewlines rest

end MaximalMunch.Text
