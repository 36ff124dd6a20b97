import MaximalMunch.Decimal.Reading
import MaximalMunch.Text.Case
import MaximalMunch.Yaml.Tag

/-!
The values of scalars. Whole numbers may be binary, octal or hexadecimal, and both kinds of numbers
may be written with parts to base sixty. A scalar with a tag of its own need not have the form of
such a value, so it may fail to be one.

Bytes are written with 64 digits of six bits each. Characters that are no digits are skipped. Padding
ends the data where it fills up a group of four digits; without it, the groups have to be full.
-/

namespace MaximalMunch.Yaml.Binary

def digit? (c : Char) : Option Nat :=
  let n := c.toNat
  if c.isUpper then some (n - 65)
  else if c.isLower then some (n - 97 + 26)
  else if c.isDigit then some (n - 48 + 52)
  else if c = '+' then some 62
  else if c = '/' then some 63
  else none

/-- Decodes on after `count` digits of a group, whose last bits are `bits`, and after `pads` padding
characters in a row. -/
def decodeFrom : (count bits pads : Nat) → Text → Option (List UInt8)
  | count, _, _, [] => if count = 0 then some [] else none
  | count, bits, pads, c :: rest =>
    if c = '=' then
      if 2 ≤ count then
        if 4 ≤ count + (pads + 1) then some [] else decodeFrom count bits (pads + 1) rest
      else decodeFrom count bits pads rest
    else
      match digit? c with
      | none => decodeFrom count bits pads rest
      | some d =>
        if count = 0 then decodeFrom 1 d 0 rest
        else if count = 1 then
          (decodeFrom 2 (d % 16) 0 rest).map (.ofNat (bits * 4 + d / 16) :: ·)
        else if count = 2 then
          (decodeFrom 3 (d % 4) 0 rest).map (.ofNat (bits * 16 + d / 4) :: ·)
        else (decodeFrom 0 0 0 rest).map (.ofNat (bits * 64 + d) :: ·)

def decode (t : Text) : Option (List UInt8) := decodeFrom 0 0 0 t

end MaximalMunch.Yaml.Binary

namespace MaximalMunch.Yaml

/-- The sign of a numeral and what follows it; a numeral may not be empty. -/
def signed (t : Text) : Except Fault (Bool × Text) :=
  match t with
  | [] => .error .emptyNumeral
  | '-' :: rest => .ok (true, rest)
  | '+' :: rest => .ok (false, rest)
  | t => .ok (false, t)

def wholeOf (base : Nat) (t : Text) : Except Fault Int :=
  let digits := (t.filter fun c => (Text.decimalValue? c).isSome).length
  match Text.readInt? base t with
  | some n => if base = 10 ∧ Text.maxDigits < digits then .error (.numeralTooLong digits) else .ok n
  | none => .error (.notWhole base t)

def wholeSixties (t : Text) : Except Fault Int :=
  (Text.parts ':' t).foldl
    (fun n part => do
      let n ← n
      return n * 60 + (← wholeOf 10 part))
    (.ok 0)

def unsignedWhole (t : Text) : Except Fault Int :=
  match t with
  | [] => .error .emptyNumeral
  | ['0'] => .ok 0
  | '0' :: 'b' :: rest => wholeOf 2 rest
  | '0' :: 'x' :: rest => wholeOf 16 rest
  | '0' :: _ => wholeOf 8 t
  | t => if t.contains ':' then wholeSixties t else wholeOf 10 t

def wholeValue (t : Text) : Except Fault Int := do
  let (negative, t) ← signed (t.filter (· != '_'))
  let n ← unsignedWhole t
  return if negative then -n else n

def numberOf (t : Text) : Except Fault Float :=
  match Decimal.readFloat? t with
  | some x => .ok x
  | none => .error (.notNumber t)

/-- The sum of the parts, the last one first, each times its power of sixty. -/
def sumSixties (sum : Float) (base : Nat) : List Float → Float
  | [] => sum
  | x :: rest => sumSixties (sum + x * Decimal.nearest base 0) (base * 60) rest

def unsignedNumber (t : Text) : Except Fault Float :=
  if t = ".inf".toList then .ok Decimal.infinity
  else if t = ".nan".toList then .ok Decimal.notANumber
  else if t.contains ':' then do
    let parts ← (Text.parts ':' t).mapM numberOf
    return sumSixties 0.0 1 parts.reverse
  else numberOf t

def numberValue (t : Text) : Except Fault Float := do
  let (negative, t) ← signed (Text.lowered (t.filter (· != '_')))
  let x ← unsignedNumber t
  return if negative then -x else x

def flagValue (t : Text) : Except Fault Bool :=
  let word := Text.lowered t
  if isOneOf ["yes", "true", "on"] word then .ok true
  else if isOneOf ["no", "false", "off"] word then .ok false
  else .error (.notFlag word)

def binaryValue (t : Text) : Except Fault (List UInt8) :=
  if t.all fun c => c.toNat < 0x80 then
    match Binary.decode t with
    | some bytes => .ok bytes
    | none => .error .malformed
  else .error .malformed

def timestampValue (t : Text) : Except Fault Data :=
  match Timestamp.read? (withoutLastBreak t) with
  | none => .error .notTimestamp
  | some s =>
    match s.data with
    | .ok d => .ok d
    | .error f => .error (.calendar f)

/-- The value of a scalar with a tag. Tags of collections have no scalars. -/
def scalarValue (tag : Tag) (t : Text) : Except Fault Data :=
  match tag with
  | .null => .ok .null
  | .flag => (flagValue t).map .flag
  | .int => (wholeValue t).map .int
  | .float => (numberValue t).map .float
  | .binary => (binaryValue t).map .bytes
  | .timestamp => timestampValue t
  | .text => .ok (.text t)
  | _ => .error .malformed

end MaximalMunch.Yaml
