import MaximalMunch.Text.Numeral

/-!
Floating-point numbers as exact values, and their shortest decimal forms. A finite number of the 64-bit
binary format is a mantissa times a power of two; its bits say which. The numbers that round to it fill
an interval, whose ends count where the mantissa is even. Of the decimal numbers with one, two, and at
most seventeen digits, the first that lie in the interval have the fewest digits, and the nearest of
those is chosen, an even one where two are equally near.
-/

namespace MaximalMunch.Decimal

/-- One more than the greatest fraction of the mantissa. -/
def fractionSize : Nat := 0x10000000000000

structure Binary where
  negative : Bool
  mantissa : Nat
  exponent : Int
  /-- The next smaller number is only half as far away as the next greater one. -/
  closeBelow : Bool

inductive Value where
  | finite (b : Binary)
  | infinite (negative : Bool)
  | notANumber

def valueOf (x : Float) : Value :=
  let bits : Nat := x.toBits.toNat
  let negative := bits / (fractionSize * 2048) == 1
  let field : Nat := bits / fractionSize % 2048
  let fraction := bits % fractionSize
  if field = 2047 then if fraction = 0 then .infinite negative else .notANumber
  else if field = 0 then .finite ⟨negative, fraction, -1074, false⟩
  else
    .finite ⟨negative, fractionSize + fraction, (field : Int) - 1075, fraction == 0 && field != 1⟩

/-- The whole number that a finite value is, if it is one. -/
def Binary.whole? (b : Binary) : Option Int :=
  let signed (n : Nat) : Int := if b.negative then -(n : Int) else n
  if 0 ≤ b.exponent then some (signed (b.mantissa * Nat.pow 2 b.exponent.toNat))
  else
    let den := Nat.pow 2 (-b.exponent).toNat
    if b.mantissa % den = 0 then some (signed (b.mantissa / den)) else none

/-! ### The shortest decimal form -/

/-- A positive number `count / 4 * 2 ^ power` against the grid of the multiples of `10 ^ place`:
quarters of the unit and grid steps as whole multiples of one common measure. -/
structure Scale where
  quarter : Nat
  step : Nat

def Scale.of (power place : Int) : Scale :=
  ⟨Nat.pow 2 (power - 2).toNat * Nat.pow 10 (-place).toNat,
    Nat.pow 10 place.toNat * Nat.pow 2 (2 - power).toNat⟩

/-- Whether a power of ten does not exceed the number. -/
def Binary.reaches (b : Binary) (place : Int) : Bool :=
  let s := Scale.of b.exponent place
  s.step ≤ 4 * b.mantissa * s.quarter

/-- The greatest power of ten, from `place` down, that does not exceed the number. -/
def Binary.topPlaceFrom (b : Binary) : (fuel : Nat) → (place : Int) → Int
  | 0, place => place
  | fuel + 1, place => if b.reaches place then place else b.topPlaceFrom fuel (place - 1)

/-- The powers of ten between which 64-bit numbers lie number less than this. -/
def placeCount : Nat := 640

def Binary.topPlace (b : Binary) : Int := b.topPlaceFrom placeCount 309

/-- The grid point chosen, if one of the two around the number rounds to it. -/
def Binary.pick? (b : Binary) (place : Int) : Option Nat :=
  let s := Scale.of b.exponent place
  let exact := 4 * b.mantissa * s.quarter
  let least := (4 * b.mantissa - (if b.closeBelow then 1 else 2)) * s.quarter
  let most := (4 * b.mantissa + 2) * s.quarter
  let inside (c : Nat) : Bool :=
    if b.mantissa % 2 = 0 then least ≤ c * s.step && c * s.step ≤ most
    else least < c * s.step && c * s.step < most
  let low := exact / s.step
  let high := low + 1
  match inside low, inside high with
  | false, false => none
  | true, false => some low
  | false, true => some high
  | true, true =>
    let twice := (2 * low + 1) * s.step
    if 2 * exact < twice then some low
    else if twice < 2 * exact then some high
    else if low % 2 = 0 then some low else some high

def Binary.shortestFrom (b : Binary) (top : Int) : (fuel digits : Nat) → Nat × Int
  | 0, digits => (b.mantissa, top - digits)
  | fuel + 1, digits =>
    let place := top - digits
    match b.pick? place with
    | some c => (c, place)
    | none => b.shortestFrom top fuel (digits + 1)

/-- A whole number and the power of ten to multiply it by. -/
def Binary.shortest (b : Binary) : Nat × Int := b.shortestFrom b.topPlace 17 0

/-- How numbers are laid out. The first digit of a number of this layout stands for a power of ten
from `lowest` to `highest`, or the number is written with an exponent of at least `exponentWidth`
digits. -/
structure Layout where
  lowest : Int
  highest : Int
  exponentWidth : Nat

def dropTrailingZeros (t : Text) : Text := (t.reverse.dropWhile (· == '0')).reverse

def Layout.layOut (n : Layout) (digits : Text) (top : Int) : Text :=
  if n.lowest ≤ top ∧ top ≤ n.highest then
    if top < 0 then ['0', '.'] ++ List.replicate (-top - 1).toNat '0' ++ digits
    else
      let size := top.toNat + 1
      if digits.length ≤ size then
        digits ++ List.replicate (size - digits.length) '0' ++ ['.', '0']
      else digits.take size ++ ['.'] ++ digits.drop size
  else
    let tail := digits.drop 1
    digits.take 1 ++ (if tail.isEmpty then [] else '.' :: tail) ++ ['e'] ++
      (if top < 0 then ['-'] else ['+']) ++ Text.padded n.exponentWidth top.natAbs

def Layout.text (n : Layout) (x : Float) : Text :=
  match valueOf x with
  | .notANumber => "nan".toList
  | .infinite negative => if negative then "-inf".toList else "inf".toList
  | .finite b =>
    let unsigned :=
      if b.mantissa = 0 then n.layOut ['0'] 0
      else
        let (c, place) := b.shortest
        let digits := Text.ofNat c
        n.layOut (dropTrailingZeros digits) (place + digits.length - 1)
    if b.negative then '-' :: unsigned else unsigned

end MaximalMunch.Decimal
