import MaximalMunch.Text.Numeral

/-!
Reading decimal numbers as floating-point numbers. A number has digits before or after a point,
single underscores between digits, and an exponent if need be; infinity and the absent number have
names of their own. Blanks around it do not count.
-/

namespace MaximalMunch.Decimal

def infinity : Float := 1.0 / 0.0

def notANumber : Float := 0.0 / 0.0

/-- Exponents beyond this give infinity or zero, whatever the digits are. -/
def exponentLimit : Int := 400

/-- The float nearest to `digits * 10 ^ exponent`. -/
def nearest (digits : Nat) (exponent : Int) : Float :=
  if digits = 0 then 0.0
  else
    let top := exponent + (Nat.toDigits 10 digits).length
    if exponentLimit < top then infinity
    else if top < -exponentLimit then 0.0
    else Float.ofScientific digits (exponent < 0) exponent.natAbs

/-- Splits a run of digits off, with single underscores inside: its value, its length in digits and
the rest. -/
def splitDigits (acc count : Nat) : Text → Nat × Nat × Text
  | [] => (acc, count, [])
  | '_' :: c :: rest =>
    match Text.decimalValue? c with
    | some v =>
      if count = 0 then (acc, count, '_' :: c :: rest)
      else splitDigits (acc * 10 + v) (count + 1) rest
    | none => (acc, count, '_' :: c :: rest)
  | c :: rest =>
    match Text.decimalValue? c with
    | some v => splitDigits (acc * 10 + v) (count + 1) rest
    | none => (acc, count, c :: rest)

/-- The exponent at the end of a number, zero where there is none. -/
def readExponent? : Text → Option Int
  | [] => some 0
  | c :: rest =>
    if c = 'e' ∨ c = 'E' then
      let (negative, rest) :=
        match rest with
        | '-' :: rest => (true, rest)
        | '+' :: rest => (false, rest)
        | rest => (false, rest)
      match splitDigits 0 0 rest with
      | (value, count, []) =>
        if count = 0 then none else some (if negative then -(value : Int) else value)
      | _ => none
    else none

def readUnsigned? (t : Text) : Option Float :=
  let (whole, wholeCount, rest) := splitDigits 0 0 t
  let (digits, places, count, rest) :=
    match rest with
    | '.' :: rest =>
      let (digits, places, rest) := splitDigits whole 0 rest
      (digits, places, wholeCount + places, rest)
    | rest => (whole, 0, wholeCount, rest)
  if count = 0 then none
  else (readExponent? rest).map fun e => nearest digits (e - places)

def lowerWord (t : Text) : Text := t.map Char.toLower

def readMagnitude? (t : Text) : Option Float :=
  let word := lowerWord t
  if word = "inf".toList ∨ word = "infinity".toList then some infinity
  else if word = "nan".toList then some notANumber
  else readUnsigned? t

def readFloat? (t : Text) : Option Float :=
  match Text.trimBoth Text.isBlank t with
  | '-' :: rest => (readMagnitude? rest).map fun x => -x
  | '+' :: rest => readMagnitude? rest
  | rest => readMagnitude? rest

end MaximalMunch.Decimal
