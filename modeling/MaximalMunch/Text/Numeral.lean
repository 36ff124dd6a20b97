import MaximalMunch.Text
import MaximalMunch.Text.Numeric

/-!
Numerals of whole numbers. Written numerals are decimal, with a fixed width where one is asked for.
A numeral that is read may have blanks around it, a sign, the mark of its base after a zero, digits
of any script, and single underscores between digits.
-/

namespace MaximalMunch.Text

def ofNat (n : Nat) : Text := Nat.toDigits 10 n

def ofInt (i : Int) : Text :=
  if i < 0 then '-' :: ofNat i.natAbs else ofNat i.natAbs

/-- The most digits that a decimal numeral may have where it is read or where data is written. -/
def maxDigits : Nat := 4300

/-- The numeral of a whole number, unless it has too many digits. -/
def ofInt? (i : Int) : Option Text :=
  if maxDigits < (ofNat i.natAbs).length then none else some (ofInt i)

/-- What is said of too many digits. They are counted where a numeral is read. -/
def digitLimitMessage (counted : Option Nat) : Text :=
  let value :=
    match counted with
    | some digits => ": value has ".toList ++ ofNat digits ++ " digits".toList
    | none => []
  "Exceeds the limit (".toList ++ ofNat maxDigits ++
    " digits) for integer string conversion".toList ++ value ++
      "; use sys.set_int_max_str_digits() to increase the limit".toList

/-- Zeros in front fill the numeral up to `width` digits. -/
def padded (width n : Nat) : Text :=
  List.replicate (width - (ofNat n).length) '0' ++ ofNat n

/-- The value of a letter or digit as a digit of a base up to 36. -/
def digitValue? (c : Char) : Option Nat :=
  match decimalValue? c with
  | some v => some v
  | none =>
    let n := c.toNat
    if 0x61 ≤ n ∧ n ≤ 0x7A then some (n - 0x61 + 10)
    else if 0x41 ≤ n ∧ n ≤ 0x5A then some (n - 0x41 + 10)
    else none

/-- The number that a run of digits stands for. -/
def digitsValue (base : Nat) (digits : Text) : Nat :=
  digits.foldl (fun n c => n * base + (digitValue? c).getD 0) 0

/-- Reads digits onto `acc`; an underscore stands between two digits only. -/
def readDigits? (base : Nat) : Text → (acc : Nat) → (afterDigit : Bool) → Option Nat
  | [], acc, afterDigit => if afterDigit then some acc else none
  | c :: rest, acc, afterDigit =>
    if c = '_' then (if afterDigit then readDigits? base rest acc false else none)
    else match digitValue? c with
      | some v => if v < base then readDigits? base rest (acc * base + v) true else none
      | none => none

def baseMark (base : Nat) (c : Char) : Bool :=
  (base == 16 && (c == 'x' || c == 'X')) || (base == 8 && (c == 'o' || c == 'O')) ||
    (base == 2 && (c == 'b' || c == 'B'))

def readMagnitude? (base : Nat) (t : Text) : Option Nat :=
  match t with
  | z :: m :: rest =>
    if z = '0' ∧ baseMark base m then
      match rest with
      | '_' :: rest => readDigits? base rest 0 false
      | rest => readDigits? base rest 0 false
    else readDigits? base t 0 false
  | t => readDigits? base t 0 false

def readInt? (base : Nat) (t : Text) : Option Int :=
  match trimBoth isBlank t with
  | '-' :: rest => (readMagnitude? base rest).map fun n => -(n : Int)
  | '+' :: rest => (readMagnitude? base rest).map Int.ofNat
  | rest => (readMagnitude? base rest).map Int.ofNat

end MaximalMunch.Text
