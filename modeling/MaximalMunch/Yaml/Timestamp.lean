import MaximalMunch.Yaml.QuotedScalar

/-!
Timestamps: a date, or a date with a time of day and perhaps an offset from universal time. Only
their form is read here; whether there is such a day is found out afterwards.
-/

namespace MaximalMunch.Yaml

structure TimeOfDay where
  hour : Nat
  minute : Nat
  second : Nat
  /-- The digits of the fraction of a second. -/
  fraction : Text
  /-- Seconds ahead of universal time. -/
  offset : Option Int
  deriving DecidableEq, Repr

structure Timestamp where
  year : Nat
  month : Nat
  day : Nat
  time : Option TimeOfDay
  deriving DecidableEq, Repr

namespace Timestamp

def decimal (digits : Text) : Nat := digits.foldl (fun n c => n * 10 + (c.toNat - 48)) 0

/-- Takes from `least` to `most` digits. -/
def digits? (least most : Nat) (t : Text) : Option (Nat × Text) :=
  let run := (t.take most).takeWhile Char.isDigit
  if least ≤ run.length then some (decimal run, t.drop run.length) else none

def char? (c : Char) : Text → Option Text
  | [] => none
  | d :: rest => if d = c then some rest else none

/-- Reads the offset at the end, if there is one. -/
def offset? (t : Text) : Option (Option Int) :=
  if t.isEmpty then some none
  else
    match t.dropWhile isGap with
    | ['Z'] => some (some 0)
    | sign :: rest => do
      if sign ≠ '+' ∧ sign ≠ '-' then none
      let (hours, rest) ← digits? 1 2 rest
      let (minutes, rest) ← if rest.isEmpty then some (0, []) else do digits? 2 2 (← char? ':' rest)
      let seconds : Int := (hours * 60 + minutes) * 60
      if rest.isEmpty then some (some (if sign = '-' then -seconds else seconds)) else none
    | [] => none

/-- Reads what stands between a date and a time, a letter or blanks. -/
def separator? : Text → Option Text
  | [] => none
  | c :: rest =>
    if c = 'T' ∨ c = 't' then some rest
    else if isGap c then some (rest.dropWhile isGap)
    else none

def time? (t : Text) : Option TimeOfDay := do
  let (hour, t) ← digits? 1 2 (← separator? t)
  let (minute, t) ← digits? 2 2 (← char? ':' t)
  let (second, t) ← digits? 2 2 (← char? ':' t)
  let afterPoint := char? '.' t
  let fraction := (afterPoint.getD []).takeWhile Char.isDigit
  let offset ← offset? ((afterPoint.map (·.drop fraction.length)).getD t)
  return ⟨hour, minute, second, fraction, offset⟩

def read? (t : Text) : Option Timestamp := do
  let (year, t) ← digits? 4 4 t
  let (month, t) ← digits? 1 2 (← char? '-' t)
  let (day, t) ← digits? 1 2 (← char? '-' t)
  if t.isEmpty then return ⟨year, month, day, none⟩
  else return ⟨year, month, day, some (← time? t)⟩

/-- The first six digits of a fraction, as a number of microseconds. -/
def microseconds (fraction : Text) : Nat :=
  let digits := fraction.take 6
  decimal (digits ++ List.replicate (6 - digits.length) '0')

/-- The date or moment of a timestamp, if there is one. -/
def data (s : Timestamp) : Except CalendarFault Data :=
  match s.time with
  | none => (Date.of s.year s.month s.day).map .date
  | some t =>
    (Moment.of s.year s.month s.day t.hour t.minute t.second (microseconds t.fraction)
      t.offset).map .moment

end Timestamp
end MaximalMunch.Yaml
