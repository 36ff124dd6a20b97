import MaximalMunch.Text.Numeral

/-!
Dates and times of day of the Gregorian calendar, years 1 to 9999. A moment is a date and a time of
day, with or without an offset from universal time; two moments that have offsets are the same when
they are the same instant.
-/

namespace MaximalMunch

structure Date where
  year : Nat
  month : Nat
  day : Nat
  deriving DecidableEq, Repr

structure Moment where
  date : Date
  hour : Nat
  minute : Nat
  second : Nat
  microsecond : Nat
  /-- Seconds ahead of universal time. -/
  offset : Option Int
  deriving DecidableEq, Repr

inductive CalendarFault where
  | year (year : Nat)
  | month
  | day
  | hour
  | minute
  | second
  | offset (seconds : Int)
  deriving DecidableEq, Repr

namespace Date

def isLeapYear (year : Nat) : Bool := year % 4 == 0 && (year % 100 != 0 || year % 400 == 0)

def daysInMonth (year month : Nat) : Nat :=
  if month = 2 then (if isLeapYear year then 29 else 28)
  else if month = 4 ∨ month = 6 ∨ month = 9 ∨ month = 11 then 30 else 31

/-- The date of these numbers; the year is checked first, the day last. -/
def of (year month day : Nat) : Except CalendarFault Date :=
  if year < 1 ∨ 9999 < year then .error (.year year)
  else if month < 1 ∨ 12 < month then .error .month
  else if day < 1 ∨ daysInMonth year month < day then .error .day
  else .ok ⟨year, month, day⟩

/-- Days since the last day before year one. -/
def dayNumber (d : Date) : Nat :=
  let y := d.year - 1
  y * 365 + y / 4 - y / 100 + y / 400 +
    (List.range (d.month - 1)).foldl (fun days m => days + daysInMonth d.year (m + 1)) 0 + d.day

def text (d : Date) : Text :=
  Text.padded 4 d.year ++ "-".toList ++ Text.padded 2 d.month ++ "-".toList ++ Text.padded 2 d.day

end Date

namespace Moment

def secondsPerDay : Int := 86400

/-- The moment of a date and these numbers. An offset has to be shorter than a day. -/
def of (year month day hour minute second microsecond : Nat) (offset : Option Int) :
    Except CalendarFault Moment := do
  if let some o := offset then
    if secondsPerDay ≤ o.natAbs then throw (.offset o)
  let date ← Date.of year month day
  if 23 < hour then throw .hour
  if 59 < minute then throw .minute
  if 59 < second then throw .second
  return ⟨date, hour, minute, second, microsecond, offset⟩

/-- Microseconds since the last day before year one, in universal time where an offset is known. -/
def instant (m : Moment) : Int :=
  let seconds := (m.date.dayNumber : Int) * secondsPerDay + m.hour * 3600 + m.minute * 60 +
    m.second - m.offset.getD 0
  seconds * 1000000 + m.microsecond

def same (m n : Moment) : Bool :=
  m.offset.isSome == n.offset.isSome && m.instant == n.instant

def offsetText (seconds : Int) : Text :=
  let minutes := seconds.natAbs / 60
  (if seconds < 0 then "-".toList else "+".toList) ++ Text.padded 2 (minutes / 60) ++
    ":".toList ++ Text.padded 2 (minutes % 60)

def text (m : Moment) : Text :=
  m.date.text ++ " ".toList ++ Text.padded 2 m.hour ++ ":".toList ++ Text.padded 2 m.minute ++
    ":".toList ++ Text.padded 2 m.second ++
    (if m.microsecond = 0 then [] else ".".toList ++ Text.padded 6 m.microsecond) ++
    (match m.offset with
      | some o => offsetText o
      | none => [])

end Moment
end MaximalMunch
