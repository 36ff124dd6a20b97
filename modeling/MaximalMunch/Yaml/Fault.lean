import MaximalMunch.Data.Shown

/-!
Why a YAML text gives no data. Nearly always the text is malformed. A scalar whose form is in order
can still name a value that does not exist, such as the thirtieth of February; these faults are told
apart.
-/

namespace MaximalMunch.Yaml

inductive Fault where
  /-- What is said of the place and the kind of the fault is left out. -/
  | malformed
  | codePointPastUnicode
  | codePointTooLarge
  | notWhole (base : Nat) (numeral : Text)
  | numeralTooLong (digits : Nat)
  | emptyNumeral
  | notNumber (numeral : Text)
  | notFlag (word : Text)
  | notTimestamp
  | timestampNotText
  | calendar (fault : CalendarFault)
  deriving DecidableEq, Repr

/-- At most so many characters of a numeral that is not one are shown. -/
def shownNumeralSize : Nat := 200

def calendarMessage : CalendarFault → Text
  | .year year => "year ".toList ++ Text.ofNat year ++ " is out of range".toList
  | .month => "month must be in 1..12".toList
  | .day => "day is out of range for month".toList
  | .hour => "hour must be in 0..23".toList
  | .minute => "minute must be in 0..59".toList
  | .second => "second must be in 0..59".toList
  | .offset seconds =>
    "offset must be a timedelta strictly between -timedelta(hours=24) and ".toList ++
      "timedelta(hours=24), not ".toList ++ shownSpan seconds ++ ".".toList

def Fault.message : Fault → Text
  | .malformed => "Invalid grammar YAML".toList
  | .codePointPastUnicode => "chr() arg not in range(0x110000)".toList
  | .codePointTooLarge => "Python int too large to convert to C int".toList
  | .notWhole base numeral =>
    "invalid literal for int() with base ".toList ++ Text.ofNat base ++ ": ".toList ++
      (Text.quoted numeral).take shownNumeralSize
  | .numeralTooLong digits => Text.digitLimitMessage (some digits)
  | .emptyNumeral => "string index out of range".toList
  | .notNumber numeral => "could not convert string to float: ".toList ++ Text.quoted numeral
  | .notFlag word => Text.quoted word
  | .notTimestamp => "'NoneType' object has no attribute 'groupdict'".toList
  | .timestampNotText => "expected string or bytes-like object, got 'list'".toList
  | .calendar fault => calendarMessage fault

end MaximalMunch.Yaml
