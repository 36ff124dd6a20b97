import MaximalMunch.Data
import MaximalMunch.Decimal.Shortest
import MaximalMunch.Text.Quoted

/-!
The written form of data. `shown?` is the form inside messages, in which texts are quoted; `plain?`
is the form of a value that stands for a name, in which a text is itself. A collection that is met
again inside itself is written as its brackets around three dots, and the members of a set are
written in the order they were given in. There is no written form of a value that holds a whole
number with too many digits.
-/

namespace MaximalMunch

/-- Floating-point numbers are written without an exponent from a ten-thousandth to below ten
thousand million million. -/
def floatLayout : Decimal.Layout := ⟨-4, 15, 2⟩

def commaSeparated : List Text → Text
  | [] => []
  | [t] => t
  | t :: rest => t ++ ", ".toList ++ commaSeparated rest

/-- Bytes are written like text, each byte outside of printable ASCII with two digits. -/
def shownByte (mark : Char) (b : UInt8) : Text :=
  let c := Char.ofNat b.toNat
  if c = mark ∨ c = '\\' then ['\\', c]
  else if c = '\t' then ['\\', 't']
  else if c = '\n' then ['\\', 'n']
  else if c = '\r' then ['\\', 'r']
  else if 0x20 ≤ b.toNat ∧ b.toNat < 0x7F then [c]
  else ['\\', 'x'] ++ Text.hexFixed 2 b.toNat

def shownBytes (bytes : List UInt8) : Text :=
  let mark := Text.quoteMark (bytes.map fun b => Char.ofNat b.toNat)
  ['b', mark] ++ bytes.flatMap (shownByte mark) ++ [mark]

def shownNull : Text := "None".toList

def shownFlag (b : Bool) : Text := if b then "True".toList else "False".toList

def Date.shown (d : Date) : Text :=
  "datetime.date(".toList ++ commaSeparated (List.map Text.ofNat [d.year, d.month, d.day]) ++
    ")".toList

/-- A length of time in days and seconds of the day. -/
def shownSpan (seconds : Int) : Text :=
  let days := seconds.fdiv Moment.secondsPerDay
  let rest := seconds.fmod Moment.secondsPerDay
  let parts :=
    (if days = 0 then [] else ["days=".toList ++ Text.ofInt days]) ++
      (if rest = 0 then [] else ["seconds=".toList ++ Text.ofInt rest])
  "datetime.timedelta(".toList ++
    (if parts.isEmpty then "0".toList else commaSeparated parts) ++ ")".toList

def shownOffset (seconds : Int) : Text :=
  if seconds = 0 then "datetime.timezone.utc".toList
  else "datetime.timezone(".toList ++ shownSpan seconds ++ ")".toList

def Moment.shown (m : Moment) : Text :=
  let fraction := if m.microsecond = 0 then [] else [m.microsecond]
  let seconds := if m.second = 0 ∧ m.microsecond = 0 then [] else m.second :: fraction
  let numbers := [m.date.year, m.date.month, m.date.day, m.hour, m.minute] ++ seconds
  let zone :=
    match m.offset with
    | some o => ["tzinfo=".toList ++ shownOffset o]
    | none => []
  "datetime.datetime(".toList ++ commaSeparated (numbers.map Text.ofNat ++ zone) ++ ")".toList

def Bracket.shownAgain : Bracket → Text
  | .list => "[...]".toList
  | .map => "\x7b...\x7d".toList

namespace Data

def bracket : Data → Bracket
  | .map _ | .set _ => .map
  | _ => .list

mutual

/-- The written form inside the labelled collections in `around`. -/
def shownIn? (around : List Nat) : Data → Option Text
  | .null => some shownNull
  | .flag b => some (shownFlag b)
  | .int n => Text.ofInt? n
  | .float x => some (floatLayout.text x)
  | .text t => some (Text.quoted t)
  | .bytes bs => some (shownBytes bs)
  | .date d => some d.shown
  | .moment m => some m.shown
  | .list items => (shownItems? around items).map fun ts => ['['] ++ commaSeparated ts ++ [']']
  | .tuple items =>
    (shownItems? around items).map fun ts =>
      ['('] ++ commaSeparated ts ++ (if ts.length = 1 then ",)".toList else [')'])
  | .map entries =>
    (shownEntries? around entries).map fun ts => ['\x7b'] ++ commaSeparated ts ++ ['\x7d']
  | .set members =>
    (shownItems? around members).map fun ts =>
      if ts.isEmpty then "set()".toList else ['\x7b'] ++ commaSeparated ts ++ ['\x7d']
  | .loop label body =>
    if around.contains label then some body.bracket.shownAgain else shownIn? (label :: around) body
  | .again _ shape => some shape.shownAgain

def shownItems? (around : List Nat) : List Data → Option (List Text)
  | [] => some []
  | d :: rest =>
    match shownIn? around d, shownItems? around rest with
    | some t, some ts => some (t :: ts)
    | _, _ => none

def shownEntries? (around : List Nat) : List (Data × Data) → Option (List Text)
  | [] => some []
  | (k, v) :: rest =>
    match shownIn? around k, shownIn? around v, shownEntries? around rest with
    | some key, some value, some ts => some ((key ++ ": ".toList ++ value) :: ts)
    | _, _, _ => none

end

def shown? (d : Data) : Option Text := d.shownIn? []

def plain? : Data → Option Text
  | .text t => some t
  | .date d => some d.text
  | .moment m => some m.text
  | d => d.shown?

end Data
end MaximalMunch
