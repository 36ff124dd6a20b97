import MaximalMunch.Yaml.Timestamp

/-!
Tags say what a node stands for. A plain scalar without a tag gets one from its form: the forms of
truth values, numbers, dates, of nothing, and of the two keys with a meaning of their own. A scalar
of no such form is a text.
-/

namespace MaximalMunch.Yaml

inductive Tag where
  | null
  | flag
  | int
  | float
  | binary
  | timestamp
  | text
  | list
  | map
  | set
  | orderedMap
  | pairs
  /-- The key whose value is merged into its mapping. -/
  | merge
  /-- The key whose value stands for its mapping. Such a node can still become a text, wherever it
  stands, so it is known by its place. -/
  | value (place : Nat)
  | unknown
  deriving DecidableEq, Repr

/-- The tag of the node at this place. -/
def Tag.placed (place : Nat) : Tag → Tag
  | .value _ => .value place
  | tag => tag

/-- What the names of the tags below begin with. -/
def tagStem : Text := "tag:yaml.org,2002:".toList

def Tag.table : List (Text × Tag) :=
  [("null".toList, .null), ("bool".toList, .flag), ("int".toList, .int), ("float".toList, .float),
    ("binary".toList, .binary), ("timestamp".toList, .timestamp), ("str".toList, .text),
    ("seq".toList, .list), ("map".toList, .map), ("set".toList, .set),
    ("omap".toList, .orderedMap), ("pairs".toList, .pairs), ("merge".toList, .merge),
    ("value".toList, .value 0)]

def Tag.ofName (name : Text) : Tag :=
  if name.take tagStem.length = tagStem then
    ((table.find? fun e => e.1 == name.drop tagStem.length).map (·.2)).getD .unknown
  else .unknown

/-- A line feed at the very end does not count for the form of a scalar. -/
def withoutLastBreak (t : Text) : Text :=
  if t.getLast? = some '\n' then t.dropLast else t

def isOneOf (words : List String) (t : Text) : Bool := words.any fun w => w.toList == t

def hasFlagForm : Text → Bool :=
  isOneOf ["yes", "Yes", "YES", "no", "No", "NO", "true", "True", "TRUE", "false", "False",
    "FALSE", "on", "On", "ON", "off", "Off", "OFF"]

def hasNullForm : Text → Bool := isOneOf ["", "~", "null", "Null", "NULL"]

def dropSign : Text → Text
  | '-' :: rest => rest
  | '+' :: rest => rest
  | t => t

def isDigitOrLow (c : Char) : Bool := c.isDigit || c == '_'

/-- What follows groups of minutes and seconds, each after a colon; there has to be one. -/
def dropSixties? : Text → Option Text
  | ':' :: a :: b :: rest =>
    if a.isDigit then
      if b.isDigit then
        if a ≤ '5' then some ((dropSixties? rest).getD rest) else none
      else some ((dropSixties? (b :: rest)).getD (b :: rest))
    else none
  | [':', a] => if a.isDigit then some [] else none
  | _ => none

def hasIntForm (t : Text) : Bool :=
  match dropSign t with
  | ['0'] => true
  | '0' :: c :: rest =>
    if c = 'b' then !rest.isEmpty && rest.all fun c => c == '0' || c == '1' || c == '_'
    else if c = 'x' then !rest.isEmpty && rest.all fun c => isHexDigit c || c == '_'
    else (c :: rest).all fun c => ('0' ≤ c && c ≤ '7') || c == '_'
  | c :: rest =>
    c.isDigit &&
      (rest.all isDigitOrLow || dropSixties? (rest.dropWhile isDigitOrLow) == some [])
  | [] => false

/-- Whether an exponent, with its sign, or nothing is left. -/
def isExponentOrEnd : Text → Bool
  | [] => true
  | e :: sign :: c :: rest =>
    (e == 'e' || e == 'E') && (sign == '-' || sign == '+') && (c :: rest).all Char.isDigit
  | _ => false

def hasFloatForm (t : Text) : Bool :=
  let digitsThenPoint : Bool :=
    match dropSign t with
    | c :: rest =>
      c.isDigit &&
        (match rest.dropWhile isDigitOrLow with
          | '.' :: rest => isExponentOrEnd (rest.dropWhile isDigitOrLow)
          | rest =>
            match dropSixties? rest with
            | some ('.' :: rest) => rest.all isDigitOrLow
            | _ => false)
    | [] => false
  let pointThenDigits : Bool :=
    match t with
    | '.' :: c :: rest => c.isDigit && isExponentOrEnd (rest.dropWhile isDigitOrLow)
    | _ => false
  digitsThenPoint || pointThenDigits || isOneOf [".inf", ".Inf", ".INF"] (dropSign t) ||
    isOneOf [".nan", ".NaN", ".NAN"] t

/-- A date alone is written with all its digits here. -/
def hasTimestampForm (t : Text) : Bool :=
  match Timestamp.read? t with
  | some s => s.time.isSome || t.length == 10
  | none => false

/-- The tag of a plain scalar of this form. -/
def Tag.ofForm (scalar : Text) : Tag :=
  let t := withoutLastBreak scalar
  if scalar = ['\n'] then .text
  else if hasFlagForm t then .flag
  else if hasFloatForm t then .float
  else if hasIntForm t then .int
  else if t = "<<".toList then .merge
  else if hasNullForm t then .null
  else if hasTimestampForm t then .timestamp
  else if t = "=".toList then .value 0
  else if isOneOf ["!", "&", "*"] t then .unknown
  else .text

end MaximalMunch.Yaml
