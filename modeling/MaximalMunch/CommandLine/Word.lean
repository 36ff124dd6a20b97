import MaximalMunch.Text.Numeric

/-!
The words of a command line. A word is an option, the marker after which nothing is an option, or an
argument. Options have long names, which may be cut short, and some have short ones, which may be
joined behind one dash. None of them takes a value. Negative numbers and words with a space are
arguments even if they begin with a dash.
-/

namespace MaximalMunch.CommandLine

inductive Switch where
  | help
  | trim
  | noTrim
  | verbose
  deriving DecidableEq, Repr

/-- The spellings of the options, a short one first where there is one. -/
def Switch.spellings : List (Text × Switch) :=
  [("-h".toList, .help), ("--help".toList, .help), ("--trim".toList, .trim),
    ("--no-trim".toList, .noTrim), ("-v".toList, .verbose), ("--verbose".toList, .verbose)]

def Switch.ofSpelling? (t : Text) : Option Switch :=
  (spellings.find? fun s => s.1 == t).map (·.2)

inductive Word where
  | argument (t : Text)
  | marker (t : Text)
  /-- One option, or several joined. -/
  | switch (first : Switch) (more : List Switch)
  /-- Options joined, of which the rest is not known. -/
  | partly (first : Switch) (more : List Switch) (unknown : Text)
  | unknown (t : Text)
  /-- An option with a value, which none of them takes. -/
  | refused
  deriving DecidableEq, Repr

/-- Digits with a minus sign, perhaps with a decimal point before the last of them. -/
def isNegativeNumber (t : Text) : Bool :=
  let t := if t.getLast? = some '\n' then t.dropLast else t
  match t with
  | '-' :: rest =>
    match rest.dropWhile Text.isDecimal with
    | [] => !rest.isEmpty
    | '.' :: digits => !digits.isEmpty && digits.all Text.isDecimal
    | _ => false
  | _ => false

/-- Reads on in a word of joined short options, behind the switch `first`. -/
def Word.joined (first : Switch) (more : List Switch) : Text → Word
  | [] => .switch first more
  | c :: rest =>
    if c = '-' ∨ c = '=' then .refused
    else
      match Switch.ofSpelling? ['-', c] with
      | some s => joined first (more ++ [s]) rest
      | none => .partly first more ('-' :: c :: rest)

/-- The word that an abbreviated long option is, none if it could be several. -/
def Word.abbreviated? (t : Text) : Option Word :=
  let name := t.takeWhile (· != '=')
  match Switch.spellings.filter fun s => name.isPrefixOf s.1 with
  | [] => some (.unknown t)
  | [s] => some (if name.length = t.length then .switch s.2 [] else .refused)
  | _ => none

/-- Reads a word that is not the marker, none if it is an ambiguous option. -/
def Word.read? (t : Text) : Option Word :=
  match t with
  | '-' :: c :: rest =>
    match Switch.ofSpelling? t, Switch.ofSpelling? (t.takeWhile (· != '=')) with
    | some s, _ => some (.switch s [])
    | none, some _ => some .refused
    | none, none =>
      let word? : Option Word :=
        if c = '-' then abbreviated? t
        else
          match Switch.ofSpelling? ['-', c] with
          | some s => some (joined s [] rest)
          | none => some (.unknown t)
      match word? with
      | some (.unknown _) =>
        some (if isNegativeNumber t || t.contains ' ' then .argument t else .unknown t)
      | word? => word?
  | t => some (.argument t)

/-- Reads the words of a command line; behind the first marker all are arguments. -/
def Word.readAll? : List Text → Option (List Word)
  | [] => some []
  | t :: rest =>
    if t = ['-', '-'] then some (.marker t :: rest.map .argument)
    else do
      let word ← read? t
      let words ← readAll? rest
      return word :: words

end MaximalMunch.CommandLine
