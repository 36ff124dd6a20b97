import MaximalMunch.CommandLine.Word

/-!
The meaning of a command line. Options may stand anywhere, so the words are gone through twice:
first for the options, then what is left over for the two arguments, the path of the grammar and the
text. The marker is left over too, and may so be read a second time. What is left over after that is
one too many.
-/

namespace MaximalMunch.CommandLine

structure Arguments where
  path : Text
  /-- The text to cut up, that of standard input if there is none. -/
  text : Option Text
  trimming : Option Bool
  verbose : Bool
  deriving DecidableEq, Repr

/-- The command line is answered by a note on its usage, which was asked for or has to be given. -/
inductive Usage where
  | asked
  | mistaken
  deriving DecidableEq, Repr

structure Reading where
  trimming : Option Bool
  verbose : Bool
  /-- The trimming options met in this round. -/
  trims : List Switch
  path : Option Text
  text : Option Text
  leftOver : List Text
  deriving DecidableEq, Repr

namespace Reading

def start : Reading := ⟨none, false, [], none, none, []⟩

def leave (r : Reading) (words : List Text) : Reading := { r with leftOver := r.leftOver ++ words }

/-- The two trimming options exclude each other. -/
def switch (r : Reading) : Switch → Except Usage Reading
  | .help => .error .asked
  | .verbose => .ok { r with verbose := true }
  | .trim =>
    if r.trims.contains .noTrim then .error .mistaken
    else .ok { r with trimming := some true, trims := .trim :: r.trims }
  | .noTrim =>
    if r.trims.contains .trim then .error .mistaken
    else .ok { r with trimming := some false, trims := .noTrim :: r.trims }

def switches (r : Reading) : List Switch → Except Usage Reading
  | [] => .ok r
  | s :: rest =>
    match r.switch s with
    | .error u => .error u
    | .ok r => r.switches rest

end Reading

namespace Word

def text : Word → Text
  | .argument t | .marker t | .unknown t => t
  | _ => []

def isOption : Word → Bool
  | .argument _ | .marker _ => false
  | _ => true

def isArgument : Word → Bool
  | .argument _ => true
  | _ => false

def isMarker : Word → Bool
  | .marker _ => true
  | _ => false

end Word

/-- Takes markers, one argument, and markers after it. -/
def takeArgument (words : List Word) : List Word × List Word :=
  let before := words.takeWhile Word.isMarker
  let rest := words.dropWhile Word.isMarker
  let argument := (rest.take 1).filter Word.isArgument
  let rest := rest.drop argument.length
  (before ++ argument ++ rest.takeWhile Word.isMarker, rest.dropWhile Word.isMarker)

/-- The argument among the words taken for it. Of two dashes, the first are the marker. -/
def argumentOf (words : List Word) : Option Text :=
  ((words.map Word.text).erase ['-', '-']).head?

/-- Takes the arguments that are wanted from the front of the words. -/
abbrev Taking := Reading → List Word → Option (Reading × List Word)

/-- In the first round no argument is wanted, and a marker alone is dropped. -/
def takeNone : Taking := fun r words => some (r, words.dropWhile Word.isMarker)

/-- In the second round a path is wanted, and a text may follow it. -/
def takeBoth : Taking := fun r words =>
  if (words.dropWhile Word.isMarker).head?.any Word.isArgument then
    let (forPath, rest) := takeArgument words
    let (forText, rest) := takeArgument rest
    some ({ r with path := argumentOf forPath, text := argumentOf forText }, rest)
  else none

/-- Goes through the words. Arguments are taken once, at the first place where there are any, or at
the end. -/
def goThrough (taking : Taking) : (fuel : Nat) → (taken : Bool) → Reading → List Word →
    Except Usage Reading
  | 0, _, r, _ => .ok r
  | fuel + 1, taken, r, words =>
    match words with
    | .refused :: _ => .error .mistaken
    | .unknown t :: rest => goThrough taking fuel taken (r.leave [t]) rest
    | .switch first more :: rest =>
      match r.switches (first :: more) with
      | .error u => .error u
      | .ok r => goThrough taking fuel taken r rest
    | .partly first more unknown :: rest =>
      match r.switches (first :: more) with
      | .error u => .error u
      | .ok s => goThrough taking fuel taken { s with leftOver := r.leftOver ++ [unknown] } rest
    | words =>
      match if taken then none else taking r words with
      | some (r, rest) =>
        if rest.length < words.length then goThrough taking fuel true r rest
        else
          let r := r.leave ((rest.takeWhile fun w => !w.isOption).map Word.text)
          goThrough taking fuel true r (rest.dropWhile fun w => !w.isOption)
      | none =>
        let r := r.leave ((words.takeWhile fun w => !w.isOption).map Word.text)
        if words.any Word.isOption then
          goThrough taking fuel taken r (words.dropWhile fun w => !w.isOption)
        else .ok r

/-- One round through the words. -/
def round (taking : Taking) (r : Reading) (words : List Text) : Except Usage Reading :=
  match Word.readAll? words with
  | none => .error .mistaken
  | some words => goThrough taking (2 * words.length + 2) false r words

def Arguments.read (words : List Text) : Except Usage Arguments :=
  match round takeNone Reading.start words with
  | .error u => .error u
  | .ok first =>
    match round takeBoth { first with trims := [], leftOver := [] } first.leftOver with
    | .error u => .error u
    | .ok second =>
      match second.path, second.leftOver with
      | some path, [] => .ok ⟨path, second.text, second.trimming, second.verbose⟩
      | _, _ => .error .mistaken

end MaximalMunch.CommandLine
