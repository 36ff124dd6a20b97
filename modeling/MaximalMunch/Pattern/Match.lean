import MaximalMunch.Pattern.Program

/-!
Matching by backtracking. A program is followed from a place in the text, and what is left to do
after it is handed down as a function; alternatives are tried in order, and the first way through
counts. A group remembers where it began and ended last; what an assertion or an atomic group has
settled is not tried again.
-/

namespace MaximalMunch.Pattern

structure Mark where
  start : Option Nat
  stop : Option Nat
  deriving DecidableEq, Repr

structure Place where
  pos : Nat
  /-- One entry for each group. -/
  marks : List Mark
  deriving DecidableEq, Repr

abbrev Rest := Place → Option Place

namespace Place

def move (p : Place) (pos : Nat) : Place := { p with pos }

def begin (p : Place) (number : Nat) : Place :=
  let m := (p.marks[number - 1]?).getD ⟨none, none⟩
  { p with marks := p.marks.set (number - 1) { m with start := some p.pos } }

def finish (p : Place) (number : Nat) : Place :=
  let m := (p.marks[number - 1]?).getD ⟨none, none⟩
  { p with marks := p.marks.set (number - 1) { m with stop := some p.pos } }

/-- Where a group matched last, if it has matched. -/
def span? (p : Place) (number : Nat) : Option (Nat × Nat) :=
  match p.marks[number - 1]? with
  | some ⟨some start, some stop⟩ => if start ≤ stop then some (start, stop) else none
  | _ => none

end Place

def isWordAt (text : Array Char) (ascii : Bool) (i : Nat) : Bool :=
  match text[i]? with
  | some c => Category.word.holds ascii c.toNat
  | none => false

def isNewlineAt (text : Array Char) (i : Nat) : Bool := text[i]? == some '\n'

/-- In an empty text there is no boundary, and no place off a boundary either. -/
def Spot.holds (text : Array Char) (i : Nat) : Spot → Bool
  | .textStart => i == 0
  | .lineStart => i == 0 || isNewlineAt text (i - 1)
  | .textEnd => i == text.size
  | .lineEnd => i == text.size || isNewlineAt text i
  | .lastEnd => i == text.size || (i + 1 == text.size && isNewlineAt text i)
  | .boundary ascii negated =>
    text.size != 0 &&
      ((i != 0 && isWordAt text ascii (i - 1)) != isWordAt text ascii i) != negated

/-- How many characters from `i` on pass the test, up to `limit` of them. -/
def runLength (text : Array Char) (test : CharTest) : (limit : Nat) → (i : Nat) → Nat
  | 0, _ => 0
  | limit + 1, i =>
    match text[i]? with
    | some c => if test.holds c then runLength text test limit (i + 1) + 1 else 0
    | none => 0

/-- Whether the `count` characters from `i` and from `j` on are the same. -/
def sameRun (text : Array Char) (fold : Fold) : (count : Nat) → (i j : Nat) → Bool
  | 0, _, _ => true
  | count + 1, i, j =>
    match text[i]?, text[j]? with
    | some c, some d =>
      fold.apply c.toNat == fold.apply d.toNat && sameRun text fold count (i + 1) (j + 1)
    | _, _ => false

/-- Goes on after `n`, `n - 1`, …, `least` characters. -/
def shrink (rest : Rest) (p : Place) (least : Nat) : (n : Nat) → Option Place
  | 0 => if least = 0 then rest p else none
  | n + 1 =>
    if n + 1 < least then none
    else (rest (p.move (p.pos + (n + 1)))).or (shrink rest p least n)

/-- Goes on after `n`, `n + 1`, …, `n + more` characters. -/
def grow (rest : Rest) (p : Place) : (more : Nat) → (n : Nat) → Option Place
  | 0, n => rest (p.move (p.pos + n))
  | more + 1, n => (rest (p.move (p.pos + n))).or (grow rest p more (n + 1))

def below (n : Nat) : Option Nat → Bool
  | some most => n < most
  | none => true

/-- Repeats `body`. Beyond `least` rounds, a round has to start elsewhere than the one before. -/
def repeatFrom (body : Rest → Rest) (greed : Greed) (least : Nat) (most : Option Nat)
    (rest : Rest) : (fuel count : Nat) → (last : Option Nat) → Rest
  | 0, _, _, _ => none
  | fuel + 1, count, last, p =>
    if count < least then body (repeatFrom body greed least most rest fuel (count + 1) last) p
    else
      let again := below count most && last != some p.pos
      match greed with
      | .reluctant =>
        (rest p).or
          (if again then
            body (repeatFrom body greed least most rest fuel (count + 1) (some p.pos)) p
          else none)
      | _ =>
        (if again then
          body (repeatFrom body greed least most rest fuel (count + 1) (some p.pos)) p
        else none).or (rest p)

/-- Repeats `body` as often as it goes, each round settled for good. -/
def repeatSettled (body : Rest → Rest) (least : Nat) (most : Option Nat) :
    (fuel count : Nat) → (last : Option Nat) → Rest
  | 0, _, _, _ => none
  | fuel + 1, count, last, p =>
    if count < least then
      match body some p with
      | some q => repeatSettled body least most fuel (count + 1) last q
      | none => none
    else if below count most && last != some p.pos then
      match body some p with
      | some q => repeatSettled body least most fuel (count + 1) (some p.pos) q
      | none => some p
    else some p

def Program.follow (text : Array Char) : Program → Rest → Rest
  | .done, rest, p => rest p
  | .never, _, _ => none
  | .one test, rest, p =>
    match text[p.pos]? with
    | some c => if test.holds c then rest (p.move (p.pos + 1)) else none
    | none => none
  | .spot s, rest, p => if s.holds text p.pos then rest p else none
  | .seq first second, rest, p => first.follow text (second.follow text rest) p
  | .alt first second, rest, p => (first.follow text rest p).or (second.follow text rest p)
  | .capture number body, rest, p =>
    body.follow text (fun q => rest (q.finish number)) (p.begin number)
  | .again number fold, rest, p =>
    match p.span? number with
    | some (start, stop) =>
      if sameRun text fold (stop - start) start p.pos then
        rest (p.move (p.pos + (stop - start)))
      else none
    | none => none
  | .look back negated body, rest, p =>
    let found :=
      match back with
      | none => body.follow text some p
      | some distance =>
        if p.pos < distance then none else body.follow text some (p.move (p.pos - distance))
    match found with
    | some q => if negated then none else rest (q.move p.pos)
    | none => if negated then rest p else none
  | .condition number yes no, rest, p =>
    if (p.span? number).isSome then yes.follow text rest p else no.follow text rest p
  | .atomic body, rest, p =>
    match body.follow text some p with
    | some q => rest q
    | none => none
  | .loopOne greed least most test, rest, p =>
    let n := runLength text test (min (most.getD text.size) text.size) p.pos
    if n < least then none
    else match greed with
      | .greedy => shrink rest p least n
      | .reluctant => grow rest p (n - least) least
      | .possessive => rest (p.move (p.pos + n))
  | .loop greed least most body, rest, p =>
    let fuel := least + text.size + 2
    match greed with
    | .possessive =>
      match repeatSettled (body.follow text) least most fuel 0 none p with
      | some q => rest q
      | none => none
    | greed => repeatFrom (body.follow text) greed least most rest fuel 0 none p

/-- The number of groups that a program needs marks for. -/
def Program.groupCount : Program → Nat
  | .capture number body => max number body.groupCount
  | .seq a b | .alt a b | .condition _ a b => max a.groupCount b.groupCount
  | .look _ _ body | .atomic body | .loop _ _ _ body => body.groupCount
  | _ => 0

/-- The end of the match that begins where the text begins. -/
def Program.matchEnd? (program : Program) (text : Array Char) : Option Nat :=
  (program.follow text some ⟨0, List.replicate program.groupCount ⟨none, none⟩⟩).map (·.pos)

/-- The length of the match at the start of a text. An empty match consumes nothing and counts as
none. -/
def Program.matchLength? (program : Program) (text : Array Char) : Option Nat :=
  match program.matchEnd? text with
  | some 0 => none
  | found => found

end MaximalMunch.Pattern
