import MaximalMunch.Scan
import MaximalMunch.Text.Numeral

/-!
A cursor over the tokens of a text. Tokens are scanned when they are asked for, each of them once,
and kept. The position after the last token reads as the end, which is `none`. Every operation
gives its result together with the cursor after it; what a failing operation has scanned is kept.

A walk over the tokens has a position of its own, so walks and the cursor do not move each other. A
walk that has come to the end or has failed gives nothing more, whatever happens to the cursor
afterwards.
-/

namespace MaximalMunch

inductive CursorError where
  | scan (error : ScanError)
  | noPrevious
  | noNext
  | negativeIndex (index : Int)
  | indexTooLarge (index maxIndex : Int)
  deriving DecidableEq, Repr

namespace CursorError

def message : CursorError → Text
  | .scan e => e.message
  | .noPrevious => "No tokens before the first one.".toList
  | .noNext => "No tokens after the END token.".toList
  | .negativeIndex _ => "Negative token index.".toList
  | .indexTooLarge _ maxIndex => "Index too large. Max index = ".toList ++ Text.ofInt maxIndex

end CursorError

structure Cursor where
  scan : Scan
  /-- The tokens scanned so far. -/
  tokens : List Token
  /-- Whether the scan has reached the end of the text. -/
  exhausted : Bool
  active : Nat
  deriving DecidableEq

namespace Cursor

def start (grammar : Option Grammar) (text : Text) : Cursor :=
  ⟨Scan.start grammar text, [], false, 0⟩

def grammar (c : Cursor) : Option Grammar := c.scan.grammar

def text (c : Cursor) : Text := c.scan.text

def remaining (c : Cursor) : Text := c.scan.remaining

def reset (c : Cursor) : Cursor := start c.grammar c.text

def setText (c : Cursor) (text : Text) : Cursor := start c.grammar text

def setGrammar (c : Cursor) (grammar : Option Grammar) : Cursor := start grammar c.text

/-- The cursor with its grammar changed in place; tokens scanned before are kept. -/
def changeGrammar (c : Cursor) (grammar : Option Grammar) : Cursor :=
  { c with scan := c.scan.withGrammar grammar }

/-- Scans until there are more than `index` tokens or the text ends, at most `fuel` times. -/
def fillBy (c : Cursor) (index : Nat) : (fuel : Nat) → Except ScanError Unit × Cursor
  | 0 => (.ok (), c)
  | fuel + 1 =>
    if index < c.tokens.length || c.exhausted then (.ok (), c)
    else match c.scan.next with
      | (.error e, scan) => (.error e, { c with scan })
      | (.ok none, scan) => (.ok (), { c with scan, exhausted := true })
      | (.ok (some token), scan) =>
        fillBy { c with scan, tokens := c.tokens ++ [token] } index fuel

/-- Each scan but the last makes the window smaller. -/
def fill (c : Cursor) (index : Nat) : Except ScanError Unit × Cursor :=
  c.fillBy index (c.scan.size + 1)

/-- The token at a position, scanned if need be. -/
def read (c : Cursor) (index : Nat) : Except CursorError (Option Token) × Cursor :=
  match c.fill index with
  | (.error e, c) => (.error (.scan e), c)
  | (.ok _, c) => (.ok c.tokens[index]?, c)

/-- All tokens, none of which lies beyond the last character. -/
def all (c : Cursor) : Except CursorError (List Token) × Cursor :=
  match c.fill (c.tokens.length + c.scan.size) with
  | (.error e, c) => (.error (.scan e), c)
  | (.ok _, c) => (.ok c.tokens, c)

def activeToken (c : Cursor) : Except CursorError (Option Token) × Cursor := c.read c.active

def stepBack (c : Cursor) : Except CursorError Unit × Cursor :=
  match c.active with
  | 0 => (.error .noPrevious, c)
  | active + 1 => (.ok (), { c with active })

/-- The position moved to is scanned before the move, so a failing scan leaves the cursor there. -/
def stepForward (c : Cursor) : Except CursorError Unit × Cursor :=
  match c.activeToken with
  | (.error e, c) => (.error e, c)
  | (.ok none, c) => (.error .noNext, c)
  | (.ok (some _), c) =>
    match c.read (c.active + 1) with
    | (.error e, c) => (.error e, c)
    | (.ok _, c) => (.ok (), { c with active := c.active + 1 })

def previousToken (c : Cursor) : Except CursorError (Option Token) × Cursor :=
  match c.stepBack with
  | (.error e, c) => (.error e, c)
  | (.ok _, c) => c.activeToken

def nextToken (c : Cursor) : Except CursorError (Option Token) × Cursor :=
  match c.stepForward with
  | (.error e, c) => (.error e, c)
  | (.ok _, c) => c.activeToken

def hasPrevious (c : Cursor) : Bool := 0 < c.active

/-- Whether there is a token at the active position and another one after it. -/
def hasNext (c : Cursor) : Except CursorError Bool × Cursor :=
  match c.activeToken with
  | (.error e, c) => (.error e, c)
  | (.ok none, c) => (.ok false, c)
  | (.ok (some _), c) =>
    match c.nextToken with
    | (.error e, c) => (.error e, c)
    | (.ok following, after) => (.ok following.isSome, { after with active := c.active })

def firstToken (c : Cursor) : Except CursorError (Option Token) × Cursor :=
  activeToken { c with active := 0 }

/-- Moves to the last token. Without any token the cursor stays. -/
def lastToken (c : Cursor) : Except CursorError (Option Token) × Cursor :=
  match c.all with
  | (.error e, c) => (.error e, c)
  | (.ok [], c) => (.ok none, c)
  | (.ok tokens, c) => activeToken { c with active := tokens.length - 1 }

def tokenAt (c : Cursor) (index : Int) : Except CursorError Token × Cursor :=
  match c.all with
  | (.error e, c) => (.error e, c)
  | (.ok tokens, c) =>
    if index < 0 then (.error (.negativeIndex index), c)
    else match tokens[index.toNat]? with
      | some token => (.ok token, c)
      | none => (.error (.indexTooLarge index ((tokens.length : Int) - 1)), c)

def shown (c : Cursor) : Text :=
  "Tokenizer(".toList ++ Grammar.shownIfAny c.grammar ++ ", ".toList ++ Text.quoted c.text ++
    ", active_index=".toList ++ Text.ofNat c.active ++ ")".toList

end Cursor

/-- All tokens of a text. -/
def tokenize (grammar : Option Grammar) (text : Text) : Except CursorError (List Token) :=
  (Cursor.start grammar text).all.1

/-! ### Walks -/

structure Walk where
  position : Nat
  finished : Bool
  deriving DecidableEq, Repr

namespace Walk

def start : Walk := ⟨0, false⟩

/-- The next token of the walk, none once it is over. -/
def next (w : Walk) (c : Cursor) : Except CursorError (Option Token) × Walk × Cursor :=
  if w.finished then (.ok none, w, c)
  else match c.read w.position with
    | (.error e, c) => (.error e, { w with finished := true }, c)
    | (.ok none, c) => (.ok none, { w with finished := true }, c)
    | (.ok (some token), c) => (.ok (some token), { w with position := w.position + 1 }, c)

/-- Follows a walk to its end, at most so many steps. -/
def collectBy (w : Walk) (c : Cursor) : Nat → Except CursorError (List Token) × Cursor
  | 0 => (.ok [], c)
  | fuel + 1 =>
    match w.next c with
    | (.error e, _, c) => (.error e, c)
    | (.ok none, _, c) => (.ok [], c)
    | (.ok (some token), w, c) =>
      match w.collectBy c fuel with
      | (.error e, c) => (.error e, c)
      | (.ok tokens, c) => (.ok (token :: tokens), c)

end Walk

/-- The tokens that a full walk gives. There are no more tokens than have been scanned and than
characters are left. -/
def Cursor.collect (c : Cursor) : Except CursorError (List Token) × Cursor :=
  Walk.start.collectBy c (c.tokens.length + c.scan.size + 1)

end MaximalMunch
