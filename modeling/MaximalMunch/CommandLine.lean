import MaximalMunch.CommandLine.Arguments
import MaximalMunch.Cursor
import MaximalMunch.Grammar.Loading

/-!
The command line: it loads a grammar from a file, cuts a text into tokens and writes one record for
each of them, its number, its name and its quoted value. Records written before an error stay
written. The log is kept in any case and written only where it is asked for, each entry on a line of
its own after the name of the part of the program that it comes from.
-/

namespace MaximalMunch.CommandLine

/-! ### The log -/

inductive LogEntry where
  | loading (path : Text)
  | built (grammar : Grammar)
  | tokenizing (size : Nat) (grammar : Grammar)
  | reset (size : Nat)
  | scanned (token : Token) (offset : Int)
  deriving DecidableEq

namespace LogEntry

def source : LogEntry → Text
  | .loading _ | .built _ => "grammar".toList
  | .tokenizing _ _ => "cli".toList
  | .reset _ => "tokenizer".toList
  | .scanned _ _ => "scanner".toList

def message : LogEntry → Text
  | .loading path => "Loading grammar from ".toList ++ path
  | .built grammar => "Built ".toList ++ grammar.shown
  | .tokenizing size grammar =>
    "Tokenizing ".toList ++ Text.ofNat size ++ " characters with ".toList ++ grammar.shown
  | .reset size =>
    "Tokenizer reset, ".toList ++ Text.ofNat size ++ " characters to scan".toList
  | .scanned token offset =>
    "Scanned ".toList ++ token.shown ++ " at offset ".toList ++ Text.ofInt offset

def line (e : LogEntry) : Text :=
  "DEBUG grammar_tokenizer.".toList ++ e.source ++ ": ".toList ++ e.message ++ ['\n']

end LogEntry

/-! ### The run -/

/-- A token with the place in the text where it begins. -/
structure Located where
  token : Token
  offset : Int
  deriving DecidableEq

/-- Reads the tokens from a position on, at most `fuel` of them, and the error that ends them. -/
def locateFrom (c : Cursor) (position : Nat) : (fuel : Nat) → List Located × Option CursorError
  | 0 => ([], none)
  | fuel + 1 =>
    match c.read position with
    | (.error e, _) => ([], some e)
    | (.ok none, _) => ([], none)
    | (.ok (some token), c) =>
      let (rest, e?) := locateFrom c (position + 1) fuel
      (⟨token, c.scan.pos - token.value.length⟩ :: rest, e?)

/-- The tokens of a text with their places. There are no more tokens than characters. -/
def locate (grammar : Grammar) (text : Text) : List Located × Option CursorError :=
  locateFrom (Cursor.start (some grammar) text) 0 (text.length + 1)

def record (number : Nat) (token : Token) : Text :=
  Text.ofNat number ++ ['\t'] ++ token.name ++ ['\t'] ++ Text.quoted token.value ++ ['\n']

/-- The records of tokens, numbered from `number` on. -/
def records (number : Nat) : List Token → Text
  | [] => []
  | token :: rest => record number token ++ records (number + 1) rest

/-- What a run has done. -/
structure Report where
  tokens : List Token
  log : List LogEntry
  error : Option Text
  deriving DecidableEq

namespace Report

def output (r : Report) : Text := records 0 r.tokens

def errorLine : Option Text → Text
  | none => []
  | some message => "error: ".toList ++ message ++ ['\n']

def messages (verbose : Bool) (r : Report) : Text :=
  (if verbose then r.log.flatMap LogEntry.line else []) ++ errorLine r.error

def exitCode (r : Report) : Nat := if r.error.isSome then 1 else 0

end Report

/-- The log of loading, which begins once the file is found. -/
def loadingLog (path : Path) : Except LoadError Grammar → List LogEntry
  | .ok g => [.loading path.text, .built g]
  | .error (.missing _) | .error (.nameTooLong _) => []
  | .error _ => [.loading path.text]

def withTrimming (g : Grammar) : Option Bool → Grammar
  | none => g
  | some trimming => { g with trimming }

/-- Tokenizes a text with a loaded grammar. -/
def tokenizing (loading : List LogEntry) (g : Grammar) (text : Text) : Report :=
  let (located, e?) := locate g text
  ⟨located.map (·.token),
    loading ++ [.tokenizing text.length g, .reset text.length] ++
      located.map (fun l => .scanned l.token l.offset),
    e?.map (·.message)⟩

/-- Runs the program with arguments that are understood, on what the path leads to. An error that
is not reported is passed on. -/
def run (found : Found) (stdin : Text) (a : Arguments) : Except LoadError Report :=
  let path := Path.ofText a.path
  let loaded := Grammar.ofFound path found
  match loaded with
  | .ok g =>
    .ok (tokenizing (loadingLog path loaded) (withTrimming g a.trimming) (a.text.getD stdin))
  | .error e =>
    if e.isReported then .ok ⟨[], loadingLog path loaded, some e.message⟩ else .error e

/-- How a command line ends: with a note on usage, with an error passed on, or with output. -/
inductive Outcome where
  | usage (exitCode : Nat)
  | failed (error : LoadError)
  | finished (exitCode : Nat) (output messages : Text)

def Usage.exitCode : Usage → Nat
  | .asked => 0
  | .mistaken => 2

def execute (files : Files) (stdin : Text) (words : List Text) : Outcome :=
  match Arguments.read words with
  | .error u => .usage u.exitCode
  | .ok a =>
    match run (files.find (Path.ofText a.path)) stdin a with
    | .error e => .failed e
    | .ok r => .finished r.exitCode r.output (r.messages a.verbose)

end MaximalMunch.CommandLine
