import MaximalMunch.Text.Numeral
import MaximalMunch.Text.Quoted

/-!
Why a regular expression is refused. A fault names its cause and, where there is one, the position
of the character it is blamed on. Three further refusals lie beyond the grammar of patterns: a
repeat count or a code point past the range of the engine, and a clash of two character modes that
are both set for the whole pattern.
-/

namespace MaximalMunch.Pattern

inductive Greed where
  | greedy
  | reluctant
  | possessive
  deriving DecidableEq, Repr

inductive Cause where
  | escapeAtEnd
  | incompleteEscape (escape : Text)
  | octalTooLarge (escape : Text)
  | unknownEscape (escape : Text)
  | missingBrace
  | missingName (what : Text)
  | unterminatedName (closer : Char)
  | unknownCharacterName (name : Text)
  | openGroup
  | groupOfSameLookBehind
  | unknownGroupNumber (n : Nat)
  | unterminatedSet
  | badRange (lo hi : Text)
  | reversedBounds
  | nothingToRepeat
  | repeatedRepeat
  | endOfPattern
  | unknownExtension (opening : Text)
  | unterminatedComment
  | unterminatedGroup
  | unknownGroupName (name : Text)
  | badGroupName (name : Text)
  | groupNumberZero
  | thirdBranch
  | groupNameTaken (name : Text) (new old : Nat)
  | lateGlobalFlags
  | localeFlag
  | clashingFlags
  | missingFlagsEnd
  | unknownFlag
  | missingFlag
  | missingColon
  | modeTurnedOff
  | globalFlagTurnedOn
  | globalFlagTurnedOff
  | flagOnAndOff
  | unbalancedParenthesis
  | lookBehindTooFar
  | lookBehindNotFixed
  | repeatInTemplate (greed : Greed)
  deriving DecidableEq, Repr

def Greed.label : Greed → Text
  | .greedy => "MAX_REPEAT".toList
  | .reluctant => "MIN_REPEAT".toList
  | .possessive => "POSSESSIVE_REPEAT".toList

def Cause.message : Cause → Text
  | .escapeAtEnd => "bad escape (end of pattern)".toList
  | .incompleteEscape e => "incomplete escape ".toList ++ e
  | .octalTooLarge e => "octal escape value ".toList ++ e ++ " outside of range 0-0o377".toList
  | .unknownEscape e => "bad escape ".toList ++ e
  | .missingBrace => "missing \x7b".toList
  | .missingName what => "missing ".toList ++ what
  | .unterminatedName closer => "missing ".toList ++ [closer] ++ ", unterminated name".toList
  | .unknownCharacterName name => "undefined character name ".toList ++ Text.quoted name
  | .openGroup => "cannot refer to an open group".toList
  | .groupOfSameLookBehind =>
    "cannot refer to group defined in the same lookbehind subpattern".toList
  | .unknownGroupNumber n => "invalid group reference ".toList ++ Text.ofNat n
  | .unterminatedSet => "unterminated character set".toList
  | .badRange lo hi => "bad character range ".toList ++ lo ++ "-".toList ++ hi
  | .reversedBounds => "min repeat greater than max repeat".toList
  | .nothingToRepeat => "nothing to repeat".toList
  | .repeatedRepeat => "multiple repeat".toList
  | .endOfPattern => "unexpected end of pattern".toList
  | .unknownExtension opening => "unknown extension ?".toList ++ opening
  | .unterminatedComment => "missing ), unterminated comment".toList
  | .unterminatedGroup => "missing ), unterminated subpattern".toList
  | .unknownGroupName name => "unknown group name ".toList ++ Text.quoted name
  | .badGroupName name => "bad character in group name ".toList ++ Text.quoted name
  | .groupNumberZero => "bad group number".toList
  | .thirdBranch => "conditional backref with more than two branches".toList
  | .groupNameTaken name new old =>
    "redefinition of group name ".toList ++ Text.quoted name ++ " as group ".toList ++
      Text.ofNat new ++ "; was group ".toList ++ Text.ofNat old
  | .lateGlobalFlags => "global flags not at the start of the expression".toList
  | .localeFlag => "bad inline flags: cannot use 'L' flag with a str pattern".toList
  | .clashingFlags => "bad inline flags: flags 'a', 'u' and 'L' are incompatible".toList
  | .missingFlagsEnd => "missing -, : or )".toList
  | .unknownFlag => "unknown flag".toList
  | .missingFlag => "missing flag".toList
  | .missingColon => "missing :".toList
  | .modeTurnedOff => "bad inline flags: cannot turn off flags 'a', 'u' and 'L'".toList
  | .globalFlagTurnedOn => "bad inline flags: cannot turn on global flag".toList
  | .globalFlagTurnedOff => "bad inline flags: cannot turn off global flag".toList
  | .flagOnAndOff => "bad inline flags: flag turned on and off".toList
  | .unbalancedParenthesis => "unbalanced parenthesis".toList
  | .lookBehindTooFar => "looks too much behind".toList
  | .lookBehindNotFixed => "look-behind requires fixed-width pattern".toList
  | .repeatInTemplate greed =>
    "internal: unsupported template operator ".toList ++ greed.label

structure Fault where
  cause : Cause
  position : Option Nat
  deriving DecidableEq, Repr

inductive Error where
  | fault (f : Fault)
  | repeatTooLarge
  | codePointTooLarge
  | numeralTooLong (digits : Nat)
  | clashingModes
  deriving DecidableEq, Repr

/-- The line and the column, both from one, of a position. -/
def lineAndColumn (regex : Text) (position : Nat) : Nat × Nat :=
  let before := regex.take position
  (before.count '\n' + 1, (before.reverse.takeWhile (· != '\n')).length + 1)

/-- A position is told in lines and columns too where the expression has several lines. -/
def Fault.message (regex : Text) (f : Fault) : Text :=
  match f.position with
  | none => f.cause.message
  | some p =>
    let lines :=
      if regex.contains '\n' then
        let (line, column) := lineAndColumn regex p
        " (line ".toList ++ Text.ofNat line ++ ", column ".toList ++ Text.ofNat column ++
          ")".toList
      else []
    f.cause.message ++ " at position ".toList ++ Text.ofNat p ++ lines

end MaximalMunch.Pattern
