import MaximalMunch.Pattern.Fault

/-!
Why a grammar is refused: a token type is not in order, a name is taken, or the definition does not
have the form of a grammar. Each cause keeps what it blames, an entry as it is written, and `message`
words it.
-/

namespace MaximalMunch

inductive GrammarError where
  | unnamed
  | pattern (name regex : Text) (error : Pattern.Error)
  | duplicate (name : Text)
  | notMapping
  | trimmingNotFlag
  | noTokenTypes
  | entryIncomplete (entry : Text)
  | entryNotText (entry : Text)
  | numberTooLong

namespace GrammarError

def patternMessage (name regex : Text) : Pattern.Error → Text
  | .fault f => "Invalid regex for ".toList ++ name ++ ": ".toList ++ f.message regex
  | .repeatTooLarge => "the repetition number is too large".toList
  | .codePointTooLarge => "Python int too large to convert to C int".toList
  | .numeralTooLong digits => Text.digitLimitMessage (some digits)
  | .clashingModes => "ASCII and UNICODE flags are incompatible".toList

def message : GrammarError → Text
  | .unnamed => "Token type must have a name".toList
  | .pattern name regex e => patternMessage name regex e
  | .duplicate name => "Duplicate token type: ".toList ++ name
  | .notMapping => "Grammar definition must be a mapping".toList
  | .trimmingNotFlag => "'trimming' must be true or false".toList
  | .noTokenTypes => "'token_types' must be a non-empty list or mapping".toList
  | .entryIncomplete entry => "Token type entry needs 'name' and 'regex': ".toList ++ entry
  | .entryNotText entry => "Token type entry needs a name and a regex string: ".toList ++ entry
  | .numberTooLong => Text.digitLimitMessage none

/-- Whether the definition is malformed. What goes beyond the range of the pattern engine is an
error of another kind, and so is a number that is too long to be written. -/
def isMalformed : GrammarError → Bool
  | .pattern _ _ (.fault _) => true
  | .pattern _ _ _ => false
  | .numberTooLong => false
  | _ => true

end GrammarError
end MaximalMunch
