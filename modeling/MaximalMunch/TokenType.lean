import MaximalMunch.Grammar.Error
import MaximalMunch.Pattern.Match

/-!
Token types and tokens. A token type is a name and a regular expression that was found to be in
order; it always carries the program of that expression, so two token types are the same when their
names and expressions are. A token is a piece of text together with its type.
-/

namespace MaximalMunch

structure TokenType where
  name : Text
  regex : Text
  program : Pattern.Program
  named : name ≠ []
  compiled : Pattern.compile regex = .ok program

namespace TokenType

theorem ext_name_regex {a b : TokenType} (hn : a.name = b.name) (hr : a.regex = b.regex) :
    a = b := by
  obtain ⟨name, regex, program, _, ha⟩ := a
  obtain ⟨_, _, other, _, hb⟩ := b
  cases hn
  cases hr
  have hp : program = other := by simpa [ha] using hb
  cases hp
  rfl

instance : DecidableEq TokenType := fun a b =>
  if hn : a.name = b.name then
    if hr : a.regex = b.regex then .isTrue (ext_name_regex hn hr)
    else .isFalse fun h => hr (h ▸ rfl)
  else .isFalse fun h => hn (h ▸ rfl)

/-- The token type of a name and an expression. A missing name is blamed before the expression. -/
def make (name regex : Text) : Except GrammarError TokenType :=
  if hn : name = [] then .error .unnamed
  else
    match hc : Pattern.compile regex with
    | .error e => .error (.pattern name regex e)
    | .ok program => .ok ⟨name, regex, program, hn, hc⟩

/-- How many characters at the start of a text are of this type. No type matches the empty text. -/
def matchLength? (t : TokenType) (text : Text) : Option Nat := t.program.matchLength? text.toArray

def shown (t : TokenType) : Text :=
  "TokenType(name=".toList ++ Text.quoted t.name ++ ", regex=".toList ++ Text.quoted t.regex ++
    ")".toList

end TokenType

structure Token where
  type : TokenType
  value : Text
  deriving DecidableEq

namespace Token

def name (t : Token) : Text := t.type.name

def shown (t : Token) : Text := t.name ++ ":\"".toList ++ t.value ++ "\"".toList

end Token
end MaximalMunch
