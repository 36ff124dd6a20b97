import MaximalMunch.Files
import MaximalMunch.Grammar.OfData
import MaximalMunch.Text.Utf8
import MaximalMunch.Yaml.Graph

/-!
Loading grammars from YAML text and from files. A file is found or not, its bytes are a text or not,
the text is YAML or not, and what it says is a grammar or not; the first of these that fails is the
error. Line ends of a file are unified before it is read.
-/

namespace MaximalMunch

inductive LoadError where
  | missing (path : Path)
  | nameTooLong (path : Path)
  | directory (path : Path)
  | bytes (fault : Utf8.Fault)
  | yaml (fault : Yaml.Fault)
  | grammar (error : GrammarError)

namespace LoadError

def message : LoadError → Text
  | .missing path => "Grammar file '".toList ++ path.text ++ "' not found.".toList
  | .nameTooLong path => "[Errno 36] File name too long: ".toList ++ Text.quoted path.text
  | .directory path => "[Errno 21] Is a directory: ".toList ++ Text.quoted path.text
  | .bytes fault => fault.message
  | .yaml fault => fault.message
  | .grammar error => error.message

/-- Whether the grammar is at fault, or the file. A value out of range is not reported as such. -/
def isReported : LoadError → Bool
  | .yaml .malformed => true
  | .yaml _ => false
  | .grammar error => error.isMalformed
  | _ => true

end LoadError

namespace Grammar

def ofYaml (t : Text) : Except LoadError Grammar :=
  match Yaml.read t with
  | .error f => .error (.yaml f)
  | .ok d =>
    match ofData d with
    | .error e => .error (.grammar e)
    | .ok g => .ok g

/-- The grammar in the bytes of a file. -/
def ofBytes (bytes : List UInt8) : Except LoadError Grammar :=
  match Utf8.decode bytes with
  | .error f => .error (.bytes f)
  | .ok t => ofYaml (Text.unifyNewlines t)

/-- The grammar in what a path leads to. -/
def ofFound (path : Path) (found : Found) : Except LoadError Grammar :=
  match found with
  | .missing => .error (.missing path)
  | .nameTooLong => .error (.nameTooLong path)
  | .directory => .error (.directory path)
  | .file bytes => ofBytes bytes

def ofFile (files : Files) (path : Path) : Except LoadError Grammar :=
  ofFound path (files.find path)

end Grammar
end MaximalMunch
