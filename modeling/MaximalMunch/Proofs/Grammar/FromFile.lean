import MaximalMunch.Proofs.Grammar.Agreement
import MaximalMunch.Proofs.Text.LineEnds

/-!
Reading a grammar file is reading its text. The bytes of a file are those of one text only, which is
read with a line feed for each of its line ends, so which kinds of line ends a file has makes no
difference. A byte order mark is a character like any other.
-/

namespace MaximalMunch
namespace Grammar

theorem ofYaml_ne_bytes (t : Text) (fault : Utf8.Fault) : ofYaml t ≠ .error (.bytes fault) := by
  rw [ofYaml]
  split
  · simp
  · split <;> simp

theorem ofBytes_lines {s : Text} {lines : List Text} (h : s.HasLines lines) :
    ofBytes (s.flatMap String.utf8EncodeChar) = ofYaml (Text.joinLines lines) := by
  rw [← Utf8.encode_eq, ofBytes_encode, h.unifyNewlines_eq]

variable {files : Files} {path : Path} {s : Text}

/-- A file with the bytes of a text gives what its lines give with a line feed between each two of
them, and any other file whose text has the same lines gives the same, be it a grammar or an error.
The bytes themselves are never at fault. -/
theorem ofFile_lines (found : files.find path = .file (s.flatMap String.utf8EncodeChar)) :
    (∃ lines, s.HasLines lines) ∧
    (∀ lines, s.HasLines lines →
      ofFile files path = ofYaml (Text.joinLines lines) ∧
      ∀ (files' : Files) (path' : Path) (s' : Text),
        files'.find path' = .file (s'.flatMap String.utf8EncodeChar) → s'.HasLines lines →
        ofFile files' path' = ofFile files path) ∧
    ∀ fault, ofFile files path ≠ .error (.bytes fault) := by
  have reads {files : Files} {path : Path} {s : Text} {lines : List Text}
      (found : files.find path = .file (s.flatMap String.utf8EncodeChar))
      (h : s.HasLines lines) : ofFile files path = ofYaml (Text.joinLines lines) := by
    rw [ofFile, found, ofFound, ofBytes_lines h]
  obtain ⟨lines, h⟩ := s.exists_lines
  refine ⟨⟨lines, h⟩, ?same, ?faults⟩
  case same =>
    intro lines h
    refine ⟨reads found h, fun files' path' s' found' h' => ?_⟩
    rw [reads found' h', reads found h]
  case faults =>
    rw [reads found h]
    exact ofYaml_ne_bytes _

/-! ### The same lines with line ends of two kinds -/

def accentedLines : List Text :=
  ["token_types:".toList, "  été: '€+'".toList, "  😀: '😀|é'".toList, []]

/-- One file has carriage returns with line feeds, the other carriage returns alone. -/
def accentedFiles : Files :=
  [(["both".toList], .file ((Text.LineEnd.both.text.intercalate accentedLines).flatMap
      String.utf8EncodeChar)),
    (["single".toList], .file ((Text.LineEnd.carriageReturn.text.intercalate accentedLines).flatMap
      String.utf8EncodeChar))]

def accented : Grammar :=
  ⟨[(TokenType.make "été".toList "€+".toList).toOption.get (by decide +kernel),
    (TokenType.make "😀".toList "😀|é".toList).toOption.get (by decide +kernel)], false⟩

theorem ofFile_lines_accented :
    accentedFiles.find (Path.ofText "both".toList) =
        .file ((Text.LineEnd.both.text.intercalate accentedLines).flatMap String.utf8EncodeChar) ∧
      ofFile accentedFiles (Path.ofText "both".toList) = .ok accented ∧
      ofFile accentedFiles (Path.ofText "single".toList) = .ok accented := by
  have both : accentedFiles.find (Path.ofText "both".toList) =
      .file ((Text.LineEnd.both.text.intercalate accentedLines).flatMap
        String.utf8EncodeChar) := by decide +kernel
  have single : accentedFiles.find (Path.ofText "single".toList) =
      .file ((Text.LineEnd.carriageReturn.text.intercalate accentedLines).flatMap
        String.utf8EncodeChar) := by decide +kernel
  have plain : ∀ line ∈ accentedLines, Text.IsLine line := by
    decide +kernel
  have lines (e : Text.LineEnd) : Text.HasLines (e.text.intercalate accentedLines) accentedLines :=
    Text.hasLines_join e (List.cons_ne_nil _ _) plain
  have loads : ofYaml (Text.joinLines accentedLines) = .ok accented :=
    ofYaml_of_mappingDocument (List.cons_ne_nil _ _) (by decide +kernel) (by decide +kernel)
      (by decide +kernel)
  obtain ⟨reads, same⟩ := (ofFile_lines both).2.1 _ (lines .both)
  refine ⟨both, reads.trans loads, ?_⟩
  rw [same _ _ _ single (lines .carriageReturn), reads, loads]

end Grammar
end MaximalMunch
