import MaximalMunch.Proofs.CommandLine.ReadBack
import MaximalMunch.Proofs.Text.Numeral

/-!
One record by itself. Its number is read back from what stands in front of the first tab, its value
from what stands behind the last one, and its name is all that lies between, whatever it holds. So a
record tells which number, name and value it was written for. That says nothing of many records one
behind the other: a name with a line feed spoils the lines, but not the record.
-/

namespace MaximalMunch.CommandLine

/-- A record without the line feed at its end. -/
def recordText (number : Nat) (name value : Text) : Text :=
  recordLine ⟨Text.ofNat number, name, value⟩

/-- Reads the number, the name and the value that a record was written for. -/
def decode? (text : Text) : Option (Nat × Text × Text) := do
  let fields ← readRecord? text
  let number ← Text.readMagnitude? 10 fields.number
  return (number, fields.name, fields.value)

theorem record_eq_recordText (number : Nat) (t : Token) :
    record number t = recordText number t.name t.value ++ ['\n'] :=
  record_eq number t

theorem decode?_recordText (number : Nat) (name value : Text) :
    decode? (recordText number name value) = some (number, name, value) := by
  have noTab : '\t' ∉ Text.ofNat number := not_mem_ofNat (by decide) number
  rw [decode?, recordText, readRecord?_recordLine noTab]
  simp

variable {number number' : Nat} {name name' value value' : Text}

theorem recordText_inj :
    recordText number name value = recordText number' name' value' ↔
      number = number' ∧ name = name' ∧ value = value' := by
  constructor
  · intro same
    have read : some (number, name, value) = some (number', name', value') := by
      rw [← decode?_recordText, ← decode?_recordText, same]
    simpa using read
  · rintro ⟨rfl, rfl, rfl⟩
    rfl

/-- A record is read back as the number, the name and the value that it was written for, whatever
characters they are made of, and two records are the same only if all three are. The value stands in
its quoted form, which has neither a tab nor a character that ends a line. -/
theorem record_decoded (number number' : Nat) (name name' value value' : Text) :
    decode? (recordText number name value) = some (number, name, value) ∧
    (recordText number name value = recordText number' name' value' ↔
      number = number' ∧ name = name' ∧ value = value') ∧
    (∀ written, Text.QuotedAs value written ↔ written = Text.quoted value) ∧
    (∀ c ∈ Text.quoted value, c ≠ '\t' ∧ c ∉ Text.lineBreaks) ∧
    ∀ t : Token, record number t = recordText number t.name t.value ++ ['\n'] := by
  refine ⟨decode?_recordText number name value, recordText_inj, fun _ => Text.quotedAs_iff, ?_,
    record_eq_recordText number⟩
  intro c mem
  constructor
  · rintro rfl
    exact tab_not_mem_quoted value mem
  · intro ends
    exact Text.not_mem_quoted (Text.not_isPrintable_lineBreaks ends) value mem

theorem record_decoded_escapes :
    let name := "A\t'x'\n1\tB".toList
    let value := "\t'\"\\n\u0085\u2028".toList ++ [Char.ofNat 0xE0001]
    let text := "7\tA\t'x'\n1\tB\t'\\t\\'\"\\\\n\\x85\\u2028\\U000e0001'".toList
    recordText 7 name value = text ∧ decode? text = some (7, name, value) ∧
      'U' ∈ Text.quoted value ∧ 'U' ≠ '\t' ∧ 'U' ∉ Text.lineBreaks := by
  intro name value text
  have written : recordText 7 name value = text := by decide +kernel
  have letter : 'U' ∈ Text.quoted value := by decide +kernel
  obtain ⟨decoded, -, -, separate, -⟩ := record_decoded 7 0 name [] value []
  exact ⟨written, written ▸ decoded, letter, separate 'U' letter⟩

end MaximalMunch.CommandLine
