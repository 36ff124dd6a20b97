import MaximalMunch.Text.Numeral

/-!
Decimal numerals are read back. A reader of base ten takes digits of every script and underscores
between them; on the digits from zero to nine alone it adds one place for each digit, as the numeral
was written. So a numeral gives back its number.
-/

namespace MaximalMunch.Text

theorem decimalValue?_digit {c : Char} (digit : c.isDigit = true) :
    decimalValue? c = some (c.toNat - '0'.toNat) := by
  have bounds : 48 ≤ c.toNat ∧ c.toNat ≤ 57 := Char.isDigit_iff_toNat.mp digit
  have value : (c.toNat - 48) % 10 = c.toNat - 48 := Nat.mod_eq_of_lt (by omega)
  -- The digits from zero to nine are the first block of the table.
  rw [decimalValue?, decimalRanges, List.find?_cons_of_pos (by simpa using bounds)]
  simp [value]

theorem readDigits?_cons {c : Char} (digit : c.isDigit = true) (rest : Text) (acc : Nat)
    (afterDigit : Bool) :
    readDigits? 10 (c :: rest) acc afterDigit =
      readDigits? 10 rest (10 * acc + (c.toNat - '0'.toNat)) true := by
  have bounds : 48 ≤ c.toNat ∧ c.toNat ≤ 57 := Char.isDigit_iff_toNat.mp digit
  have plain : c ≠ '_' := by
    rintro rfl
    cases digit
  have small : c.toNat - '0'.toNat < 10 := by
    change c.toNat - 48 < 10
    omega
  rw [readDigits?, if_neg plain, digitValue?, decimalValue?_digit digit]
  simp only [if_pos small, Nat.mul_comm acc 10]

theorem readDigits?_digits {t : Text} (digits : ∀ c ∈ t, c.isDigit = true) (acc : Nat) :
    readDigits? 10 t acc true = some (Nat.ofDigitChars 10 t acc) := by
  induction t generalizing acc with
  | nil => rfl
  | cons c rest ih =>
      rw [readDigits?_cons (digits c List.mem_cons_self), Nat.ofDigitChars_cons]
      exact ih (fun d mem => digits d (List.mem_cons_of_mem _ mem)) _

/-- No mark of a base stands in front of a numeral of base ten. -/
theorem readMagnitude?_ten (t : Text) : readMagnitude? 10 t = readDigits? 10 t 0 false := by
  rw [readMagnitude?.eq_def]
  split
  · exact if_neg fun marked => by simp [baseMark] at marked
  · rfl

@[simp] theorem readMagnitude?_ofNat (n : Nat) : readMagnitude? 10 (ofNat n) = some n := by
  have digits : ∀ c ∈ ofNat n, c.isDigit = true := fun _ mem =>
    Nat.isDigit_of_mem_toDigits (by decide) (by decide) mem
  have value : Nat.ofDigitChars 10 (ofNat n) 0 = n := Nat.ofDigitChars_ten_toDigits
  rw [readMagnitude?_ten]
  -- The first digit has to be there; those behind it follow a digit.
  cases written : ofNat n with
  | nil => exact absurd written Nat.toDigits_ne_nil
  | cons c rest =>
      rw [written] at digits value
      rw [readDigits?_cons (digits c List.mem_cons_self),
        readDigits?_digits fun d mem => digits d (List.mem_cons_of_mem _ mem),
        ← Nat.ofDigitChars_cons, value]

end MaximalMunch.Text
