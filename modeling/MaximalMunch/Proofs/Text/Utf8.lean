import MaximalMunch.Text.Utf8

/-!
Decoding gives back what was encoded. The first byte of a character announces the others and the
range of the next one, which the bits of the character lie in, as it is no surrogate and was encoded
in as few bytes as it takes.
-/

namespace MaximalMunch.Utf8

theorem toNat_ofNat {n : Nat} (small : n < 256) : (UInt8.ofNat n).toNat = n := by
  simp [Nat.mod_eq_of_lt small]

section Step

variable {pos n k : Nat} {b : UInt8} {p : Begun}

/-- A character that announces no other bytes. -/
theorem decodeFrom_single (code : b.toNat = n) (small : n < 0x80) (rest : List UInt8) :
    decodeFrom pos none (b :: rest) =
      (decodeFrom (pos + 1) none rest).map (Char.ofNat n :: ·) := by
  simp [decodeFrom, begin?, code, small]

theorem decodeFrom_begin (begun : begin? pos b = some p) (owed : p.owed ≠ 0) (rest : List UInt8) :
    decodeFrom pos none (b :: rest) = decodeFrom (pos + 1) (some p) rest := by
  simp [decodeFrom, begun, owed]

/-- The last byte that is owed completes the character. -/
theorem decodeFrom_last (code : b.toNat = 0x80 + k) (owed : p.owed = 1) (low : p.low ≤ 0x80 + k)
    (high : 0x80 + k ≤ p.high) (rest : List UInt8) :
    decodeFrom pos (some p) (b :: rest) =
      (decodeFrom (pos + 1) none rest).map (Char.ofNat (p.bits * 64 + k) :: ·) := by
  simp [decodeFrom, code, low, high, owed]

theorem decodeFrom_next (code : b.toNat = 0x80 + k) (owed : p.owed ≠ 1) (low : p.low ≤ 0x80 + k)
    (high : 0x80 + k ≤ p.high) (rest : List UInt8) :
    decodeFrom pos (some p) (b :: rest) =
      decodeFrom (pos + 1)
        (some ⟨p.first, p.start, p.owed - 1, 0x80, 0xBF, p.bits * 64 + k⟩) rest := by
  simp [decodeFrom, code, low, high, owed]

/-- What the first of two, three or four bytes announces allows the byte that follows it. -/
theorem begin?_two (pos : Nat) (code : b.toNat = 0xC0 + n / 64) (large : 0x80 ≤ n)
    (small : n < 0x800) : begin? pos b = some ⟨b, pos, 1, 0x80, 0xBF, n / 64⟩ := by
  have notOne : ¬0xC0 + n / 64 < 0x80 := by omega
  have notNone : ¬0xC0 + n / 64 < 0xC2 := by omega
  have two : 0xC0 + n / 64 < 0xE0 := by omega
  simp [begin?, code, notOne, notNone, two]

theorem begin?_three (pos : Nat) (code : b.toNat = 0xE0 + n / 4096) (large : 0x800 ≤ n)
    (small : n < 0x10000) (valid : n < 0xD800 ∨ 0xDFFF < n) :
    ∃ low high, begin? pos b = some ⟨b, pos, 2, low, high, n / 4096⟩ ∧
      low ≤ 0x80 + n / 64 % 64 ∧ 0x80 + n / 64 % 64 ≤ high := by
  have notLess : ¬b.toNat < 0x80 ∧ ¬b.toNat < 0xC2 ∧ ¬b.toNat < 0xE0 := by omega
  by_cases first : b.toNat = 0xE0
  · have bits : n / 4096 = 0 := by omega
    exact ⟨0xA0, 0xBF, by simp [begin?, first, bits], by omega, by omega⟩
  · by_cases surrogates : b.toNat = 0xED
    · have bits : n / 4096 = 0xD := by omega
      exact ⟨0x80, 0x9F, by simp [begin?, surrogates, bits], by omega, by omega⟩
    · have three : b.toNat < 0xF0 := by omega
      have bits : b.toNat - 0xE0 = n / 4096 := by omega
      exact ⟨0x80, 0xBF, by simp [begin?, notLess, first, surrogates, three, bits], by omega,
        by omega⟩

theorem begin?_four (pos : Nat) (code : b.toNat = 0xF0 + n / 262144) (large : 0x10000 ≤ n)
    (small : n < 0x110000) :
    ∃ low high, begin? pos b = some ⟨b, pos, 3, low, high, n / 262144⟩ ∧
      low ≤ 0x80 + n / 4096 % 64 ∧ 0x80 + n / 4096 % 64 ≤ high := by
  have notLess : ¬b.toNat < 0x80 ∧ ¬b.toNat < 0xC2 ∧ ¬b.toNat < 0xE0 ∧ ¬b.toNat < 0xF0 := by omega
  have notThree : b.toNat ≠ 0xE0 ∧ b.toNat ≠ 0xED := by omega
  by_cases first : b.toNat = 0xF0
  · have bits : n / 262144 = 0 := by omega
    exact ⟨0x90, 0xBF, by simp [begin?, first, bits], by omega, by omega⟩
  · by_cases last : b.toNat = 0xF4
    · have bits : n / 262144 = 4 := by omega
      exact ⟨0x80, 0x8F, by simp [begin?, last, bits], by omega, by omega⟩
    · have four : b.toNat < 0xF4 := by omega
      have bits : b.toNat - 0xF0 = n / 262144 := by omega
      exact ⟨0x80, 0xBF, by simp [begin?, notLess, notThree, first, four, bits], by omega,
        by omega⟩

end Step

theorem valid_toNat (c : Char) : c.toNat < 0xD800 ∨ 0xDFFF < c.toNat ∧ c.toNat < 0x110000 := c.valid

theorem decodeFrom_encodeChar (pos : Nat) (c : Char) (rest : List UInt8) :
    ∃ next, decodeFrom pos none (encodeChar c ++ rest) =
      (decodeFrom next none rest).map (c :: ·) := by
  have valid := valid_toNat c
  have same : Char.ofNat c.toNat = c := Char.ofNat_toNat c
  rw [encodeChar]
  generalize c.toNat = n at valid same
  subst same
  have tail : ∀ m, 0x80 + m % 64 < 256 := fun m => by omega
  split
  case isTrue one => exact ⟨_, decodeFrom_single (toNat_ofNat (by omega)) one rest⟩
  split
  case isTrue two =>
    have begun := begin?_two pos (toNat_ofNat (by omega : 0xC0 + n / 64 < 256)) (by omega) two
    have value : n / 64 * 64 + n % 64 = n := by omega
    refine ⟨pos + 2, ?_⟩
    rw [List.cons_append, decodeFrom_begin begun (by simp), List.singleton_append,
      decodeFrom_last (toNat_ofNat (tail n)) rfl (by simp) (by simp; omega), value]
  split
  case isTrue three =>
    obtain ⟨low, high, begun, above, below⟩ :=
      begin?_three pos (toNat_ofNat (by omega : 0xE0 + n / 4096 < 256)) (by omega) three (by omega)
    have value : (n / 4096 * 64 + n / 64 % 64) * 64 + n % 64 = n := by omega
    refine ⟨pos + 3, ?_⟩
    rw [List.cons_append, decodeFrom_begin begun (by simp), List.cons_append,
      decodeFrom_next (toNat_ofNat (tail (n / 64))) (by simp) above below, List.singleton_append,
      decodeFrom_last (toNat_ofNat (tail n)) rfl (by simp) (by simp; omega), value]
  case isFalse =>
    obtain ⟨low, high, begun, above, below⟩ :=
      begin?_four pos (toNat_ofNat (by omega : 0xF0 + n / 262144 < 256)) (by omega) (by omega)
    have value : ((n / 262144 * 64 + n / 4096 % 64) * 64 + n / 64 % 64) * 64 + n % 64 = n := by
      omega
    refine ⟨pos + 4, ?_⟩
    rw [List.cons_append, decodeFrom_begin begun (by simp), List.cons_append,
      decodeFrom_next (toNat_ofNat (tail (n / 4096))) (by simp) above below, List.cons_append,
      decodeFrom_next (toNat_ofNat (tail (n / 64))) (by simp) (by simp) (by simp; omega),
      List.singleton_append,
      decodeFrom_last (toNat_ofNat (tail n)) rfl (by simp) (by simp; omega), value]

theorem decodeFrom_encode (t : Text) (pos : Nat) : decodeFrom pos none (encode t) = .ok t := by
  induction t generalizing pos with
  | nil => rfl
  | cons c t ih =>
      obtain ⟨next, first⟩ := decodeFrom_encodeChar pos c (encode t)
      have split : encode (c :: t) = encodeChar c ++ encode t := List.flatMap_cons
      rw [split, first, ih]
      rfl

theorem decode_encode (t : Text) : decode (encode t) = .ok t := decodeFrom_encode t 0

/-- The bytes of a character are those that strings are made of. -/
theorem encodeChar_eq (c : Char) : encodeChar c = String.utf8EncodeChar c := by
  have valid := valid_toNat c
  have code : c.val.toNat = c.toNat := rfl
  rw [encodeChar, String.utf8EncodeChar, code]
  generalize c.toNat = n at valid
  simp only [Nat.add_comm 0xC0, Nat.add_comm 0xE0, Nat.add_comm 0xF0, Nat.add_comm 0x80]
  -- The bits of the first byte are cut to what its form has room for, which is all of them.
  rcases Nat.lt_or_ge n 0x80 with one | more
  · rw [if_pos one, if_pos (by omega : n ≤ 0x7F)]
  rw [if_neg (by omega), if_neg (by omega : ¬n ≤ 0x7F)]
  rcases Nat.lt_or_ge n 0x800 with two | more
  · have lead : n / 64 % 32 = n / 64 := Nat.mod_eq_of_lt (by omega)
    rw [if_pos two, if_pos (by omega : n ≤ 0x7FF), lead]
  rw [if_neg (by omega), if_neg (by omega : ¬n ≤ 0x7FF)]
  rcases Nat.lt_or_ge n 0x10000 with three | more
  · have lead : n / 4096 % 16 = n / 4096 := Nat.mod_eq_of_lt (by omega)
    rw [if_pos three, if_pos (by omega : n ≤ 0xFFFF), lead]
  · have lead : n / 262144 % 8 = n / 262144 := Nat.mod_eq_of_lt (by omega)
    rw [if_neg (by omega), if_neg (by omega : ¬n ≤ 0xFFFF), lead]

theorem encode_eq (t : Text) : encode t = t.flatMap String.utf8EncodeChar :=
  congrArg (t.flatMap ·) (funext encodeChar_eq)

end MaximalMunch.Utf8

namespace MaximalMunch.Text

/-- Without carriage returns there is nothing to unify. -/
theorem unifyNewlines_self {t : Text} (plain : '\r' ∉ t) : unifyNewlines t = t := by
  induction t with
  | nil => rfl
  | cons c t ih =>
      rw [List.mem_cons, not_or] at plain
      rw [unifyNewlines, ih plain.2]
      · rintro rest rfl
        exact absurd rfl plain.1
      · rintro rfl
        exact absurd rfl plain.1

end MaximalMunch.Text
