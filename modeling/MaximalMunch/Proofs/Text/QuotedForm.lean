import Mathlib.Algebra.Group.Nat.Defs
import Mathlib.Data.List.Forall2
import Mathlib.Data.List.Induction
import MaximalMunch.Proofs.Text.Utf8
import MaximalMunch.Text.Quoted

/-!
The form of quoted texts: which mark encloses a text, and which pieces may stand for its characters.
The form is said of the text that is written and not of how it comes about. Every text has exactly
one quoted form, and that is the one which is written; what holds of all pieces of this form can be
shown by cases on it.
-/

namespace MaximalMunch.Text

/-! ### Hexadecimal digits -/

def hexDigits : Text := "0123456789abcdef".toList

def hexValue (c : Char) : Nat :=
  if c.toNat < 58 then c.toNat - 48 else c.toNat - 87

def readHex (digits : Text) : Nat :=
  digits.foldl (fun n c => 16 * n + hexValue c) 0

theorem readHex_concat (front : Text) (last : Char) :
    readHex (front ++ [last]) = 16 * readHex front + hexValue last := by
  simp [readHex]

theorem hexValue_hexDigit {n : Nat} (h : n < 16) : hexValue (hexDigit n) = n :=
  (by decide : ∀ n < 16, hexValue (hexDigit n) = n) n h

theorem hexDigit_mem {n : Nat} (h : n < 16) : hexDigit n ∈ hexDigits :=
  (by decide : ∀ n < 16, hexDigit n ∈ hexDigits) n h

theorem hexValue_lt {d : Char} (hex : d ∈ hexDigits) : hexValue d < 16 := by
  have all : hexDigits.all (hexValue · < 16) := by decide
  simpa using List.all_eq_true.mp all d hex

theorem hexDigit_hexValue {d : Char} (hex : d ∈ hexDigits) : hexDigit (hexValue d) = d := by
  have all : hexDigits.all fun d => hexDigit (hexValue d) = d := by decide
  simpa using List.all_eq_true.mp all d hex

@[simp] theorem hexFixed_length (width n : Nat) : (hexFixed width n).length = width := by
  induction width generalizing n with
  | zero => rfl
  | succ width ih => rw [hexFixed, List.length_append, ih, List.length_singleton]

theorem mem_hexDigits_of_hexFixed {width n : Nat} {d : Char} (mem : d ∈ hexFixed width n) :
    d ∈ hexDigits := by
  induction width generalizing n with
  | zero => cases mem
  | succ width ih =>
      rcases List.mem_append.mp mem with before | last
      · exact ih before
      · rw [List.mem_singleton.mp last]
        exact hexDigit_mem (Nat.mod_lt n (by decide))

theorem readHex_hexFixed (width n : Nat) : readHex (hexFixed width n) = n % 16 ^ width := by
  induction width generalizing n with
  | zero => exact (Nat.mod_one n).symm
  | succ width ih =>
      have digit : hexValue (hexDigit (n % 16)) = n % 16 :=
        hexValue_hexDigit (Nat.mod_lt n (by decide))
      rw [hexFixed, readHex_concat, ih, digit, Nat.pow_succ', Nat.mod_mul, Nat.add_comm]

/-- With a given number of digits, a number is written in one way only. -/
theorem hexFixed_readHex {digits : Text} (hex : ∀ d ∈ digits, d ∈ hexDigits) :
    hexFixed digits.length (readHex digits) = digits := by
  induction digits using List.reverseRecOn with
  | nil => rfl
  | append_singleton front last ih =>
      have hexLast : last ∈ hexDigits := hex last (by simp)
      have small := hexValue_lt hexLast
      have before : (16 * readHex front + hexValue last) / 16 = readHex front := by omega
      have digit : (16 * readHex front + hexValue last) % 16 = hexValue last := by omega
      rw [List.length_append, List.length_singleton, readHex_concat, hexFixed, before, digit,
        hexDigit_hexValue hexLast, ih fun d mem => hex d (List.mem_append_left _ mem)]

theorem readHex_lt {digits : Text} (hex : ∀ d ∈ digits, d ∈ hexDigits) :
    readHex digits < 16 ^ digits.length := by
  rw [← hexFixed_readHex hex, readHex_hexFixed, hexFixed_length]
  exact Nat.mod_lt _ (Nat.pow_pos (by decide))

/-! ### Codes -/

/-- How many hexadecimal digits a letter behind a backslash asks for. -/
def codeWidth? (letter : Char) : Option Nat :=
  if letter = 'x' then some 2 else if letter = 'u' then some 4
  else if letter = 'U' then some 8 else none

theorem codeWidth?_cases {letter : Char} {width : Nat} (wide : codeWidth? letter = some width) :
    letter = 'x' ∧ width = 2 ∨ letter = 'u' ∧ width = 4 ∨ letter = 'U' ∧ width = 8 := by
  grind [codeWidth?]

theorem codeWidth?_inj {letter letter' : Char} {width : Nat}
    (wide : codeWidth? letter = some width) (wide' : codeWidth? letter' = some width) :
    letter = letter' := by
  grind [codeWidth?]

/-- The letter and the digits of a code: they tell the character, and no letter that asks for fewer
digits could. -/
structure IsCode (c letter : Char) (digits : Text) : Prop where
  width : codeWidth? letter = some digits.length
  hex : ∀ d ∈ digits, d ∈ hexDigits
  value : readHex digits = c.toNat
  least : ∀ other width, codeWidth? other = some width → width < digits.length →
    16 ^ width ≤ c.toNat

section Codes

variable {c letter letter' : Char} {digits digits' : Text}

theorem isCode_hexFixed {width : Nat} (wide : codeWidth? letter = some width)
    (fits : c.toNat < 16 ^ width)
    (least : ∀ other narrow, codeWidth? other = some narrow → narrow < width →
      16 ^ narrow ≤ c.toNat) :
    IsCode c letter (hexFixed width c.toNat) where
  width := by rw [wide, hexFixed_length]
  hex := fun _ => mem_hexDigits_of_hexFixed
  value := by rw [readHex_hexFixed, Nat.mod_eq_of_lt fits]
  least := by rwa [hexFixed_length]

theorem exists_isCode (c : Char) :
    ∃ letter digits, IsCode c letter digits ∧ escapeCode c = '\\' :: letter :: digits := by
  have valid := Utf8.valid_toNat c
  rw [escapeCode]
  split
  · exact ⟨'x', _, isCode_hexFixed rfl (by omega) (by grind [codeWidth?]), rfl⟩
  · split
    · exact ⟨'u', _, isCode_hexFixed rfl (by omega) (by grind [codeWidth?]), rfl⟩
    · exact ⟨'U', _, isCode_hexFixed rfl (by omega) (by grind [codeWidth?]), rfl⟩

/-- Of two codes of a character, the digits of the first do not fit into fewer. -/
theorem IsCode.length_le (code : IsCode c letter digits) (code' : IsCode c letter' digits') :
    digits.length ≤ digits'.length := by
  by_contra less
  have large : 16 ^ digits'.length ≤ c.toNat :=
    code.least letter' digits'.length code'.width (Nat.lt_of_not_le less)
  have fits : c.toNat < 16 ^ digits'.length := code'.value ▸ readHex_lt code'.hex
  exact Nat.not_lt_of_le large fits

theorem IsCode.unique (code : IsCode c letter digits) (code' : IsCode c letter' digits') :
    letter = letter' ∧ digits = digits' := by
  have length : digits.length = digits'.length :=
    Nat.le_antisymm (code.length_le code') (code'.length_le code)
  constructor
  · exact codeWidth?_inj code.width (length ▸ code'.width)
  · calc digits = hexFixed digits.length (readHex digits) := (hexFixed_readHex code.hex).symm
      _ = hexFixed digits'.length (readHex digits') := by rw [length, code.value, code'.value]
      _ = digits' := hexFixed_readHex code'.hex

end Codes

/-! ### Characters -/

/-- The two marks, neither of which asks for digits or stands for another character. -/
def IsMark (mark : Char) : Prop :=
  mark = '\x27' ∨ mark = '"'

/-- The letters behind a backslash that ask for no digits, and the characters they stand for. -/
def letters : List (Char × Char) := [('t', '\t'), ('n', '\n'), ('r', '\r')]

/-- What a character is written as between two marks. -/
inductive EscapedAs (mark c : Char) : Text → Prop
  | itself (printable : isPrintable c = true) (plain : ¬(c = mark ∨ c = '\\')) :
      EscapedAs mark c [c]
  | behind (special : c = mark ∨ c = '\\') : EscapedAs mark c ['\\', c]
  | letter {l : Char} (named : (l, c) ∈ letters) : EscapedAs mark c ['\\', l]
  | code {l : Char} {digits : Text} (hidden : isPrintable c = false)
      (nameless : ∀ l, (l, c) ∉ letters) (code : IsCode c l digits) :
      EscapedAs mark c ('\\' :: l :: digits)

theorem escapedAs_escapeChar (mark c : Char) : EscapedAs mark c (escapeChar mark c) := by
  -- One case for each way to write a character.
  rw [escapeChar]
  split
  · next special => exact .behind special
  · next plain =>
      split
      · next tab => exact .letter (by simp [letters, tab])
      · split
        · next lineFeed => exact .letter (by simp [letters, lineFeed])
        · split
          · next carriage => exact .letter (by simp [letters, carriage])
          · split
            · next printable => exact .itself printable plain
            · next hidden =>
                obtain ⟨l, digits, code, written⟩ := exists_isCode c
                rw [written]
                exact .code (by simpa using hidden) (by grind [letters]) code

theorem letters_cases {l c : Char} (named : (l, c) ∈ letters) :
    l = 't' ∧ c = '\t' ∨ l = 'n' ∧ c = '\n' ∨ l = 'r' ∧ c = '\r' := by
  simpa [letters] using named

theorem isPrintable_of_special {mark c : Char} (isMark : IsMark mark)
    (special : c = mark ∨ c = '\\') : isPrintable c = true := by
  rcases special with rfl | rfl
  · rcases isMark with rfl | rfl <;> decide +kernel
  · decide +kernel

theorem not_isPrintable_of_named {l c : Char} (named : (l, c) ∈ letters) :
    isPrintable c = false := by
  rcases letters_cases named with ⟨-, rfl⟩ | ⟨-, rfl⟩ | ⟨-, rfl⟩ <;> decide +kernel

theorem escapeChar_nameless {mark c : Char} (plain : ¬(c = mark ∨ c = '\\'))
    (nameless : ∀ l, (l, c) ∉ letters) :
    escapeChar mark c = if isPrintable c then [c] else escapeCode c := by
  have noTab : c ≠ '\t' := by rintro rfl; exact nameless 't' (by decide)
  have noLineFeed : c ≠ '\n' := by rintro rfl; exact nameless 'n' (by decide)
  have noCarriage : c ≠ '\r' := by rintro rfl; exact nameless 'r' (by decide)
  rw [escapeChar, if_neg plain, if_neg noTab, if_neg noLineFeed, if_neg noCarriage]

theorem EscapedAs.eq_escapeChar {mark c : Char} {piece : Text} (isMark : IsMark mark)
    (escaped : EscapedAs mark c piece) : piece = escapeChar mark c := by
  cases escaped with
  | itself printable plain =>
      rw [escapeChar_nameless plain, if_pos printable]
      intro l named
      rw [not_isPrintable_of_named named] at printable
      cases printable
  | behind special => rw [escapeChar, if_pos special]
  | letter named =>
      rcases letters_cases named with ⟨rfl, rfl⟩ | ⟨rfl, rfl⟩ | ⟨rfl, rfl⟩ <;>
        rcases isMark with rfl | rfl <;> rfl
  | code hidden nameless code =>
      have plain : ¬(c = mark ∨ c = '\\') := fun special => by
        rw [isPrintable_of_special isMark special] at hidden
        cases hidden
      obtain ⟨l, digits, code', written⟩ := exists_isCode c
      obtain ⟨rfl, rfl⟩ := code.unique code'
      rw [escapeChar_nameless plain nameless, if_neg (by simp [hidden]), written]

theorem escapedAs_iff {mark c : Char} {piece : Text} (isMark : IsMark mark) :
    EscapedAs mark c piece ↔ escapeChar mark c = piece := by
  constructor
  · exact fun escaped => (escaped.eq_escapeChar isMark).symm
  · rintro rfl
    exact escapedAs_escapeChar mark c

/-! ### Texts -/

/-- The mark around a text: the double one only for a text with a single one and no double one. -/
def MarkFor (t : Text) (mark : Char) : Prop :=
  mark = '"' ∧ '\x27' ∈ t ∧ '"' ∉ t ∨ mark = '\x27' ∧ ('\x27' ∉ t ∨ '"' ∈ t)

theorem markFor_iff {t : Text} {mark : Char} : MarkFor t mark ↔ mark = quoteMark t := by
  by_cases single : '\x27' ∈ t <;> by_cases double : '"' ∈ t <;>
    simp [MarkFor, quoteMark, single, double]

theorem MarkFor.isMark {t : Text} {mark : Char} (h : MarkFor t mark) : IsMark mark :=
  h.elim (fun double => .inr double.1) fun single => .inl single.1

theorem isMark_quoteMark (t : Text) : IsMark (quoteMark t) :=
  (markFor_iff.mpr rfl : MarkFor t (quoteMark t)).isMark

/-- A text between two marks, with a piece for each of its characters. -/
def QuotedAs (t written : Text) : Prop :=
  ∃ mark pieces, MarkFor t mark ∧ List.Forall₂ (EscapedAs mark) t pieces ∧
    written = [mark] ++ pieces.flatten ++ [mark]

theorem forall₂_escapedAs_iff {mark : Char} (isMark : IsMark mark) {t : Text}
    {pieces : List Text} :
    List.Forall₂ (EscapedAs mark) t pieces ↔ t.map (escapeChar mark) = pieces := by
  have same : EscapedAs mark = fun c piece => escapeChar mark c = piece := by
    funext c piece
    exact propext (escapedAs_iff isMark)
  rw [same, ← List.forall₂_map_left_iff, List.forall₂_eq_eq_eq]

/-- Each text has one quoted form, and it is the one that is written. -/
theorem quotedAs_iff {t written : Text} : QuotedAs t written ↔ written = quoted t := by
  constructor
  · rintro ⟨mark, pieces, markFor, escaped, rfl⟩
    rw [← (forall₂_escapedAs_iff markFor.isMark).mp escaped, markFor_iff.mp markFor, quoted,
      List.flatMap_def]
  · rintro rfl
    have markFor : MarkFor t (quoteMark t) := markFor_iff.mpr rfl
    refine ⟨quoteMark t, t.map (escapeChar (quoteMark t)), markFor, ?_, ?_⟩
    · exact (forall₂_escapedAs_iff markFor.isMark).mpr rfl
    · rw [quoted, List.flatMap_def]

example : quoted "it's".toList = "\"it's\"".toList := by decide

end MaximalMunch.Text
