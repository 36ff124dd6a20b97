import MaximalMunch.Proofs.Text.QuotedForm

/-!
Quoted texts are read back. Each character is written as a text that tells where it ends: behind a
backslash stands one character more, or a letter and the digits that the letter asks for. The mark
at the end is never the beginning of a character that is written. So a quoted text is the text of
one text only, and as all of its characters are printable it keeps to one line and one column.
-/

namespace MaximalMunch.Text

/-! ### One character -/

/-- What a character behind a backslash stands for, if it asks for no digits. -/
def letterValue (letter : Char) : Char :=
  if letter = 't' then '\t' else if letter = 'n' then '\n'
  else if letter = 'r' then '\r' else letter

/-- Reads what stands behind a backslash. -/
def readEscape? : Text → Option (Char × Text)
  | [] => none
  | letter :: rest =>
    match codeWidth? letter with
    | some width => some (Char.ofNat (readHex (rest.take width)), rest.drop width)
    | none => some (letterValue letter, rest)

/-- Reads one character as it is written between marks, and tells what is written behind it. -/
def unescape? : Text → Option (Char × Text)
  | [] => none
  | c :: rest => if c = '\\' then readEscape? rest else some (c, rest)

theorem unescape?_length {t rest : Text} {c : Char} (h : unescape? t = some (c, rest)) :
    rest.length < t.length := by
  cases t with
  | nil => cases h
  | cons d behind =>
      rw [unescape?] at h
      split at h
      · cases behind with
        | nil => cases h
        | cons letter digits =>
            rw [readEscape?] at h
            split at h <;> cases h
            · simp only [List.length_drop, List.length_cons]
              omega
            · simp only [List.length_cons]
              omega
      · cases h
        exact Nat.lt_succ_self _

theorem unescape?_code {c letter : Char} {digits : Text} (code : IsCode c letter digits)
    (rest : Text) : unescape? ('\\' :: letter :: digits ++ rest) = some (c, rest) := by
  have escape : unescape? ('\\' :: letter :: digits ++ rest) =
      readEscape? (letter :: (digits ++ rest)) := rfl
  rw [escape, readEscape?, code.width]
  simp only [List.take_left, List.drop_left, code.value, Char.ofNat_toNat]

theorem EscapedAs.unescape?_append {mark c : Char} {piece : Text} (isMark : IsMark mark)
    (escaped : EscapedAs mark c piece) (rest : Text) :
    unescape? (piece ++ rest) = some (c, rest) := by
  cases escaped with
  | itself _ plain => exact if_neg fun backslash => plain (.inr backslash)
  | behind special =>
      rcases special with rfl | rfl
      · rcases isMark with rfl | rfl <;> rfl
      · rfl
  | letter named =>
      rcases letters_cases named with ⟨rfl, rfl⟩ | ⟨rfl, rfl⟩ | ⟨rfl, rfl⟩ <;> rfl
  | code _ _ code => exact unescape?_code code rest

theorem unescape?_escapeChar {mark : Char} (isMark : IsMark mark) (c : Char) (rest : Text) :
    unescape? (escapeChar mark c ++ rest) = some (c, rest) :=
  (escapedAs_escapeChar mark c).unescape?_append isMark rest

/-! ### No line ends and no tabs -/

theorem isPrintable_hexDigits {d : Char} (hex : d ∈ hexDigits) : isPrintable d = true :=
  List.all_eq_true.mp (by decide +kernel : hexDigits.all isPrintable) d hex

theorem IsCode.printable_letter {c letter : Char} {digits : Text}
    (code : IsCode c letter digits) : isPrintable letter = true := by
  rcases codeWidth?_cases code.width with ⟨rfl, -⟩ | ⟨rfl, -⟩ | ⟨rfl, -⟩ <;> decide +kernel

theorem EscapedAs.printable_of_mem {mark c d : Char} {piece : Text} (isMark : IsMark mark)
    (escaped : EscapedAs mark c piece) (mem : d ∈ piece) : isPrintable d = true := by
  have backslash : isPrintable '\\' = true := by decide +kernel
  cases escaped with
  | itself printable _ => rwa [List.mem_singleton.mp mem]
  | behind special =>
      rcases List.mem_pair.mp mem with rfl | rfl
      · exact backslash
      · exact isPrintable_of_special isMark special
  | letter named =>
      rcases List.mem_pair.mp mem with rfl | rfl
      · exact backslash
      · rcases letters_cases named with ⟨rfl, -⟩ | ⟨rfl, -⟩ | ⟨rfl, -⟩ <;> decide +kernel
  | code _ _ code =>
      rcases List.mem_cons.mp mem with rfl | behind
      · exact backslash
      · rcases List.mem_cons.mp behind with rfl | digit
        · exact code.printable_letter
        · exact isPrintable_hexDigits (code.hex d digit)

/-! ### Whole texts -/

/-- Reads characters up to the mark at the end. -/
def unquoteFrom (mark : Char) (t : Text) : Option Text :=
  if t = [mark] then some []
  else
    match _read : unescape? t with
    | none => none
    | some (c, rest) => (unquoteFrom mark rest).map (c :: ·)
termination_by t.length
decreasing_by exact unescape?_length _read

/-- Reads a text from the way it is quoted. -/
def unquote? : Text → Option Text
  | [] => none
  | mark :: body => unquoteFrom mark body

theorem unquoteFrom_escapeChar {mark : Char} (isMark : IsMark mark) (c : Char) {rest : Text}
    (more : rest ≠ []) :
    unquoteFrom mark (escapeChar mark c ++ rest) = (unquoteFrom mark rest).map (c :: ·) := by
  have read := unescape?_escapeChar isMark c rest
  have further : escapeChar mark c ++ rest ≠ [mark] := by
    intro ended
    rw [ended, unescape?] at read
    rcases isMark with rfl | rfl <;> cases read <;> exact more rfl
  rw [unquoteFrom, if_neg further]
  split
  · next unread => rw [read] at unread; cases unread
  · next again => rw [read] at again; cases again; rfl

theorem unquoteFrom_body {mark : Char} (isMark : IsMark mark) (t : Text) :
    unquoteFrom mark (t.flatMap (escapeChar mark) ++ [mark]) = some t := by
  induction t with
  | nil => rw [List.flatMap_nil, List.nil_append, unquoteFrom, if_pos rfl]
  | cons c t ih =>
      rw [List.flatMap_cons, List.append_assoc,
        unquoteFrom_escapeChar isMark c (List.append_ne_nil_of_right_ne_nil _ (by simp)), ih]
      rfl

@[simp] theorem unquote?_quoted (t : Text) : unquote? (quoted t) = some t :=
  unquoteFrom_body (isMark_quoteMark t) t

theorem isPrintable_of_mem_quoted {t : Text} {c : Char} (mem : c ∈ quoted t) :
    isPrintable c = true := by
  have isMark := isMark_quoteMark t
  have mark : isPrintable (quoteMark t) = true := isPrintable_of_special isMark (.inl rfl)
  rw [quoted] at mem
  rcases List.mem_append.mp mem with front | last
  · rcases List.mem_append.mp front with first | body
    · rwa [List.mem_singleton.mp first]
    · obtain ⟨d, -, mem⟩ := List.mem_flatMap.mp body
      exact (escapedAs_escapeChar (quoteMark t) d).printable_of_mem isMark mem
  · rwa [List.mem_singleton.mp last]

/-- The characters that end a line: line feed, vertical tab, form feed, carriage return, the
separators of files, of groups and of records, next line, line separator, paragraph separator. -/
def lineBreaks : Text :=
  ['\n', '\x0b', '\x0c', '\r', '\x1c', '\x1d', '\x1e', '\u0085', '\u2028', '\u2029']

theorem not_isPrintable_lineBreaks {c : Char} (mem : c ∈ lineBreaks) : isPrintable c = false := by
  simpa using List.all_eq_true.mp (by decide +kernel : lineBreaks.all (!isPrintable ·)) c mem

theorem not_mem_quoted {c : Char} (hidden : isPrintable c = false) (t : Text) : c ∉ quoted t := by
  intro mem
  rw [isPrintable_of_mem_quoted mem] at hidden
  cases hidden

end MaximalMunch.Text
