import MaximalMunch.Proofs.Yaml.Place
import MaximalMunch.Yaml.QuotedScalar

/-!
Texts between single quotes. On one line, a text is written with each of its quotes doubled, and it
is read as it was written: words and blanks alternate until a quote that is not doubled.
-/

namespace MaximalMunch.Yaml

open Place

def doubled (t : Text) : Text := t.flatMap fun c => if c = '\x27' then ['\x27', '\x27'] else [c]

def singleQuoted (t : Text) : Text := ['\x27'] ++ doubled t ++ ['\x27']

theorem doubled_append (t u : Text) : doubled (t ++ u) = doubled t ++ doubled u :=
  List.flatMap_append

theorem doubled_cons {c : Char} (plain : c ≠ '\x27') (t : Text) :
    doubled (c :: t) = c :: doubled t := by
  simp [doubled, plain]

theorem doubled_of_plain {t : Text} (plain : ∀ c ∈ t, c ≠ '\x27') : doubled t = t := by
  induction t with
  | nil => rfl
  | cons c t ih =>
      rw [doubled_cons (plain c List.mem_cons_self),
        ih fun d hd => plain d (List.mem_cons_of_mem _ hd)]

/-- Each character is written once or twice. -/
theorem length_doubled (t : Text) :
    t.length ≤ (doubled t).length ∧ (doubled t).length ≤ 2 * t.length := by
  induction t with
  | nil => exact ⟨Nat.le_refl _, Nat.le_refl _⟩
  | cons c t ih =>
      have head : 1 ≤ (doubled [c]).length ∧ (doubled [c]).length ≤ 2 := by
        by_cases quote : c = '\x27' <;> simp [doubled, quote]
      have parts := doubled_append [c] t
      rw [List.singleton_append] at parts
      rw [parts, List.length_append, List.length_cons]
      omega

theorem singleQuoted_length_le (t : Text) : (singleQuoted t).length ≤ 2 * t.length + 2 := by
  have inner := (length_doubled t).2
  simp only [singleQuoted, List.length_append, List.length_singleton]
  omega

/-- Doubling brings no character that was not there. -/
theorem mem_of_mem_doubled {c : Char} {t : Text} (h : c ∈ doubled t) : c ∈ t := by
  obtain ⟨d, mem, same⟩ := List.mem_flatMap.mp h
  by_cases quote : d = '\x27'
  · have isQuote : c = '\x27' := by simpa [quote] using same
    rwa [isQuote, ← quote]
  · have isOther : c = d := by simpa [quote] using same
    rwa [isOther]

/-- A single quote that no other one follows. -/
def Closes (rest : Text) : Prop := rest.head? = some '\x27' ∧ rest[1]? ≠ some '\x27'

/-- A word ends before a blank or the closing quote. -/
def EndsWord (rest : Text) : Prop := (∃ c, rest.head? = some c ∧ isGap c = true) ∨ Closes rest

theorem EndsWord.special {rest : Text} (h : EndsWord rest) :
    ∀ c ∈ rest.head?, (!isQuotedSpecial c) = false := by
  intro d hd
  rcases h with ⟨c, first, gap⟩ | ⟨first, after⟩
  · obtain rfl : c = d := Option.some.inj (first.symm.trans hd)
    simp [isQuotedSpecial, gap]
  · obtain rfl : '\x27' = d := Option.some.inj (first.symm.trans hd)
    decide

section Run

variable {p : Place} {run rest : Text}

theorem quotedWord_ends (h : p.rest = run ++ rest) (line : OneLine run)
    (ordinary : ∀ c ∈ run, (!isQuotedSpecial c) = true) (ends : EndsWord rest) (fuel : Nat) :
    quotedWord false (fuel + 1) p = .ok (run, p.behind run rest) := by
  rw [quotedWord, splitWhile_eq h line ordinary ends.special]
  simp only [next, ahead, behind_rest]
  rcases ends with ⟨c, first, gap⟩ | ⟨first, after⟩
  · have other : c ≠ '\x27' ∧ c ≠ '"' ∧ c ≠ '\\' := by
      refine ⟨?_, ?_, ?_⟩ <;> rintro rfl <;> exact absurd gap (by decide)
    simp [first, other]
  · simp [first, after]

theorem quotedWord_quote (h : p.rest = run ++ '\x27' :: '\x27' :: rest) (line : OneLine run)
    (ordinary : ∀ c ∈ run, (!isQuotedSpecial c) = true) (fuel : Nat) :
    quotedWord false (fuel + 1) p =
      (quotedWord false fuel (p.behind (run ++ ['\x27', '\x27']) rest)).map
        fun r => (run ++ ['\x27'] ++ r.1, r.2) := by
  have stops : ∀ c ∈ ('\x27' :: '\x27' :: rest).head?, (!isQuotedSpecial c) = false := by
    rintro c ⟨⟩
    decide
  have passed : (p.behind run ('\x27' :: '\x27' :: rest)).advanceBy 2 =
      p.behind (run ++ ['\x27', '\x27']) rest := by
    rw [← behind_behind p run _ rest]
    exact advanceBy_eq (t := ['\x27', '\x27']) rfl (by decide)
  rw [quotedWord, splitWhile_eq h line ordinary stops]
  simp [next, ahead, behind_rest, passed]

theorem quotedWord_other {c : Char} (h : p.rest = run ++ c :: rest) (line : OneLine run)
    (ordinary : ∀ c ∈ run, (!isQuotedSpecial c) = true) (other : c = '"' ∨ c = '\\')
    (fuel : Nat) :
    quotedWord false (fuel + 1) p =
      (quotedWord false fuel (p.behind (run ++ [c]) rest)).map
        fun r => (run ++ [c] ++ r.1, r.2) := by
  have stops : ∀ d ∈ (c :: rest).head?, (!isQuotedSpecial d) = false := by
    rintro d ⟨⟩
    rcases other with rfl | rfl <;> decide
  have inside : isBreak c = false := by rcases other with rfl | rfl <;> decide
  have passed : (p.behind run (c :: rest)).advance = p.behind (run ++ [c]) rest := by
    rw [← behind_behind p run _ rest]
    exact advance_eq rfl inside
  have notQuote : c ≠ '\x27' := by rcases other with rfl | rfl <;> decide
  rw [quotedWord, splitWhile_eq h line ordinary stops]
  simp [next, behind_rest, passed, other, notQuote]

end Run

theorem quotedWord_eq {p : Place} {w rest : Text} {fuel : Nat} (h : p.rest = doubled w ++ rest)
    (line : OneLine w) (word : ∀ c ∈ w, isGap c = false) (ends : EndsWord rest)
    (enough : w.length < fuel) :
    quotedWord false fuel p = .ok (w, p.behind (doubled w) rest) := by
  -- On the fuel: characters that mean themselves are taken in one run, then a special one.
  induction fuel generalizing p w with
  | zero => omega
  | succ fuel ih =>
      obtain ⟨run, more, rfl, ordinary, special⟩ := exists_run (!isQuotedSpecial ·) w
      have plain : doubled run = run := by
        apply doubled_of_plain
        rintro c hc rfl
        exact absurd (ordinary _ hc) (by decide)
      have runLine : OneLine run := fun c hc => line c (List.mem_append_left _ hc)
      rw [doubled_append, plain, List.append_assoc] at h
      rw [doubled_append, plain]
      cases more with
      | nil =>
          have nothing : doubled [] = [] := rfl
          simp only [nothing, List.append_nil]
          exact quotedWord_ends h runLine ordinary ends fuel
      | cons c more =>
          have isSpecial := special c rfl
          have notGap := word c (by simp)
          have inside := line c (by simp)
          have behindLine : OneLine more := fun d hd => line d (by simp [hd])
          have behindWord : ∀ d ∈ more, isGap d = false := fun d hd => word d (by simp [hd])
          have fewer : more.length < fuel := by
            rw [List.length_append, List.length_cons] at enough
            omega
          have which : c = '\x27' ∨ c = '"' ∨ c = '\\' := by
            by_contra none
            simp [isQuotedSpecial, notGap, inside] at isSpecial none
            exact none.2.2 (isSpecial none.1 none.2.1)
          rcases which with rfl | other
          · have parts : doubled ('\x27' :: more) = '\x27' :: '\x27' :: doubled more := rfl
            rw [parts, List.cons_append, List.cons_append] at h
            rw [quotedWord_quote h runLine ordinary, ih rfl behindLine behindWord fewer]
            simp [Except.map, behind_behind, parts]
          · have parts : doubled (c :: more) = c :: doubled more := by
              apply doubled_cons
              rcases other with rfl | rfl <;> decide
            rw [parts, List.cons_append] at h
            rw [quotedWord_other h runLine ordinary other, ih rfl behindLine behindWord fewer]
            simp [Except.map, behind_behind, parts]

/-- Blanks are kept as they are where no line ends. -/
theorem quotedSpaces_eq {p : Place} {blanks rest : Text} {c : Char}
    (h : p.rest = blanks ++ c :: rest) (blank : ∀ d ∈ blanks, isGap d = true)
    (first : isGap c = false) (inside : isBreak c = false) :
    quotedSpaces p = .ok (blanks, p.behind blanks (c :: rest)) := by
  have line : OneLine blanks := by
    intro d hd
    have gap := blank d hd
    simp only [isGap, Bool.or_eq_true, beq_iff_eq] at gap
    rcases gap with rfl | rfl <;> decide
  have stops : ∀ d ∈ (c :: rest).head?, isGap d = false := by
    rintro d ⟨⟩
    exact first
  rw [quotedSpaces, splitWhile_eq h line blank stops]
  simp [next, behind_rest, inside]

theorem endsWord_of_gap {t rest : Text} (closes : Closes rest)
    (starts : ∀ c ∈ t.head?, isGap c = true) : EndsWord (doubled t ++ rest) := by
  cases t with
  | nil => exact .inr closes
  | cons c t =>
      have gap := starts c rfl
      have notQuote : c ≠ '\x27' := by
        rintro rfl
        exact absurd gap (by decide)
      rw [doubled_cons notQuote]
      exact .inl ⟨c, rfl, gap⟩

theorem doubled_of_gaps {t : Text} (gaps : ∀ c ∈ t, isGap c = true) : doubled t = t := by
  apply doubled_of_plain
  rintro c hc rfl
  exact absurd (gaps _ hc) (by decide)

/-- What comes behind blanks that end here. -/
theorem exists_first (rest : Text) {t : Text} (line : OneLine t)
    (starts : ∀ c ∈ t.head?, isGap c = false) :
    ∃ c more, doubled t ++ '\x27' :: rest = c :: more ∧ isGap c = false ∧ isBreak c = false := by
  cases t with
  | nil => exact ⟨'\x27', rest, rfl, by decide, by decide⟩
  | cons c t =>
      have notGap := starts c rfl
      have inside := line c List.mem_cons_self
      by_cases quote : c = '\x27'
      · subst quote
        exact ⟨_, _, rfl, notGap, inside⟩
      · rw [doubled_cons quote]
        exact ⟨c, _, rfl, notGap, inside⟩

/-- The next word of a text goes up to its first blank. -/
theorem exists_word {p : Place} {t rest : Text} (h : p.rest = doubled t ++ '\x27' :: rest)
    (line : OneLine t) (closes : Closes ('\x27' :: rest)) :
    ∃ w more, t = w ++ more ∧ (∀ c ∈ more.head?, isGap c = true) ∧
      quotedWord false (p.rest.length + 1) p =
        .ok (w, p.behind (doubled w) (doubled more ++ '\x27' :: rest)) := by
  obtain ⟨w, more, rfl, word, gapBehind⟩ := exists_run (!isGap ·) t
  have gapBehind : ∀ c ∈ more.head?, isGap c = true := by simpa using gapBehind
  have enough : w.length < p.rest.length + 1 := by
    have size := (length_doubled (w ++ more)).1
    rw [h, List.length_append]
    rw [List.length_append] at size
    omega
  rw [doubled_append, List.append_assoc] at h
  exact ⟨w, more, rfl, gapBehind, quotedWord_eq h (fun c hc => line c (List.mem_append_left _ hc))
    (by simpa using word) (endsWord_of_gap closes gapBehind) enough⟩

/-- What is read behind a word: a blank or the closing quote comes first. -/
theorem quotedFrom_eq {p : Place} {t rest : Text} {fuel : Nat}
    (h : p.rest = doubled t ++ '\x27' :: rest) (line : OneLine t)
    (starts : ∀ c ∈ t.head?, isGap c = true) (closes : Closes ('\x27' :: rest))
    (enough : t.length < fuel) :
    quotedFrom false fuel p = .ok (t, p.behind (doubled t ++ ['\x27']) rest) := by
  -- On the fuel: each round takes a run of blanks, which is not empty, and the word behind it.
  induction fuel generalizing p t with
  | zero => omega
  | succ fuel ih =>
      cases t with
      | nil =>
          have closed : p.rest = '\x27' :: rest := h
          have next : p.next = some '\x27' := by simp [Place.next, closed]
          have passed : p.advance = p.behind ['\x27'] rest := advance_eq closed (by decide)
          simp only [quotedFrom, next, passed, Bool.false_eq_true, if_false, if_true]
          rfl
      | cons c t =>
          obtain ⟨blanks, behind, rfl, blank, notBlank⟩ := exists_run isGap t
          have gaps : ∀ d ∈ c :: blanks, isGap d = true := by
            rintro d (_ | ⟨_, hd⟩)
            · exact starts c rfl
            · exact blank d hd
          have behindLine : OneLine behind := fun d hd => line d (by simp [hd])
          rw [← List.cons_append, doubled_append, doubled_of_gaps gaps, List.append_assoc] at h
          have next : p.next ≠ some '\x27' := by
            intro quote
            simp only [Place.next, h, List.cons_append, List.head?_cons, Option.some.injEq] at quote
            exact absurd (gaps c List.mem_cons_self) (by rw [quote]; decide)
          obtain ⟨d, tail, first, notGap, inside⟩ := exists_first rest behindLine notBlank
          have spaces := quotedSpaces_eq (first ▸ h) gaps notGap inside
          rw [← first] at spaces
          obtain ⟨w, more, rfl, gapBehind, wordRead⟩ :=
            exists_word (p := p.behind (c :: blanks) (doubled behind ++ '\x27' :: rest)) rfl
              behindLine closes
          have moreLine : OneLine more := fun d hd => behindLine d (List.mem_append_right _ hd)
          have fewer : more.length < fuel := by
            simp only [List.length_cons, List.length_append] at enough
            omega
          have moreRead := ih (p := p.behind (c :: blanks ++ doubled w) _) rfl moreLine gapBehind
            fewer
          rw [behind_behind] at wordRead
          simp only [quotedFrom, Bool.false_eq_true, next, if_false, spaces, wordRead, moreRead]
          have parts : doubled (c :: (blanks ++ (w ++ more))) =
              c :: blanks ++ doubled w ++ doubled more := by
            rw [← List.cons_append, doubled_append, doubled_of_gaps gaps, doubled_append,
              List.append_assoc]
          simp [Except.map, behind_behind, parts]

/-- A text on one line is read from single quotes as it was written between them. -/
theorem quotedScalar_eq {p : Place} {t rest : Text} (h : p.rest = singleQuoted t ++ rest)
    (line : OneLine t) (ends : rest.head? ≠ some '\x27') :
    quotedScalar false p = .ok (t, p.behind (singleQuoted t) rest) := by
  have opened : p.rest = '\x27' :: (doubled t ++ '\x27' :: rest) := by
    simpa [singleQuoted] using h
  have closes : Closes ('\x27' :: rest) := ⟨rfl, by simpa [List.head?_eq_getElem?] using ends⟩
  have passed : p.advance = p.behind ['\x27'] (doubled t ++ '\x27' :: rest) :=
    advance_eq opened (by decide)
  have left : p.advance.rest = doubled t ++ '\x27' :: rest := by rw [passed, behind_rest]
  obtain ⟨w, more, rfl, gapBehind, wordRead⟩ := exists_word left line closes
  have moreLine : OneLine more := fun c hc => line c (List.mem_append_right _ hc)
  have enough : more.length < (doubled more ++ '\x27' :: rest).length + 2 := by
    have size := (length_doubled more).1
    rw [List.length_append]
    omega
  have moreRead := quotedFrom_eq (p := p.advance.behind (doubled w) _) rfl moreLine gapBehind
    closes enough
  simp only [quotedScalar, wordRead, behind_rest, moreRead]
  simp [passed, Except.map, behind_behind, doubled_append, singleQuoted]

end MaximalMunch.Yaml
