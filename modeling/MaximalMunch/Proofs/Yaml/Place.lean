import Mathlib.Data.List.TakeWhile
import MaximalMunch.Yaml.Place

/-!
Going over the text of a line. Where no line break comes between, the place behind a text is given
by the text alone: the line stays, and every character counts for the index and, a byte order mark
apart, for the column.
-/

namespace MaximalMunch.Yaml.Place

/-- No line ends within the text. -/
def OneLine (t : Text) : Prop := ∀ c ∈ t, isBreak c = false

instance : DecidablePred OneLine := fun t =>
  decidable_of_iff (t.all (fun c => !isBreak c) = true) (by simp [OneLine])

/-- The place behind a text on one line, with `rest` left to read. -/
def behind (p : Place) (t rest : Text) : Place :=
  ⟨rest, p.index + t.length, p.line, p.column + t.countP (· != '\uFEFF')⟩

variable {p : Place} {t u rest : Text}

theorem behind_rest : (p.behind t rest).rest = rest := rfl

theorem behind_nil (h : p.rest = rest) : p.behind [] rest = p := by
  subst h
  rfl

theorem behind_behind (p : Place) (t u rest rest' : Text) :
    (p.behind t rest').behind u rest = p.behind (t ++ u) rest := by
  simp [behind, List.countP_append, Nat.add_assoc]

theorem advance_eq {c : Char} (h : p.rest = c :: rest) (inside : isBreak c = false) :
    p.advance = p.behind [c] rest := by
  by_cases mark : c = '\uFEFF'
  · subst mark
    simp [advance, h, inside, behind]
  · simp [advance, h, inside, behind, mark]

theorem advanceBy_eq (h : p.rest = t ++ rest) (line : OneLine t) :
    p.advanceBy t.length = p.behind t rest := by
  induction t generalizing p with
  | nil => exact (behind_nil h).symm
  | cons c t ih =>
      rw [List.cons_append] at h
      have step := advance_eq h (line c List.mem_cons_self)
      have further : p.advance.rest = t ++ rest := by rw [step, behind_rest]
      rw [List.length_cons, advanceBy, ih further fun d hd => line d (List.mem_cons_of_mem _ hd),
        step, behind_behind]
      rfl

/-- Every text is a run of characters that pass a test, and what begins with one that does not. -/
theorem exists_run (q : Char → Bool) (t : Text) :
    ∃ run more, t = run ++ more ∧ (∀ c ∈ run, q c = true) ∧ ∀ c ∈ more.head?, q c = false := by
  refine ⟨t.takeWhile q, t.dropWhile q, (List.takeWhile_append_dropWhile).symm, ?_, ?_⟩
  · intro c hc
    exact List.mem_takeWhile_imp hc
  · intro c hc
    have first := List.head?_dropWhile_not q t
    rw [Option.mem_def.mp hc] at first
    exact first

/-- The run taken is `t` if all of it passes the test and what comes next does not. -/
theorem splitWhile_eq {q : Char → Bool} (h : p.rest = t ++ rest) (line : OneLine t)
    (passes : ∀ c ∈ t, q c = true) (stops : ∀ c ∈ rest.head?, q c = false) :
    p.splitWhile q = (t, p.behind t rest) := by
  have run : p.rest.takeWhile q = t := by
    rw [h, List.takeWhile_append_of_pos passes]
    cases rest with
    | nil => simp
    | cons c rest => simp [stops c rfl]
  rw [splitWhile, run]
  simp only [advanceBy_eq h line]

theorem skipWhile_eq {q : Char → Bool} (h : p.rest = t ++ rest) (line : OneLine t)
    (passes : ∀ c ∈ t, q c = true) (stops : ∀ c ∈ rest.head?, q c = false) :
    p.skipWhile q = p.behind t rest := by
  rw [skipWhile, splitWhile_eq h line passes stops]

theorem skipWhile_self {q : Char → Bool} (stops : ∀ c ∈ p.rest.head?, q c = false) :
    p.skipWhile q = p := by
  have whole : p.rest = [] ++ p.rest := rfl
  have nothing : ∀ {r : Char → Prop}, ∀ c ∈ ([] : Text), r c := fun c hc =>
    absurd hc List.not_mem_nil
  rw [skipWhile_eq whole nothing nothing stops, behind_nil rfl]

/-- The place at the beginning of the next line. -/
def below (p : Place) (rest : Text) : Place := ⟨rest, p.index + 1, p.line + 1, 0⟩

theorem lineBreak_newline (h : p.rest = '\n' :: rest) : p.lineBreak = (['\n'], p.below rest) := by
  simp [lineBreak, h, advance, isBreak, below]

theorem lineBreak_self (stops : ∀ c ∈ p.rest.head?, isBreak c = false) : p.lineBreak = ([], p) := by
  rw [lineBreak]
  split
  · next h => exact absurd (stops '\r' (by simp [h])) (by decide)
  · next c rest _ h =>
      have inside := stops c (by simp [h])
      have plain := inside
      simp only [isBreak, Bool.or_eq_false_iff] at plain
      simp [plain, inside]
  · rfl

end MaximalMunch.Yaml.Place
