import Mathlib.Data.List.Basic
import MaximalMunch.Text.Utf8

/-!
The lines of a text. A text is its lines with a line end between each two of them: a line feed, a
carriage return with a line feed, or a carriage return that no line feed follows. Every text has
lines, and to unify its line ends is to put a line feed in the place of each.
-/

namespace MaximalMunch.Text

inductive LineEnd where
  | lineFeed
  | both
  | carriageReturn

def LineEnd.text : LineEnd → Text
  | .lineFeed => ['\n']
  | .both => ['\r', '\n']
  | .carriageReturn => ['\r']

/-- There is no line end in it. -/
def IsLine (t : Text) : Prop := ∀ c ∈ t, c ≠ '\n' ∧ c ≠ '\r'

instance (t : Text) : Decidable (IsLine t) :=
  List.decidableBAll (fun c => c ≠ '\n' ∧ c ≠ '\r') t

/-- The text is made up of these lines. -/
inductive HasLines : Text → List Text → Prop
  | last (line : Text) (plain : IsLine line) : HasLines line [line]
  | more (line : Text) (e : LineEnd) (rest : Text) (lines : List Text) (plain : IsLine line)
      (alone : e = .carriageReturn → rest.head? ≠ some '\n') (behind : HasLines rest lines) :
      HasLines (line ++ e.text ++ rest) (line :: lines)

/-- The lines with a line feed between each two of them. -/
def joinLines (lines : List Text) : Text := ['\n'].intercalate lines

variable {t rest line : Text} {lines : List Text} {c : Char}

theorem HasLines.ne_nil (h : HasLines t lines) : lines ≠ [] := by
  cases h <;> simp

theorem joinLines_cons (line : Text) (some_line : lines ≠ []) :
    joinLines (line :: lines) = line ++ '\n' :: joinLines lines := by
  simp [joinLines, List.intercalate_cons_of_ne_nil some_line]

/-! ### Unifying -/

theorem unifyNewlines_cons (other : c ≠ '\r') (t : Text) :
    unifyNewlines (c :: t) = c :: unifyNewlines t := by
  rw [unifyNewlines]
  · exact fun _ same _ => other same
  · exact other

theorem unifyNewlines_line (plain : IsLine line) (rest : Text) :
    unifyNewlines (line ++ rest) = line ++ unifyNewlines rest := by
  induction line with
  | nil => rfl
  | cons c line ih =>
      rw [List.cons_append, unifyNewlines_cons (plain c List.mem_cons_self).2,
        ih fun d mem => plain d (List.mem_cons_of_mem c mem), List.cons_append]

theorem unifyNewlines_end {e : LineEnd}
    (alone : e = .carriageReturn → rest.head? ≠ some '\n') :
    unifyNewlines (e.text ++ rest) = '\n' :: unifyNewlines rest := by
  cases e with
  | lineFeed => exact unifyNewlines_cons (by decide) rest
  | both => rfl
  | carriageReturn =>
      have other := alone rfl
      cases rest with
      | nil => rfl
      | cons c rest =>
          rw [LineEnd.text, List.singleton_append, unifyNewlines]
          intro behind same
          exact other (by rw [same]; rfl)

theorem HasLines.unifyNewlines_eq (h : HasLines t lines) : unifyNewlines t = joinLines lines := by
  induction h with
  | last line plain =>
      have whole := unifyNewlines_line plain []
      simpa [joinLines, unifyNewlines] using whole
  | more line e rest lines plain alone behind ih =>
      rw [List.append_assoc, unifyNewlines_line plain, unifyNewlines_end alone, ih,
        joinLines_cons line behind.ne_nil]

/-! ### Every text has lines -/

theorem IsLine.cons (other : c ≠ '\n' ∧ c ≠ '\r') (plain : IsLine line) : IsLine (c :: line) := by
  intro d mem
  rcases List.mem_cons.mp mem with rfl | behind
  · exact other
  · exact plain d behind

theorem isLine_nil : IsLine [] := by simp [IsLine]

theorem exists_lines_cons (other : c ≠ '\n' ∧ c ≠ '\r') (h : HasLines t lines) :
    ∃ lines, HasLines (c :: t) lines := by
  cases h with
  | last _ plain => exact ⟨_, .last _ (plain.cons other)⟩
  | more line e rest lines plain alone behind =>
      exact ⟨_, .more (c :: line) e rest lines (plain.cons other) alone behind⟩

theorem exists_lines_end (e : LineEnd) (alone : e = .carriageReturn → t.head? ≠ some '\n')
    (h : HasLines t lines) : ∃ lines, HasLines (e.text ++ t) lines :=
  ⟨_, .more [] e t lines isLine_nil alone h⟩

theorem exists_lines (t : Text) : ∃ lines, HasLines t lines := by
  -- The cases are those of unifying: no text, two characters at the end of a line, one, or none.
  fun_induction unifyNewlines t with
  | case1 => exact ⟨_, .last [] isLine_nil⟩
  | case2 rest ih =>
      obtain ⟨lines, h⟩ := ih
      exact exists_lines_end .both nofun h
  | case3 rest single ih =>
      obtain ⟨lines, h⟩ := ih
      refine exists_lines_end .carriageReturn (fun _ lineFeed => ?_) h
      obtain ⟨behind, same⟩ := List.head?_eq_some_iff.mp lineFeed
      exact single behind same
  | case4 c rest _ other ih =>
      obtain ⟨lines, h⟩ := ih
      by_cases lineFeed : c = '\n'
      · subst lineFeed
        exact exists_lines_end .lineFeed nofun h
      · exact exists_lines_cons ⟨lineFeed, other⟩ h

/-- Lines with line ends of one kind only. -/
theorem hasLines_join (e : LineEnd) (some_line : lines ≠ [])
    (plain : ∀ line ∈ lines, IsLine line) : HasLines (e.text.intercalate lines) lines := by
  induction lines with
  | nil => exact absurd rfl some_line
  | cons line lines ih =>
      have first := plain line List.mem_cons_self
      rcases lines with _ | ⟨second, lines⟩
      · simpa using HasLines.last line first
      · have behind := ih (List.cons_ne_nil _ _) fun l mem => plain l (List.mem_cons_of_mem _ mem)
        rw [List.intercalate_cons_cons]
        refine .more line e _ _ first ?_ behind
        -- A line feed is in none of the lines, and is no line end where carriage returns are.
        rintro rfl
        rcases second with _ | ⟨c, second⟩
        · rcases lines with _ | ⟨third, lines⟩
          · simp
          · simp [LineEnd.text, List.intercalate_cons_cons]
        · have other := (plain (c :: second) (by simp) c List.mem_cons_self).1
          rcases lines with _ | ⟨third, lines⟩
          · simpa using other
          · simpa [List.intercalate_cons_cons] using other

end MaximalMunch.Text
