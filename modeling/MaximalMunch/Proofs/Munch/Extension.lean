import MaximalMunch.Proofs.Grammar.Addition
import MaximalMunch.Proofs.Munch

/-!
A further token type changes nothing before its first token. Declared last, it is chosen where its
match is longer than all others, and a scan that has not chosen it yet is in step with the scan
without it; blanks that it matches, and that would be skipped without it, are a token of it too. A
type with the expression of an earlier one is never chosen.
-/

namespace MaximalMunch

namespace Grammar

theorem type_mem_of_munchStep {g : Grammar} {s rest : Text} {token : Token}
    (h : g.munchStep s = .ok (token, rest)) : token.type ∈ g.types := by
  obtain ⟨window, _, found⟩ := front?_of_munchStep h
  rw [front?_eq] at found
  obtain ⟨l, hl, cut⟩ := Option.map_eq_some_iff.mp found
  cases cut
  exact (Scan.chosen_of_longest? hl).type_mem

theorem type_mem_of_munchRun {g : Grammar} {s : Text} {token : Token}
    (h : token ∈ (g.munchRun s).tokens) : token.type ∈ g.types := by
  fun_induction munchRun g s with
  | case1 => contradiction
  | case2 s left rest step => contradiction
  | case3 s left first rest step _ ih =>
      rcases List.mem_cons.mp h with here | later
      · rw [here]
        exact type_mem_of_munchStep step
      · exact ih later

variable (types : List TokenType) (t : TokenType) (trimming : Bool)

theorem front?_concat (s : Text) :
    (∃ token rest, front? ⟨types ++ [t], trimming⟩ s = some (token, rest) ∧ token.type = t) ∨
      front? ⟨types ++ [t], trimming⟩ s = front? ⟨types, trimming⟩ s := by
  rw [front?_eq, front?_eq]
  rcases Scan.longest?_concat_cases types t s with ⟨l, chosen, new⟩ | same
  · exact .inl ⟨_, _, by rw [chosen, Option.map_some], new⟩
  · exact .inr (by rw [same])

/-- A step of the longer grammar gives a token of the new type or is a step of the shorter one. -/
theorem munchStep_concat (s : Text) :
    (∃ token rest, munchStep ⟨types ++ [t], trimming⟩ s = .ok (token, rest) ∧ token.type = t) ∨
      munchStep ⟨types ++ [t], trimming⟩ s = munchStep ⟨types, trimming⟩ s := by
  rcases front?_concat types t trimming s with ⟨token, rest, found, new⟩ | same
  · exact .inl ⟨token, rest, by rw [munchStep, found], new⟩
  · cases here : front? ⟨types, trimming⟩ s with
    | some found =>
        rw [here] at same
        exact .inr (by rw [munchStep, munchStep, same, here])
    | none =>
        rw [here] at same
        simp only [munchStep, same, here]
        split
        · rcases front?_concat types t trimming (s.dropWhile Text.isBlank) with
            ⟨token, rest, found, new⟩ | again
          · exact .inl ⟨token, rest, by rw [found], new⟩
          · exact .inr (by rw [again])
        · exact .inr rfl

theorem munchRun_concat (s : Text) :
    ((munchRun ⟨types ++ [t], trimming⟩ s).tokens.takeWhile fun token => token.type ≠ t) <+:
        (munchRun ⟨types, trimming⟩ s).tokens ∧
      ((∀ token ∈ (munchRun ⟨types ++ [t], trimming⟩ s).tokens, token.type ≠ t) →
        munchRun ⟨types ++ [t], trimming⟩ s = munchRun ⟨types, trimming⟩ s) := by
  fun_induction munchRun ⟨types ++ [t], trimming⟩ s with
  | case1 => exact ⟨List.nil_prefix, fun _ => (munchRun_nil _).symm⟩
  | case2 s left rest h =>
      rcases munchStep_concat types t trimming s with ⟨_, _, found, _⟩ | same
      · rw [h] at found
        contradiction
      · rw [h] at same
        exact ⟨List.nil_prefix, fun _ => (munchRun_of_error left same.symm).symm⟩
  | case3 s left token rest h _ ih =>
      obtain ⟨initial, equal⟩ := ih
      by_cases new : token.type = t
      · refine ⟨?_, fun none_new => absurd new (none_new token List.mem_cons_self)⟩
        simp [new]
      · -- The token is not of the new type, so the shorter grammar has taken the same step.
        have same : munchStep ⟨types, trimming⟩ s = .ok (token, rest) := by
          rcases munchStep_concat types t trimming s with ⟨_, _, found, its⟩ | same
          · rw [h] at found
            cases found
            exact absurd its new
          · exact same.symm.trans h
        rw [munchRun_of_ok left same]
        constructor
        · simpa [List.takeWhile_cons, new] using initial
        · intro none_new
          rw [equal fun later hl => none_new later (List.mem_cons_of_mem _ hl)]

/-- The new type never wins against one with the same expression. -/
theorem munchRun_concat_of_regex {u : TokenType} (hu : u ∈ types) (same : u.regex = t.regex)
    (s : Text) : munchRun ⟨types ++ [t], trimming⟩ s = munchRun ⟨types, trimming⟩ s := by
  have step (s : Text) :
      munchStep ⟨types ++ [t], trimming⟩ s = munchStep ⟨types, trimming⟩ s := by
    have front (s : Text) : front? ⟨types ++ [t], trimming⟩ s = front? ⟨types, trimming⟩ s := by
      have equal := TokenType.matchLength?_of_regex same.symm s
      rw [front?_eq, front?_eq, Scan.longest?_concat_of_match hu equal]
    simp only [munchStep, front]
  fun_induction munchRun ⟨types ++ [t], trimming⟩ s with
  | case1 => exact (munchRun_nil _).symm
  | case2 s left rest h => exact (munchRun_of_error left ((step s).symm.trans h)).symm
  | case3 s left token rest h _ ih =>
      rw [munchRun_of_ok left ((step s).symm.trans h), ih]

/-- A type with a new name can be added. As long as the grammar with it gives no token of it, the
tokens are those of the grammar without it; if it never does, so is how the scan stops. With the
expression of an earlier type it never does. -/
theorem completion_add (g : Grammar) (t : TokenType) (fresh : t.name ∉ g.names) :
    ∃ g', g.add t.name t.regex = .ok g' ∧
      (∀ text,
        ((g'.completion text).tokens.takeWhile fun token => token.type ≠ t) <+:
          (g.completion text).tokens) ∧
      (∀ text, (∀ token ∈ (g'.completion text).tokens, token.type ≠ t) →
        g'.completion text = g.completion text) ∧
      ((∃ u ∈ g.types, u.regex = t.regex) →
        ∀ text, ∀ token ∈ (g'.completion text).tokens, token.type ≠ t) := by
  refine ⟨⟨g.types ++ [t], g.trimming⟩, add_of_fresh fresh, ?_, ?_, ?_⟩
  · intro text
    rw [completion_eq, completion_eq]
    exact (munchRun_concat g.types t g.trimming _).1
  · intro text none_new
    rw [completion_eq] at none_new
    rw [completion_eq, completion_eq]
    exact (munchRun_concat g.types t g.trimming _).2 none_new
  · rintro ⟨u, hu, same⟩ text token given new
    rw [completion_eq, munchRun_concat_of_regex g.types t g.trimming hu same] at given
    have old := type_mem_of_munchRun given
    rw [new] at old
    exact fresh (List.mem_map_of_mem old)

/-- Another name for the numbers of a sum. -/
def digits : TokenType :=
  (TokenType.make "DIGITS".toList "[0-9]+".toList).toOption.get (by decide +kernel)

/-- The later one of two types with one expression gives no token. -/
theorem completion_add_digits :
    digits.name ∉ (sums true).names ∧ (∃ u ∈ (sums true).types, u.regex = digits.regex) ∧
      ∃ g', (sums true).add digits.name digits.regex = .ok g' ∧
        (∀ token ∈ (g'.completion "12 + 3".toList).tokens, token.type ≠ digits) ∧
        g'.completion "12 + 3".toList = (sums true).completion "12 + 3".toList := by
  have fresh : digits.name ∉ (sums true).names := by decide +kernel
  have same : ∃ u ∈ (sums true).types, u.regex = digits.regex := by decide +kernel
  obtain ⟨g', added, _, equal, never⟩ := completion_add (sums true) digits fresh
  have none_new := never same "12 + 3".toList
  exact ⟨fresh, same, g', added, none_new, equal _ none_new⟩

end Grammar
end MaximalMunch
