import MaximalMunch.Scan

/-!
The choice among token types is the first one of the longest matches. The fold that makes the choice
keeps this of the types it has gone through, so the choice is fixed by the lengths of the matches.
-/

namespace MaximalMunch

/-- An empty match is no match. -/
theorem TokenType.matchLength?_pos {t : TokenType} {text : Text} {n : Nat}
    (h : t.matchLength? text = some n) : 0 < n := by
  rw [TokenType.matchLength?, Pattern.Program.matchLength?] at h
  split at h
  · contradiction
  · next nonzero =>
      rcases Nat.eq_zero_or_pos n with zero | pos
      · subst zero
        exact absurd h nonzero
      · exact pos

theorem TokenType.matchLength?_of_regex {a b : TokenType} (same : a.regex = b.regex)
    (text : Text) : a.matchLength? text = b.matchLength? text := by
  have program : a.program = b.program := by
    have compiled := a.compiled
    rw [same, b.compiled] at compiled
    exact (Except.ok.inj compiled).symm
  rw [matchLength?, matchLength?, program]

namespace Scan

/-- The first of the types whose match is the longest one. -/
structure Longest.Chosen (types : List TokenType) (text : Text) (l : Longest) : Prop where
  at_index : types[l.index]? = some l.type
  length_eq : l.type.matchLength? text = some l.length
  longest : ∀ t ∈ types, ∀ n, t.matchLength? text = some n → n ≤ l.length
  first : ∀ t ∈ types.take l.index, ∀ n, t.matchLength? text = some n → n < l.length

/-- What the best match so far says about the types gone through. -/
def Best (types : List TokenType) (text : Text) : Option Longest → Prop
  | none => ∀ t ∈ types, t.matchLength? text = none
  | some l => l.Chosen types text

theorem Longest.Chosen.index_lt {types : List TokenType} {text : Text} {l : Longest}
    (h : l.Chosen types text) : l.index < types.length :=
  (List.getElem?_eq_some_iff.mp h.at_index).1

theorem Longest.Chosen.type_mem {types : List TokenType} {text : Text} {l : Longest}
    (h : l.Chosen types text) : l.type ∈ types :=
  List.mem_of_getElem? h.at_index

theorem Longest.Chosen.concat {types : List TokenType} {text : Text} {l : Longest}
    (h : l.Chosen types text) {t : TokenType}
    (ht : ∀ n, t.matchLength? text = some n → n ≤ l.length) :
    l.Chosen (types ++ [t]) text := by
  refine ⟨?_, h.length_eq, ?_, ?_⟩
  · rw [List.getElem?_append_left h.index_lt]
    exact h.at_index
  · intro u hu n hn
    rcases List.mem_append.mp hu with old | new
    · exact h.longest u old n hn
    · rw [List.mem_singleton] at new
      subst new
      exact ht n hn
  · rw [List.take_append_of_le_length (Nat.le_of_lt h.index_lt)]
    exact h.first

theorem chosen_concat_self {types : List TokenType} {text : Text} {t : TokenType} {n : Nat}
    (hn : t.matchLength? text = some n)
    (shorter : ∀ u ∈ types, ∀ m, u.matchLength? text = some m → m < n) :
    Longest.Chosen (types ++ [t]) text ⟨types.length, t, n⟩ := by
  refine ⟨by simp, hn, ?_, ?_⟩
  · intro u hu m hm
    rcases List.mem_append.mp hu with old | new
    · exact Nat.le_of_lt (shorter u old m hm)
    · rw [List.mem_singleton] at new
      subst new
      rw [hn] at hm
      cases hm
      exact Nat.le_refl n
  · intro u hu m hm
    rw [List.take_left] at hu
    exact shorter u hu m hm

theorem best_better {types : List TokenType} {text : Text} {best : Option Longest}
    (h : Best types text best) (t : TokenType) :
    Best (types ++ [t]) text (better best types.length t (t.matchLength? text)) := by
  cases hn : t.matchLength? text with
  | none =>
      cases best with
      | none =>
          intro u hu
          rcases List.mem_append.mp hu with old | new
          · exact h u old
          · rw [List.mem_singleton.mp new]
            exact hn
      | some b =>
          exact Longest.Chosen.concat h (by simp [hn])
  | some n =>
      cases best with
      | none =>
          refine chosen_concat_self hn ?_
          intro u hu m hm
          rw [h u hu] at hm
          contradiction
      | some b =>
          simp only [better]
          split
          · next longer =>
              refine chosen_concat_self hn ?_
              intro u hu m hm
              exact Nat.lt_of_le_of_lt (h.longest u hu m hm) longer
          · next notLonger =>
              refine h.concat ?_
              intro m hm
              rw [hn] at hm
              cases hm
              exact Nat.le_of_not_lt notLonger

theorem best_longestFrom {before : List TokenType} {text : Text} {best : Option Longest}
    (h : Best before text best) (types : List TokenType) :
    Best (before ++ types) text (longestFrom text.toArray before.length best types) := by
  induction types generalizing before best with
  | nil => simpa [longestFrom] using h
  | cons t types ih =>
      have step := ih (best_better h t)
      rw [List.append_assoc, List.length_append] at step
      exact step

theorem best_longest? (types : List TokenType) (text : Text) :
    Best types text (longest? types text) := by
  have nothing : Best [] text none := by simp [Best]
  exact best_longestFrom nothing types

theorem chosen_of_longest? {types : List TokenType} {text : Text} {l : Longest}
    (h : longest? types text = some l) : l.Chosen types text := by
  have best := best_longest? types text
  rw [h] at best
  exact best

theorem longest?_eq_none_iff (types : List TokenType) (text : Text) :
    longest? types text = none ↔ ∀ t ∈ types, t.matchLength? text = none := by
  have best := best_longest? types text
  constructor
  · intro h
    rw [h] at best
    exact best
  · intro h
    cases hl : longest? types text with
    | none => rfl
    | some l =>
        rw [hl] at best
        have none_matches := h l.type best.type_mem
        rw [best.length_eq] at none_matches
        contradiction

theorem longestFrom_concat (text : Array Char) (index : Nat) (best : Option Longest)
    (types : List TokenType) (t : TokenType) :
    longestFrom text index best (types ++ [t]) =
      better (longestFrom text index best types) (index + types.length) t
        (t.program.matchLength? text) := by
  induction types generalizing index best with
  | nil => rfl
  | cons u types ih =>
      simp only [List.cons_append, longestFrom, ih, List.length_cons]
      rw [Nat.add_right_comm, Nat.add_assoc]

theorem longest?_concat (types : List TokenType) (t : TokenType) (text : Text) :
    longest? (types ++ [t]) text =
      better (longest? types text) types.length t (t.matchLength? text) := by
  rw [longest?, longestFrom_concat, Nat.zero_add]
  rfl

/-- A further type is chosen itself, or the choice is what it was. -/
theorem longest?_concat_cases (types : List TokenType) (t : TokenType) (text : Text) :
    (∃ l, longest? (types ++ [t]) text = some l ∧ l.type = t) ∨
      longest? (types ++ [t]) text = longest? types text := by
  rw [longest?_concat]
  cases t.matchLength? text with
  | none => exact .inr rfl
  | some n =>
      cases longest? types text with
      | none => exact .inl ⟨_, rfl, rfl⟩
      | some b =>
          simp only [better]
          split
          · exact .inl ⟨_, rfl, rfl⟩
          · exact .inr rfl

/-- A further type that matches only what one before it matches is never chosen. -/
theorem longest?_concat_of_match {types : List TokenType} {t u : TokenType} {text : Text}
    (hu : u ∈ types) (same : t.matchLength? text = u.matchLength? text) :
    longest? (types ++ [t]) text = longest? types text := by
  rw [longest?_concat, same]
  cases hn : u.matchLength? text with
  | none => rfl
  | some n =>
      cases hl : longest? types text with
      | none =>
          have unmatched := (longest?_eq_none_iff types text).mp hl u hu
          rw [hn] at unmatched
          contradiction
      | some l =>
          have notLonger := (chosen_of_longest? hl).longest u hu n hn
          rw [better, if_neg (Nat.not_lt_of_le notLonger)]

/-- In whatever order the types are declared, the longest match has the same length. -/
theorem longest?_length_perm {types types' : List TokenType} (order : types.Perm types')
    (text : Text) : (longest? types text).map (·.length) = (longest? types' text).map (·.length) := by
  have best := best_longest? types text
  have best' := best_longest? types' text
  generalize longest? types text = found at best ⊢
  generalize longest? types' text = found' at best' ⊢
  cases found with
  | none =>
      cases found' with
      | none => rfl
      | some l' =>
          have none_matches := best l'.type (order.mem_iff.mpr best'.type_mem)
          rw [best'.length_eq] at none_matches
          contradiction
  | some l =>
      cases found' with
      | none =>
          have none_matches := best' l.type (order.mem_iff.mp best.type_mem)
          rw [best.length_eq] at none_matches
          contradiction
      | some l' =>
          have le := best'.longest l.type (order.mem_iff.mp best.type_mem) l.length best.length_eq
          have ge := best.longest l'.type (order.mem_iff.mpr best'.type_mem) l'.length best'.length_eq
          simp only [Option.map_some, Option.some.injEq]
          omega

theorem length_pos_of_longest? {types : List TokenType} {text : Text} {l : Longest}
    (h : longest? types text = some l) : 0 < l.length :=
  TokenType.matchLength?_pos (chosen_of_longest? h).length_eq

end Scan
end MaximalMunch
