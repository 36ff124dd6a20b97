import MaximalMunch.Proofs.Pattern.Extent
import MaximalMunch.Proofs.Scan.Frame
import MaximalMunch.Proofs.Grammar.Addition

/-!
The lengths of matches and the choice among them. A type that matches the start of a text matches at
least one character and no more than there are, so cutting off as many never meets the end of the
window. Of the types that match, the one with the longest match is chosen, and the first of them where
several are longest; place and length are fixed by that, and the length even without the order in
which the types are declared.
-/

namespace MaximalMunch

namespace Scan

variable {types : List TokenType} {text : Text}

/-! ### The length of a match -/

/-- So many characters can be cut off the front of the window, and these are the first of the text
that is seen through it. -/
structure Spares (s : Scan) (count : Nat) : Prop where
  piece_eq : (s.eat count).1 = s.remaining.take count
  piece_length : (s.eat count).1.length = count
  pos_eq : (s.eat count).2.pos = s.pos + count
  inside : (s.eat count).2.Inside

theorem spares_of_le {s : Scan} {count : Nat} (inside : s.Inside)
    (enough : count ≤ s.remaining.length) : s.Spares count := by
  obtain ⟨f, rfl⟩ := Frame.exists_frame inside
  rw [Frame.scan_remaining] at enough
  have eaten := f.eat_scan count
  have taken : (f.rest.take count).length = count := List.length_take_of_le enough
  refine ⟨?_, ?_, ?_, ?_⟩
  · rw [eaten, Frame.scan_remaining]
  · rw [eaten, taken]
  · rw [eaten]
    simp only [Frame.scan, Frame.eat, List.length_append, taken]
    omega
  · rw [eaten]
    exact Frame.scan_inside _

/-- The match of a token type at the start of a text is missing, empty, or some of its characters.
Only in the last case is there a length; it is that of the match, at least one and at most that of the
text, and so many characters can be cut off wherever the text is what is left. -/
theorem length_usable {name regex : Text} {t : TokenType}
    (made : TokenType.make name regex = .ok t) (text : Text) :
    ∃ program, Pattern.compile regex = .ok program ∧
      ((t.matchLength? text = none ∧ (program.matchEnd? text.toArray).getD 0 = 0) ∨
        ∃ n, t.matchLength? text = some n ∧ program.matchEnd? text.toArray = some n ∧
          1 ≤ n ∧ n ≤ text.length ∧
          ∀ s : Scan, s.Inside → s.remaining = text → s.Spares n) := by
  have compiled := t.compiled
  rw [(Grammar.make_ok made).2] at compiled
  refine ⟨t.program, compiled, ?_⟩
  cases found : t.matchLength? text with
  | none => exact .inl ⟨rfl, t.program.matchEnd?_of_none found⟩
  | some n =>
      have fits := TokenType.matchLength?_le found
      refine .inr ⟨n, rfl, t.program.matchEnd?_of_some found, TokenType.matchLength?_pos found, fits,
        fun s inside left => spares_of_le inside ?_⟩
      rw [left]
      exact fits

theorem eq_ok_get {ε α : Type} {x : Except ε α} (h : x.toOption.isSome = true) :
    x = .ok (x.toOption.get h) := by
  cases x with
  | error e => cases h
  | ok a => rfl

/-- A key before a colon, in quotes that are the same on both sides or with a mark at its end. -/
def keyRegex : Text :=
  "(?s)(?<!x)(['\"])?(?>[a-z]+|-)[_0-9]*+.*?(?(1)\\1|!)(?=:|$)".toList

def keyType : TokenType :=
  (TokenType.make "KEY".toList keyRegex).toOption.get (by decide +kernel)

/-- The quote inside is passed by, as no colon follows it. -/
theorem length_usable_key :
    TokenType.make "KEY".toList keyRegex = .ok keyType ∧
      keyType.matchLength? "'abc_12' x':".toList = some 11 ∧
      (Scan.start none "'abc_12' x':".toList).Spares 11 := by
  have made : TokenType.make "KEY".toList keyRegex = .ok keyType := eq_ok_get _
  have length : keyType.matchLength? "'abc_12' x':".toList = some 11 := by decide +kernel
  refine ⟨made, length, ?_⟩
  obtain ⟨program, -, ⟨unmatched, -⟩ | ⟨n, found, -, -, -, spares⟩⟩ :=
    length_usable made "'abc_12' x':".toList
  · rw [unmatched] at length
    cases length
  · obtain rfl : n = 11 := Option.some.inj (found.symm.trans length)
    exact spares _ (Frame.start_inside none _) (by rw [← Frame.scan_start, Frame.scan_remaining]; rfl)

/-! ### The first of the longest matches -/

/-- What is told of a choice: the place of the type and the length of its match, or -1 and 0 where
there is none. -/
def told : Option Longest → Int × Nat
  | none => (-1, 0)
  | some l => (l.index, l.length)

theorem told_length (found : Option Longest) :
    (told found).2 = (found.map (·.length)).getD 0 := by
  cases found <;> rfl

def longestMatch (types : List TokenType) (text : Text) : Int × Nat := told (longest? types text)

/-- The type at this place matches so much of the text, none matches more, and none declared before
it as much. -/
structure FirstLongest (types : List TokenType) (text : Text) (index length : Nat) : Prop where
  matched : ∃ t, types[index]? = some t ∧ t.matchLength? text = some length
  some_chars : 1 ≤ length
  longest : ∀ (j : Nat) (t : TokenType) (n : Nat), types[j]? = some t →
    t.matchLength? text = some n → n ≤ length
  first : ∀ (j : Nat) (t : TokenType) (n : Nat), j < index → types[j]? = some t →
    t.matchLength? text = some n → n < length

theorem Longest.Chosen.firstLongest {l : Longest} (h : l.Chosen types text) :
    FirstLongest types text l.index l.length where
  matched := ⟨l.type, h.at_index, h.length_eq⟩
  some_chars := TokenType.matchLength?_pos h.length_eq
  longest j t n there matched := h.longest t (List.mem_of_getElem? there) n matched
  first j t n before there matched := by
    refine h.first t (List.mem_of_getElem? (i := j) ?_) n matched
    rw [List.getElem?_take_of_lt before]
    exact there

/-- There is only one first among the longest matches. -/
theorem FirstLongest.unique {i i' n n' : Nat} (h : FirstLongest types text i n)
    (k : FirstLongest types text i' n') : i = i' ∧ n = n' := by
  obtain ⟨t, there, matched⟩ := h.matched
  obtain ⟨t', there', matched'⟩ := k.matched
  have le := k.longest i t n there matched
  have ge := h.longest i' t' n' there' matched'
  have same : n = n' := Nat.le_antisymm le ge
  subst same
  -- The earlier of two places would not be behind a shorter match only.
  rcases Nat.lt_trichotomy i i' with before | same | behind
  · exact absurd (k.first i t n before there matched) (Nat.lt_irrefl n)
  · exact ⟨same, rfl⟩
  · exact absurd (h.first i' t' n behind there' matched') (Nat.lt_irrefl n)

theorem longestMatch_cases (types : List TokenType) (text : Text) :
    (longestMatch types text = (-1, 0) ∧ ∀ t ∈ types, t.matchLength? text = none) ∨
      ∃ index length : Nat, longestMatch types text = (↑index, length) ∧
        FirstLongest types text index length := by
  rw [longestMatch]
  cases found : longest? types text with
  | none => exact .inl ⟨rfl, (longest?_eq_none_iff types text).mp found⟩
  | some l => exact .inr ⟨l.index, l.length, rfl, (chosen_of_longest? found).firstLongest⟩

theorem FirstLongest.exists_match {index length : Nat} (h : FirstLongest types text index length) :
    ∃ t ∈ types, t.matchLength? text ≠ none := by
  obtain ⟨t, there, matched⟩ := h.matched
  exact ⟨t, List.mem_of_getElem? there, by simp [matched]⟩

theorem longestMatch_eq_iff {index length : Nat} :
    longestMatch types text = (↑index, length) ↔ FirstLongest types text index length := by
  rcases longestMatch_cases types text with ⟨none_told, unmatched⟩ | ⟨i, n, found, first⟩
  · rw [none_told]
    constructor
    · intro same
      obtain ⟨place, -⟩ := Prod.mk.inj same
      omega
    · intro first
      obtain ⟨t, member, matched⟩ := first.exists_match
      exact absurd (unmatched t member) matched
  · rw [found]
    constructor
    · intro same
      obtain ⟨place, rfl⟩ := Prod.mk.inj same
      obtain rfl : i = index := Int.ofNat_inj.mp place
      exact first
    · intro other
      obtain ⟨rfl, rfl⟩ := first.unique other
      rfl

/-- The match that is chosen is the first of the longest ones. There is one if any type matches, and
-1 and 0 are told otherwise. In whatever order the types are declared, the length is the same. -/
theorem longestMatch_first (g : Grammar) (text : Text) :
    (0 ≤ (longestMatch g.types text).1 ↔ ∃ t ∈ g.types, t.matchLength? text ≠ none) ∧
    (∀ index length : Nat, longestMatch g.types text = (↑index, length) ↔
      FirstLongest g.types text index length) ∧
    ((∀ t ∈ g.types, t.matchLength? text = none) → longestMatch g.types text = (-1, 0)) ∧
    ∀ types, g.types.Perm types →
      (longestMatch types text).2 = (longestMatch g.types text).2 := by
  refine ⟨?some_match, fun _ _ => longestMatch_eq_iff, ?nothing, ?order⟩
  case some_match =>
    rcases longestMatch_cases g.types text with ⟨none_told, unmatched⟩ | ⟨i, n, found, first⟩
    · simpa [none_told] using unmatched
    · simpa [found] using first.exists_match
  case nothing =>
    intro unmatched
    rw [longestMatch, (longest?_eq_none_iff g.types text).mpr unmatched]
    rfl
  case order =>
    intro types order
    rw [longestMatch, longestMatch, told_length, told_length, longest?_length_perm order.symm]

end Scan
end MaximalMunch
