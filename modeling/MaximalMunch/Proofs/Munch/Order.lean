import MaximalMunch.Proofs.Scan.Locality

/-!
The order in which token types are declared decides their names and nothing else. Scans of a text
with the same types in two orders cut the same pieces off and stop alike; at each piece either names
the first type, in its own order, whose match is that long.
-/

namespace MaximalMunch

/-- The token is the start of the window as far as this length, and its type is the first declared
whose match there is that long. -/
structure Token.FirstCut (types : List TokenType) (window : Text) (length : Nat) (t : Token) :
    Prop where
  value_eq : t.value = window.take length
  match_eq : t.type.matchLength? window = some length
  first : types.find? (fun u => u.matchLength? window == some length) = some t.type

/-- The scans cut the same pieces off and stop alike. A piece comes from the window that is made up
of it and of what is left behind it. -/
structure Scan.SameSegments (types types' : List TokenType) (s s' : Scan) : Prop where
  values : s.complete.tokens.map (·.value) = s'.complete.tokens.map (·.value)
  stop : s.complete.stop = s'.complete.stop
  named : ∀ k t t', s.complete.tokens[k]? = some t → s'.complete.tokens[k]? = some t' →
    ∃ after after' length, s.afterTokens? (k + 1) = some after ∧
      s'.afterTokens? (k + 1) = some after' ∧ after.remaining = after'.remaining ∧
      t.FirstCut types (t.value ++ after.remaining) length ∧
      t'.FirstCut types' (t'.value ++ after'.remaining) length

namespace Grammar

theorem front?_of_longestLength? {g : Grammar} {s : Text} {n : Nat}
    (h : g.longestLength? s = some n) :
    ∃ t : Token, g.front? s = some (t, s.drop n) ∧ t.FirstCut g.types s n := by
  have longest := h
  rw [longestLength?_eq] at longest
  obtain ⟨l, hl, rfl⟩ := Option.map_eq_some_iff.mp longest
  have chosen := Scan.chosen_of_longest? hl
  cases found : g.types.find? fun u => u.matchLength? s == some l.length with
  | none =>
      have unmatched := List.find?_eq_none.mp found l.type chosen.type_mem
      simp [chosen.length_eq] at unmatched
  | some t =>
      refine ⟨⟨t, s.take l.length⟩, ?_, rfl, ?_, found⟩
      · simp only [front?, h, found, Option.map_some]
      · simpa using List.find?_some found

variable {types types' : List TokenType} (order : types.Perm types') (trimming : Bool)
include order

theorem front?_perm (s : Text) :
    (front? ⟨types, trimming⟩ s = none ∧ front? ⟨types', trimming⟩ s = none) ∨
      ∃ (t t' : Token) (n : Nat), front? ⟨types, trimming⟩ s = some (t, s.drop n) ∧
        front? ⟨types', trimming⟩ s = some (t', s.drop n) ∧
        t.FirstCut types s n ∧ t'.FirstCut types' s n := by
  have same : longestLength? ⟨types, trimming⟩ s = longestLength? ⟨types', trimming⟩ s := by
    rw [longestLength?_eq, longestLength?_eq]
    exact Scan.longest?_length_perm order s
  cases h : longestLength? ⟨types', trimming⟩ s with
  | none =>
      rw [h] at same
      exact .inl ⟨by rw [front?, same], by rw [front?, h]⟩
  | some n =>
      rw [h] at same
      obtain ⟨t, gives, first⟩ := front?_of_longestLength? same
      obtain ⟨t', gives', first'⟩ := front?_of_longestLength? h
      exact .inr ⟨t, t', n, gives, gives', first, first'⟩

theorem munchStep_perm (s : Text) :
    (∃ rest, munchStep ⟨types, trimming⟩ s = .error rest ∧
        munchStep ⟨types', trimming⟩ s = .error rest) ∨
      ∃ (t t' : Token) (window : Text) (n : Nat),
        munchStep ⟨types, trimming⟩ s = .ok (t, window.drop n) ∧
        munchStep ⟨types', trimming⟩ s = .ok (t', window.drop n) ∧
        t.FirstCut types window n ∧ t'.FirstCut types' window n := by
  rcases front?_perm order trimming s with ⟨none_matches, none_matches'⟩ | found
  · simp only [munchStep, none_matches, none_matches']
    split
    · -- Nothing matches at the blanks in either order; behind them the windows are one again.
      rcases front?_perm order trimming (s.dropWhile Text.isBlank) with ⟨again, again'⟩ | found
      · simp only [again, again']
        exact .inl ⟨_, rfl, rfl⟩
      · obtain ⟨t, t', n, gives, gives', first, first'⟩ := found
        simp only [gives, gives']
        exact .inr ⟨t, t', _, n, rfl, rfl, first, first'⟩
    · exact .inl ⟨s, rfl, rfl⟩
  · obtain ⟨t, t', n, gives, gives', first, first'⟩ := found
    simp only [munchStep, gives, gives']
    exact .inr ⟨t, t', s, n, rfl, rfl, first, first'⟩

end Grammar

namespace Frame

variable {types types' : List TokenType} (order : types.Perm types') {trimming : Bool}
include order

theorem next_perm {f h : Frame} (hf : f.grammar = some ⟨types, trimming⟩)
    (hh : h.grammar = some ⟨types', trimming⟩)
    (same : (f.prepare ⟨types, trimming⟩).rest = (h.prepare ⟨types', trimming⟩).rest) :
    (f.next.1 = .ok none ∧ h.next.1 = .ok none) ∨
      (∃ e, f.next.1 = .error e ∧ h.next.1 = .error e) ∨
      ∃ (t t' : Token) (n : Nat), f.next.1 = .ok (some t) ∧ h.next.1 = .ok (some t') ∧
        f.next.2.rest = h.next.2.rest ∧ t.value = t'.value ∧
        t.FirstCut types (t.value ++ f.next.2.rest) n ∧
        t'.FirstCut types' (t'.value ++ h.next.2.rest) n := by
  have hf' := (grammar_prepare ⟨types, trimming⟩ f).trans hf
  have hh' := (grammar_prepare ⟨types', trimming⟩ h).trans hh
  have preparedF := prepared_prepare ⟨types, trimming⟩ f
  have preparedH := prepared_prepare ⟨types', trimming⟩ h
  rw [← next_prepare hf, ← next_prepare hh]
  by_cases left : (f.prepare ⟨types, trimming⟩).rest = []
  · have left' := same.symm.trans left
    left
    simp [next, hf', hh', prepare_eq_self preparedF, prepare_eq_self preparedH, left, left']
  · have left' := left
    rw [same] at left'
    have stepF := next_eq_munchStep hf' preparedF left
    have stepH := next_eq_munchStep hh' preparedH left'
    rw [← same] at stepH
    rcases Grammar.munchStep_perm order trimming (f.prepare ⟨types, trimming⟩).rest with
      ⟨rest, stuck, stuck'⟩ | ⟨t, t', window, n, gives, gives', first, first'⟩
    · rw [stuck] at stepF
      rw [stuck'] at stepH
      exact .inr (.inl ⟨_, stepF.1, stepH.1⟩)
    · rw [gives] at stepF
      rw [gives'] at stepH
      refine .inr (.inr ⟨t, t', n, stepF.1, stepH.1, stepF.2.trans stepH.2.symm, ?_, ?_, ?_⟩)
      · rw [first.value_eq, first'.value_eq]
      · rwa [stepF.2, first.value_eq, List.take_append_drop]
      · rwa [stepH.2, first'.value_eq, List.take_append_drop]

theorem sameSegments_perm {f h : Frame} (hf : f.grammar = some ⟨types, trimming⟩)
    (hh : h.grammar = some ⟨types', trimming⟩)
    (same : (f.prepare ⟨types, trimming⟩).rest = (h.prepare ⟨types', trimming⟩).rest) :
    Scan.SameSegments types types' f.scan h.scan := by
  -- After a token both windows are prepared, so the windows themselves are the same from there on.
  induction size : f.rest.length using Nat.strongRecOn generalizing f h with
  | ind n ih =>
      have keepsF := f.next_kept.2.trans hf
      have keepsH := h.next_kept.2.trans hh
      have preparedF := prepare_eq_self (prepared_next hf)
      have preparedH := prepare_eq_self (prepared_next hh)
      rcases next_perm order hf hh same with
        ⟨ended, ended'⟩ | ⟨e, stuck, stuck'⟩ | ⟨t, t', m, gives, gives', leaves, value, first, first'⟩
      · have wholeF := Scan.complete_of_end (f.next_scan.trans (by rw [ended]))
        have wholeH := Scan.complete_of_end (h.next_scan.trans (by rw [ended']))
        refine ⟨?_, ?_, ?_⟩ <;> simp [wholeF, wholeH]
      · have wholeF := Scan.complete_of_error (f.next_scan.trans (by rw [stuck]))
        have wholeH := Scan.complete_of_error (h.next_scan.trans (by rw [stuck']))
        refine ⟨?_, ?_, ?_⟩ <;> simp [wholeF, wholeH]
      · have wholeF := Scan.complete_of_token (f.next_scan.trans (by rw [gives]))
        have wholeH := Scan.complete_of_token (h.next_scan.trans (by rw [gives']))
        have shorter : f.next.2.rest.length < f.rest.length :=
          rest_length_lt_of_next (Prod.ext gives rfl)
        have later := ih f.next.2.rest.length (by omega) keepsF keepsH
          (by rw [preparedF, preparedH, leaves]) rfl
        refine ⟨?_, ?_, ?_⟩
        · simp [wholeF, wholeH, value, later.values]
        · simp [wholeF, wholeH, later.stop]
        · intro k u u' hu hu'
          rw [wholeF] at hu
          rw [wholeH] at hu'
          simp only [Scan.afterTokens?, next_scan, gives, gives']
          cases k with
          | zero =>
              cases hu
              cases hu'
              exact ⟨f.next.2.scan, h.next.2.scan, m, rfl, rfl, by simpa using leaves,
                by simpa using first, by simpa using first'⟩
          | succ k => exact later.named k u u' hu hu'

end Frame

/-- Two orders of the same types give the same pieces of a text, or fail after the same pieces with
the same text left. -/
theorem sameSegments_of_perm {types types' : List TokenType} (order : types.Perm types')
    (trimming : Bool) (text : Text) :
    Scan.SameSegments types types' (Scan.start (some ⟨types, trimming⟩) text)
        (Scan.start (some ⟨types', trimming⟩) text) ∧
      (tokenize (some ⟨types, trimming⟩) text).map (·.map (·.value)) =
        (tokenize (some ⟨types', trimming⟩) text).map (·.map (·.value)) := by
  have segments : Scan.SameSegments types types' (Scan.start (some ⟨types, trimming⟩) text)
      (Scan.start (some ⟨types', trimming⟩) text) := by
    rw [← Frame.scan_start, ← Frame.scan_start]
    refine Frame.sameSegments_perm order rfl rfl ?_
    rw [Frame.start_prepare_rest, Frame.start_prepare_rest]
  refine ⟨segments, ?_⟩
  rw [tokenize_eq_complete, tokenize_eq_complete, Scan.Completion.all, Scan.Completion.all,
    segments.stop]
  split
  · simp [Except.map, segments.values]
  · rfl

/-- Key words, and words, which match where a key word does. -/
def Grammar.words : Grammar :=
  ⟨[(TokenType.make "KEY".toList "if|else".toList).toOption.get (by decide +kernel),
    (TokenType.make "WORD".toList "[a-z]+".toList).toOption.get (by decide +kernel)], true⟩

/-- Declared behind the words, key words are words. -/
theorem sameSegments_of_words :
    Grammar.words.types.Perm Grammar.words.types.reverse ∧
      Scan.SameSegments Grammar.words.types Grammar.words.types.reverse
        (Scan.start (some Grammar.words) "if x".toList)
        (Scan.start (some ⟨Grammar.words.types.reverse, true⟩) "if x".toList) ∧
      (Scan.start (some Grammar.words) "if x".toList).complete.tokens.map (·.name) =
        ["KEY".toList, "WORD".toList] ∧
      (Scan.start (some ⟨Grammar.words.types.reverse, true⟩) "if x".toList).complete.tokens.map
        (·.name) = ["WORD".toList, "WORD".toList] := by
  have order : Grammar.words.types.Perm Grammar.words.types.reverse :=
    (List.reverse_perm _).symm
  refine ⟨order, (sameSegments_of_perm order true "if x".toList).1, ?_, ?_⟩
  · decide +kernel
  · decide +kernel

end MaximalMunch
