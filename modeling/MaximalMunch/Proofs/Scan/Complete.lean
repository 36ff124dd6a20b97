import MaximalMunch.Proofs.Scan.Outcome

/-!
The complete scan: the tokens that a scan gives one after another, and how it stops. Each token makes
the window smaller, whatever the positions of the window are, so a complete scan always stops.
-/

namespace MaximalMunch
namespace Scan

/-! ### Progress -/

theorem trimFrontBy_size_le (s : Scan) (fuel : Nat) : (s.trimFrontBy fuel).2.size ≤ s.size := by
  induction fuel generalizing s with
  | zero => exact Nat.le_refl _
  | succ fuel ih =>
      rw [trimFrontBy]
      split
      · exact Nat.le_refl _
      · split
        · refine Nat.le_trans (ih { s with pos := s.pos + 1 }) ?_
          simp only [size]
          omega
        · exact Nat.le_refl _

theorem trimBackBy_size_le (s : Scan) (fuel : Nat) : (s.trimBackBy fuel).2.size ≤ s.size := by
  induction fuel generalizing s with
  | zero => exact Nat.le_refl _
  | succ fuel ih =>
      rw [trimBackBy]
      split
      · exact Nat.le_refl _
      · split
        · refine Nat.le_trans (ih { s with stop := s.stop - 1 }) ?_
          simp only [size]
          omega
        · exact Nat.le_refl _

theorem trimOutside_size_le (s : Scan) : s.trimOutside.2.size ≤ s.size := by
  have back := s.trimBackBy_size_le s.size
  rw [trimOutside, trimBack]
  split
  · next trimmed =>
      rw [trimmed] at back
      exact back
  · next trimmed =>
      rw [trimmed] at back
      split
      · exact Nat.le_trans (trimFrontBy_size_le _ _) back
      · exact back

theorem cut_size (s : Scan) (l : Longest) : (s.cut l).2.size = s.size - l.length := by
  simp only [cut, eat, size]
  omega

theorem size_lt_of_cut {s p : Scan} {types : List TokenType} {text : Text} {l : Longest}
    (left : 0 < s.size) (smaller : p.size ≤ s.size) (chosen : longest? types text = some l) :
    (p.cut l).2.size < s.size := by
  have pos := length_pos_of_longest? chosen
  rw [cut_size]
  omega

theorem size_lt_of_cutLongest {s after : Scan} {g : Grammar} {token : Token}
    (left : 0 < s.size) (h : s.cutLongest g = (.ok (some token), after)) :
    after.size < s.size := by
  have trimmed := s.trimFrontBy_size_le s.size
  rw [cutLongest, trimFront] at h
  split at h
  · next l chosen =>
      cases h
      exact size_lt_of_cut left (Nat.le_refl _) chosen
  · split at h
    · split at h
      · cases h
      · split at h
        · split at h
          · cases h
          · next after_trim =>
              rw [after_trim] at trimmed
              split at h
              · next l chosen =>
                  cases h
                  exact size_lt_of_cut left trimmed chosen
              · cases h
        · cases h
    · cases h

/-- Every token makes the window smaller. -/
theorem size_lt_of_next {s after : Scan} {token : Token}
    (h : s.next = (.ok (some token), after)) : after.size < s.size := by
  have trimmed := s.trimOutside_size_le
  rw [next] at h
  split at h
  · cases h
  · next g _ =>
      split at h
      · cases h
      · next p prepared =>
          have smaller : p.size ≤ s.size := by
            split at prepared
            · rw [prepared] at trimmed
              exact trimmed
            · cases prepared
              exact Nat.le_refl _
          split at h
          · cases h
          · next left =>
              have some_left : 0 < p.size := by
                simp only [atEnd, decide_eq_true_eq] at left
                simp only [size]
                omega
              exact Nat.lt_of_lt_of_le (size_lt_of_cutLongest some_left h) smaller

/-! ### The complete scan -/

structure Completion where
  tokens : List Token
  /-- The end of the text, or why there is no further token. -/
  stop : Except ScanError Unit

def complete (s : Scan) : Completion :=
  match h : s.next with
  | (.error e, _) => ⟨[], .error e⟩
  | (.ok none, _) => ⟨[], .ok ()⟩
  | (.ok (some token), after) =>
    have := size_lt_of_next h
    ⟨token :: after.complete.tokens, after.complete.stop⟩
termination_by s.size

theorem complete_of_error {s after : Scan} {e : ScanError} (h : s.next = (.error e, after)) :
    s.complete = ⟨[], .error e⟩ := by
  rw [complete]
  split <;> simp_all

theorem complete_of_end {s after : Scan} (h : s.next = (.ok none, after)) :
    s.complete = ⟨[], .ok ()⟩ := by
  rw [complete]
  split <;> simp_all

theorem complete_of_token {s after : Scan} {token : Token}
    (h : s.next = (.ok (some token), after)) :
    s.complete = ⟨token :: after.complete.tokens, after.complete.stop⟩ := by
  rw [complete]
  split <;> simp_all

theorem tokens_length_le_size (s : Scan) : s.complete.tokens.length ≤ s.size := by
  fun_induction complete s with
  | case1 s e after h => exact Nat.zero_le _
  | case2 s after h => exact Nat.zero_le _
  | case3 s token after h ih =>
      have smaller := size_lt_of_next h
      simp only [List.length_cons]
      omega

end Scan

namespace Frame

theorem complete_scan (f : Frame) :
    f.scan.complete =
      match f.next with
      | (.error e, _) => ⟨[], .error e⟩
      | (.ok none, _) => ⟨[], .ok ()⟩
      | (.ok (some token), after) =>
        ⟨token :: after.scan.complete.tokens, after.scan.complete.stop⟩ := by
  have step := f.next_scan
  split
  · next h =>
      rw [h] at step
      exact Scan.complete_of_error step
  · next h =>
      rw [h] at step
      exact Scan.complete_of_end step
  · next h =>
      rw [h] at step
      exact Scan.complete_of_token step

theorem rest_length_lt_of_next {f after : Frame} {token : Token}
    (h : f.next = (.ok (some token), after)) : after.rest.length < f.rest.length := by
  have step := f.next_scan
  rw [h] at step
  simpa using Scan.size_lt_of_next step

theorem stop_of_grammar {g : Grammar} {f : Frame} (hg : f.grammar = some g) :
    f.scan.complete.stop = .ok () ∨ ∃ rest, f.scan.complete.stop = .error (.unmatched rest) := by
  induction size : f.rest.length using Nat.strongRecOn generalizing f with
  | ind n ih =>
      rw [complete_scan]
      have kept := f.next_kept.2.trans hg
      have step := next_outcome hg
      split
      · next e after h =>
          rw [h] at step
          cases step
          exact .inr ⟨_, rfl⟩
      · exact .inl rfl
      · next token after h =>
          rw [h] at kept
          have shorter := rest_length_lt_of_next h
          exact ih after.rest.length (by omega) kept rfl

end Frame
end MaximalMunch
