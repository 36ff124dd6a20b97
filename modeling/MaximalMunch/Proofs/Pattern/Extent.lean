import MaximalMunch.TokenType

/-!
How far a match reaches. From a place in the text, every way through a program ends at a place in
the text: single characters, runs and repeated groups are taken only where there are characters for
them, and assertions come back to where they began. So a match is never longer than the text.
-/

namespace MaximalMunch.Pattern

variable {text : Array Char} {rest : Rest} {p : Place}

/-- The place, if there is one, lies in the text. -/
def Lands (text : Array Char) (found : Option Place) : Prop := ∀ q ∈ found, q.pos ≤ text.size

/-- From a place in the text it leads to a place in the text, or nowhere. -/
def Confined (text : Array Char) (rest : Rest) : Prop :=
  ∀ p, p.pos ≤ text.size → Lands text (rest p)

theorem lands_none : Lands text none := by simp [Lands]

theorem lands_some (h : p.pos ≤ text.size) : Lands text (some p) := by simpa [Lands] using h

theorem Lands.or {a b : Option Place} (ha : Lands text a) (hb : Lands text b) :
    Lands text (a.or b) := by
  cases a with
  | none => exact hb
  | some q => exact ha

theorem Lands.ite {c : Prop} [Decidable c] {a b : Option Place} (ha : c → Lands text a)
    (hb : ¬c → Lands text b) : Lands text (if c then a else b) := by
  split
  · next holds => exact ha holds
  · next fails => exact hb fails

theorem confined_some : Confined text some := fun _ h => lands_some h

/-! ### Runs -/

theorem runLength_le (test : CharTest) (limit : Nat) {i : Nat} (h : i ≤ text.size) :
    i + runLength text test limit i ≤ text.size := by
  induction limit generalizing i with
  | zero => exact h
  | succ limit ih =>
      rw [runLength]
      split
      · next c here =>
          obtain ⟨inside, _⟩ := Array.getElem?_eq_some_iff.mp here
          split
          · have further : i + 1 + runLength text test limit (i + 1) ≤ text.size := ih inside
            omega
          · exact h
      · exact h

theorem sameRun_le {fold : Fold} {count i j : Nat} (h : j ≤ text.size)
    (same : sameRun text fold count i j = true) : j + count ≤ text.size := by
  induction count generalizing i j with
  | zero => exact h
  | succ count ih =>
      rw [sameRun] at same
      split at same
      · next c d _ here =>
          obtain ⟨inside, _⟩ := Array.getElem?_eq_some_iff.mp here
          have further := ih inside (Bool.and_eq_true_iff.mp same).2
          omega
      · contradiction

theorem shrink_lands (h : Confined text rest) {least n : Nat} (inside : p.pos + n ≤ text.size) :
    Lands text (shrink rest p least n) := by
  induction n with
  | zero => exact .ite (fun _ => h p inside) fun _ => lands_none
  | succ n ih => exact .ite (fun _ => lands_none) fun _ => .or (h _ inside) (ih (by omega))

theorem grow_lands (h : Confined text rest) {more n : Nat}
    (inside : p.pos + (n + more) ≤ text.size) : Lands text (grow rest p more n) := by
  induction more generalizing n with
  | zero => exact h _ inside
  | succ more ih =>
      have here : (p.move (p.pos + n)).pos ≤ text.size := by
        simp only [Place.move]
        omega
      exact .or (h _ here) (ih (by omega))

/-! ### Rounds -/

variable {body : Rest → Rest} {greed : Greed} {least : Nat} {most : Option Nat}

theorem repeatFrom_confined (bodies : ∀ rest, Confined text rest → Confined text (body rest))
    (h : Confined text rest) (fuel count : Nat) (last : Option Nat) :
    Confined text (repeatFrom body greed least most rest fuel count last) := by
  induction fuel generalizing count last with
  | zero => exact fun _ _ => lands_none
  | succ fuel ih =>
      intro p inside
      have round (last : Option Nat) :
          Lands text (body (repeatFrom body greed least most rest fuel (count + 1) last) p) :=
        bodies _ (ih _ _) p inside
      have again {c : Prop} [Decidable c] : Lands text (if c then
          body (repeatFrom body greed least most rest fuel (count + 1) (some p.pos)) p else none) :=
        .ite (fun _ => round _) fun _ => lands_none
      rw [repeatFrom]
      refine .ite (fun _ => round last) fun _ => ?_
      cases greed with
      | reluctant => exact (h p inside).or again
      | greedy | possessive => exact again.or (h p inside)

theorem repeatSettled_confined (least : Nat) (most : Option Nat)
    (round : Confined text (body some)) (fuel count : Nat) (last : Option Nat) :
    Confined text (repeatSettled body least most fuel count last) := by
  induction fuel generalizing count last with
  | zero => exact fun _ _ => lands_none
  | succ fuel ih =>
      intro p inside
      have settled := round p inside
      have stays : Lands text (some p) := lands_some inside
      rw [repeatSettled]
      cases found : body some p with
      | none => exact .ite (fun _ => lands_none) fun _ => .ite (fun _ => stays) fun _ => stays
      | some q =>
          have onward (last : Option Nat) :
              Lands text (repeatSettled body least most fuel (count + 1) last q) :=
            ih _ _ q (settled q found)
          exact .ite (fun _ => onward _) fun _ => .ite (fun _ => onward _) fun _ => stays

/-! ### Programs -/

/-- What is confined stays so behind a program; the constructs differ in where they lead to before.
-/
theorem follow_confined (program : Program) (h : Confined text rest) :
    Confined text (program.follow text rest) := by
  induction program generalizing rest with
  | done => exact h
  | never => exact fun _ _ => lands_none
  | one test =>
      intro p _
      rw [Program.follow]
      split
      · next c here =>
          obtain ⟨further, _⟩ := Array.getElem?_eq_some_iff.mp here
          exact .ite (fun _ => h _ further) fun _ => lands_none
      · exact lands_none
  | spot s =>
      intro p inside
      exact .ite (fun _ => h p inside) fun _ => lands_none
  | seq first second ihFirst ihSecond => exact ihFirst (ihSecond h)
  | alt first second ihFirst ihSecond =>
      intro p inside
      exact (ihFirst h p inside).or (ihSecond h p inside)
  | capture number body ih =>
      intro p inside
      have finishing : Confined text fun q => rest (q.finish number) := fun q => h (q.finish number)
      exact ih finishing (p.begin number) inside
  | again number fold =>
      intro p inside
      rw [Program.follow]
      split
      · next start stop _ =>
          exact .ite (fun same => h _ (sameRun_le inside same)) fun _ => lands_none
      · exact lands_none
  | look back negated body ih =>
      intro p inside
      simp only [Program.follow]
      -- Wherever the body ends, matching goes on from where it began.
      split
      · next q _ => exact .ite (fun _ => lands_none) fun _ => h (q.move p.pos) inside
      · exact .ite (fun _ => h p inside) fun _ => lands_none
  | condition number yes no ihYes ihNo =>
      intro p inside
      exact .ite (fun _ => ihYes h p inside) fun _ => ihNo h p inside
  | atomic body ih =>
      intro p inside
      have settled := ih confined_some p inside
      rw [Program.follow]
      split
      · next q found => exact h q (settled q found)
      · exact lands_none
  | loopOne greed least most test =>
      intro p inside
      have run := runLength_le test (min (most.getD text.size) text.size) inside
      simp only [Program.follow]
      refine .ite (fun _ => lands_none) fun enough => ?_
      cases greed with
      | greedy => exact shrink_lands h run
      | reluctant => exact grow_lands h (by omega)
      | possessive => exact h _ run
  | loop greed least most body ih =>
      intro p inside
      cases greed with
      | greedy => exact repeatFrom_confined (fun _ => ih) h _ _ _ p inside
      | reluctant => exact repeatFrom_confined (fun _ => ih) h _ _ _ p inside
      | possessive =>
          have settled := repeatSettled_confined least most (ih confined_some)
            (least + text.size + 2) 0 none p inside
          rw [Program.follow]
          split
          · next q found => exact h q (settled q found)
          · exact lands_none

/-! ### The length of a match -/

/-- The match that is no match is missing or empty. -/
theorem Program.matchEnd?_of_none {program : Program} (h : program.matchLength? text = none) :
    (program.matchEnd? text).getD 0 = 0 := by
  rw [matchLength?] at h
  split at h
  · next zero => rw [zero]; rfl
  · rw [h]; rfl

theorem Program.matchEnd?_of_some {program : Program} {n : Nat}
    (h : program.matchLength? text = some n) : program.matchEnd? text = some n := by
  rw [matchLength?] at h
  split at h
  · contradiction
  · exact h

theorem Program.matchLength?_le {program : Program} {n : Nat}
    (h : program.matchLength? text = some n) : n ≤ text.size := by
  obtain ⟨q, found, rfl⟩ := Option.map_eq_some_iff.mp (matchEnd?_of_some h)
  exact follow_confined program confined_some _ (Nat.zero_le _) q found

end Pattern

/-- A type matches no more than there is. -/
theorem TokenType.matchLength?_le {t : TokenType} {text : Text} {n : Nat}
    (h : t.matchLength? text = some n) : n ≤ text.length :=
  Pattern.Program.matchLength?_le h

end MaximalMunch
