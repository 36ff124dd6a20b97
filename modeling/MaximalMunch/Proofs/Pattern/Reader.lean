import Mathlib.Data.List.Infix
import MaximalMunch.Pattern.Parse
import MaximalMunch.Proofs.Keeps

/-!
Reading a regular expression from left to right. What is unread is always an end of the expression,
so what was taken just before is a part of it; and the switches set for the whole pattern are
written in it. An error that is not a fault of the pattern shows such a part: a bound of a repeat, a
code point, or switches that exclude each other.
-/

namespace MaximalMunch.Pattern

/-- A list of switches in parentheses that turns this one on for the whole pattern. -/
def Switched (regex : Text) (flag : Flag) : Prop :=
  ∃ letters : Text, (∀ c ∈ letters, (Flag.ofChar? c).isSome = true) ∧
    (∃ c ∈ letters, Flag.ofChar? c = some flag) ∧ '(' :: '?' :: letters ++ [')'] <:+: regex

/-- A numeral between the braces of a repeat, alone or on one side of a comma. -/
def IsBound (regex numeral : Text) : Prop :=
  numeral.all isAsciiDigit = true ∧
    ∃ low high : Text, low.all isAsciiDigit = true ∧ high.all isAsciiDigit = true ∧
      ((numeral = low ∧ '\x7b' :: low ++ ['\x7d'] <:+: regex) ∨
        ((numeral = low ∨ numeral = high) ∧
          '\x7b' :: low ++ [','] ++ high ++ ['\x7d'] <:+: regex))

/-- Why an expression is refused although it need not be malformed: something in it goes beyond what
the engine can count. -/
inductive BeyondRange (regex : Text) : Error → Prop where
  | count {numeral : Text} : IsBound regex numeral → Read.maxCount ≤ Text.digitsValue 10 numeral →
      BeyondRange regex .repeatTooLarge
  | numeral {numeral : Text} : IsBound regex numeral → Text.maxDigits < numeral.length →
      BeyondRange regex (.numeralTooLong numeral.length)
  | codePoint {digits : Text} : digits.length = 8 → digits.all isHexDigit = true →
      '\\' :: 'U' :: digits <:+: regex → 0x7FFFFFFF < Text.digitsValue 16 digits →
      BeyondRange regex .codePointTooLarge
  | modes : Switched regex .ascii → Switched regex .unicode → BeyondRange regex .clashingModes

/-- An error that an expression can be refused with. -/
def Refusal (regex : Text) (e : Error) : Prop := (∃ f, e = .fault f) ∨ BeyondRange regex e

def lexemeText (l : Option Lexeme) : Text := (l.map Lexeme.text).getD []

namespace Source

def unread (s : Source) : Text := lexemeText s.next ++ s.rest

theorem load_unread (position : Nat) (t : Text) :
    Yields (fun e => ∃ f, e = .fault f) (fun s => s.unread = t) (load position t) := by
  fun_cases load position t
  · exact .ok rfl
  · exact .error ⟨_, rfl⟩
  · exact .ok rfl
  · exact .ok rfl

theorem advance_unread (s : Source) :
    Yields (fun e => ∃ f, e = .fault f) (fun s' => s.unread = lexemeText s.next ++ s'.unread)
      s.advance := by
  rw [advance]
  split
  case h_1 none =>
    refine .ok ?_
    rw [none]
    rfl
  case h_2 l some =>
    refine (load_unread _ _).weaken (fun _ fault => fault) fun s' same => ?_
    rw [unread, same]

end Source

/-- The reader stands right behind `w`. -/
structure Behind (regex w : Text) (r : Reader) : Prop where
  suffix : w ++ r.source.unread <:+ regex
  switched : ∀ flag, r.flags.has flag = true → Switched regex flag

namespace Behind

variable {regex w : Text} {r : Reader}

theorem forget (h : Behind regex w r) : Behind regex [] r :=
  ⟨(List.suffix_append w _).trans h.suffix, h.switched⟩

theorem part (h : Behind regex w r) : w <:+: regex :=
  (List.prefix_append w _).isInfix.trans h.suffix.isInfix

end Behind

namespace Read

variable {regex w : Text} {α : Type} {P : Reader → Prop} {Q : α → Reader → Prop}

/-- Right behind `w`, the reading leads to a state of the given kind. -/
abbrev Reads (regex w : Text) {α : Type} (Q : α → Reader → Prop) : Read α → Prop :=
  Runs (Behind regex w) (Refusal regex) Q

/-- The reading goes on in the expression. -/
abbrev Stays (regex : Text) {α : Type} : Read α → Prop :=
  Keeps (Behind regex []) (Refusal regex) fun _ => True

theorem Stays.anywhere {m : Read α} (h : Stays regex m) :
    Reads regex w (fun _ r => Behind regex [] r) m :=
  (h.pre fun _ => Behind.forget).post fun _ _ ends => ends.2

/-- The same, where the reading goes on. -/
theorem Stays.behind {m : Read α} (h : Stays regex m) :
    Reads regex w (fun _ r => True ∧ Behind regex [] r) m :=
  h.pre fun _ => Behind.forget

theorem Reads.stays {m : Read α} {v : α → Text} (h : Reads regex [] (fun a => Behind regex (v a)) m) :
    Stays regex m :=
  h.post fun _ _ ends => ⟨trivial, ends.forget⟩

theorem done (a : α) : Stays regex (pure a) := Keeps.pure trivial

theorem failAt_refuses (position : Nat) (cause : Cause) :
    Runs P (Refusal regex) Q (failAt position cause) :=
  Runs.throw (.inl ⟨_, rfl⟩)

theorem position_runs : Runs P (Refusal regex) (fun _ => P) position :=
  Runs.get.bind fun _ => Runs.pure fun _ h => h.1.symm ▸ h.2

theorem fail_refuses (cause : Cause) (back : Nat) :
    Runs P (Refusal regex) Q (fail cause back) :=
  position_runs.bind fun _ => failAt_refuses _ _

/-- What comes behind a failure does not count. -/
theorem failAt_bind (position : Nat) (cause : Cause) {β : Type} {R : β → Reader → Prop}
    {rest : α → Read β} : Runs P (Refusal regex) R (failAt position cause >>= rest) :=
  Runs.throw_bind (.inl ⟨_, rfl⟩)

theorem fail_bind (cause : Cause) (back : Nat) {β : Type} {R : β → Reader → Prop}
    {rest : α → Read β} : Runs P (Refusal regex) R (fail cause back >>= rest) :=
  Runs.bind (Q := fun _ _ => False) (fail_refuses cause back) fun _ _ impossible => impossible.elim

/-- A check before the rest of the reading. -/
theorem unless_runs {c : Prop} [Decidable c] {cause : Cause} {back : Nat} {rest : PUnit → Read α}
    (h : Runs P (Refusal regex) Q (rest ⟨⟩)) :
    Runs P (Refusal regex) Q (if c then do
        let u ← fail cause back
        rest u
      else rest ⟨⟩) :=
  Runs.ite (fun _ => fail_bind _ _) fun _ => h

theorem next_reads : Reads regex w (fun l r => r.source.next = l ∧ Behind regex w r) next :=
  Runs.get.bind fun _ => Runs.pure fun _ h => ⟨congrArg (·.source.next) h.1, h.1.symm ▸ h.2⟩

theorem skip_reads (l : Option Lexeme) :
    Runs (fun r => r.source.next = l ∧ Behind regex w r) (Refusal regex)
      (fun _ r => Behind regex (w ++ lexemeText l) r) skip := by
  refine Runs.get.bind fun r => ?_
  rintro s ⟨rfl, ahead, here⟩
  have advanced : Yields (Refusal regex)
      (fun source => s.source.unread = lexemeText s.source.next ++ source.unread)
      s.source.advance := s.source.advance_unread.weaken (fun _ => .inl) fun _ h => h
  refine Runs.bind (P := fun _ => True) (R := fun _ r => Behind regex (w ++ lexemeText l) r)
    (Runs.lift advanced) (fun source => ?_) s trivial
  rintro _ ⟨unread, -⟩
  refine ⟨?_, here.switched⟩
  rw [List.append_assoc, ← ahead, ← unread]
  exact here.suffix

theorem take_reads :
    Reads regex w (fun l r => Behind regex (w ++ lexemeText l) r) take :=
  next_reads.bind fun l => (skip_reads l).bind fun _ => Runs.pure fun _ h => h

/-- What stands right behind the reader after a character was asked for. -/
def acceptedText (c : Char) (accepted : Bool) : Text := if accepted then [c] else []

theorem accept_reads (c : Char) :
    Reads regex w (fun b r => Behind regex (w ++ acceptedText c b) r) (accept c) := by
  refine next_reads.bind fun l => Runs.ite (fun same => ?_) fun _ => ?_
  · subst same
    exact (skip_reads _).bind fun _ => Runs.pure fun _ h => h
  · refine Runs.pure fun r h => ?_
    rw [acceptedText, if_neg Bool.false_ne_true, List.append_nil]
    exact h.2

theorem takeSome_reads (p : Char → Bool) (n : Nat) :
    Reads regex w (fun t r => (t.length ≤ n ∧ t.all p = true) ∧ Behind regex (w ++ t) r)
      (takeSome p n) := by
  induction n generalizing w with
  | zero => exact Runs.pure fun r h => ⟨⟨le_refl 0, rfl⟩, by rwa [List.append_nil]⟩
  | succ n ih =>
      have stop : ∀ l, Runs (fun r => r.source.next = l ∧ Behind regex w r) (Refusal regex)
          (fun t r => (t.length ≤ n + 1 ∧ t.all p = true) ∧ Behind regex (w ++ t) r)
          (pure []) := fun l =>
        Runs.pure fun r h => ⟨⟨Nat.zero_le _, rfl⟩, by rw [List.append_nil]; exact h.2⟩
      rw [takeSome]
      refine next_reads.bind fun l => ?_
      split
      case h_1 c =>
        refine Runs.ite (fun ofP => ?_) fun _ => stop _
        refine (skip_reads _).bind fun _ => ih.bind fun t => Runs.pure fun r h => ?_
        obtain ⟨⟨short, all⟩, here⟩ := h
        refine ⟨⟨Nat.succ_le_succ short, ?_⟩, ?_⟩
        · rw [List.all_cons, ofP, all]
          rfl
        · rw [List.append_assoc] at here
          exact here
      case h_2 => exact stop _

/-! ### Parts that prove nothing by themselves -/

theorem skip_stays : Stays regex skip := fun r here =>
  (skip_reads r.source.next r ⟨rfl, here⟩).weaken (fun _ h => h) fun _ ends => ⟨trivial, ends.forget⟩

theorem take_stays : Stays regex take := take_reads.stays

theorem accept_stays (c : Char) : Stays regex (accept c) := (accept_reads c).stays

theorem next_stays : Stays regex next := next_reads.post fun _ _ ends => ⟨trivial, ends.2⟩

theorem takeSome_stays (p : Char → Bool) (n : Nat) : Stays regex (takeSome p n) :=
  (takeSome_reads p n).post fun _ _ ends => ⟨trivial, ends.2.forget⟩

theorem position_stays : Stays regex position := position_runs.post fun _ _ h => ⟨trivial, h⟩

theorem nameUpTo_stays (closer : Char) (what : Text) (fuel : Nat) (name : Text) :
    Stays regex (nameUpTo closer what fuel name) := by
  induction fuel generalizing name with
  | zero => exact fail_refuses _ _
  | succ fuel ih =>
      refine take_stays.bind fun l _ => ?_
      split
      · exact Keeps.ite (fun _ => fail_refuses _ _) fun _ => fail_refuses _ _
      · refine Keeps.ite (fun _ => ?_) fun _ => ih _
        exact Keeps.ite (fun _ => fail_refuses _ _) fun _ => done _

theorem name_stays (closer : Char) (what : Text) : Stays regex (name closer what) :=
  Keeps.get.bind fun _ _ => nameUpTo_stays _ _ _ _

theorem groupCount_stays : Stays regex groupCount := Keeps.get.bind fun _ _ => done _

theorem isClosed_stays (number : Nat) : Stays regex (isClosed number) :=
  Keeps.get.bind fun _ _ => done _

theorem numberOf?_stays (name : Text) : Stays regex (numberOf? name) :=
  Keeps.get.bind fun _ _ => done _

theorem checkLookBehind_stays (number : Nat) : Stays regex (checkLookBehind number) := by
  refine Keeps.get.bind fun r _ => ?_
  split
  · exact done _
  · refine (isClosed_stays number).bind fun closed _ => unless_runs ?_
    exact Keeps.ite (fun _ => fail_refuses _ _) fun _ => done _

theorem openGroup_stays (name? : Option Text) : Stays regex (openGroup name?) := by
  refine groupCount_stays.bind fun number _ => ?_
  split
  · exact Keeps.bind (Keeps.modify fun _ here => ⟨here.suffix, here.switched⟩) fun _ _ => done _
  · refine (numberOf?_stays _).bind fun old _ => ?_
    split
    · exact fail_bind _ _
    · exact Keeps.bind (Keeps.modify fun _ here => ⟨here.suffix, here.switched⟩)
        fun _ _ => done _

theorem closeGroup_stays (number : Nat) (body : List Tree) :
    Stays regex (closeGroup number body) :=
  Keeps.modify fun _ here => ⟨here.suffix, here.switched⟩

end Read
end MaximalMunch.Pattern
