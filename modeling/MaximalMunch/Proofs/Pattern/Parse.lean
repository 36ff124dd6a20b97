import MaximalMunch.Pattern.Program
import MaximalMunch.Proofs.Pattern.Inline

/-!
Why an expression is refused. The reading of a whole expression is made of the readings of its
parts, and making a program of what was read only finds faults of the pattern.
-/

namespace MaximalMunch.Pattern

variable {regex w : Text} {fuel : Nat}

namespace Read

theorem lineComment_stays (fuel : Nat) : Stays regex (lineComment fuel) := by
  induction fuel with
  | zero => exact done _
  | succ fuel ih =>
      refine take_stays.bind fun l _ => ?_
      split
      · exact done _
      · exact Keeps.ite (fun _ => done _) fun _ => ih

theorem groupComment_stays (start fuel : Nat) : Stays regex (groupComment start fuel) := by
  induction fuel with
  | zero => exact failAt_refuses _ _
  | succ fuel ih =>
      refine take_stays.bind fun l _ => ?_
      split
      · exact failAt_refuses _ _
      · exact Keeps.ite (fun _ => done _) fun _ => ih

theorem checkedName_stays (closer : Char) : Stays regex (checkedName closer) :=
  (name_stays _ _).bind fun _ _ => unless_runs (done _)

theorem namedReference_stays : Stays regex namedReference := by
  refine (checkedName_stays _).bind fun name _ => (numberOf?_stays _).bind fun number _ => ?_
  split
  · exact fail_refuses _ _
  · refine (isClosed_stays _).bind fun closed _ => unless_runs ?_
    exact (checkLookBehind_stays _).bind fun _ _ => done _

theorem conditionGroup_stays : Stays regex conditionGroup := by
  refine (name_stays _ _).bind fun name _ => ?_
  extract_lets withNumber
  have stays : ∀ number : Nat, Stays regex (withNumber number) := fun number =>
    (checkLookBehind_stays _).bind fun _ _ => done _
  refine Keeps.ite (fun _ => (numberOf?_stays _).bind fun number _ => ?_) fun _ => ?_
  · split
    · exact fail_bind _ _
    · exact (done _).bind fun number _ => stays number
  · split
    · exact fail_bind _ _
    · exact fail_bind _ _
    · exact fail_bind _ _
    · refine unless_runs (position_stays.bind fun position _ => ?_)
      refine Keeps.bind (Keeps.modify fun r here => ?_) fun _ _ =>
        (done _).bind fun number _ => stays number
      split
      · exact here
      · exact ⟨here.suffix, here.switched⟩

theorem close_stays (start : Nat) : Stays regex (close start) :=
  (accept_stays _).bind fun _ _ => Keeps.ite (fun _ => failAt_refuses _ _) fun _ => done _

/-- The readings of whole parts, which call each other, with this much fuel. -/
structure Parsed (regex : Text) (fuel : Nat) : Prop where
  alternatives : ∀ verbose outermost before,
    Stays regex (alternatives fuel verbose outermost before)
  sequence : ∀ verbose first items, Stays regex (sequence fuel verbose first items)
  group : ∀ verbose atStart,
    Reads regex ['('] (fun _ => Behind regex []) (group fuel verbose atStart)
  capture : ∀ verbose start name?, Stays regex (capture fuel verbose start name?)
  enclosed : ∀ verbose start on off, Stays regex (enclosed fuel verbose start on off)

namespace Parsed

variable (ih : Parsed regex fuel)
include ih

theorem alternatives_succ (verbose outermost : Bool) (before : List (List Tree)) :
    Stays regex (Read.alternatives (fuel + 1) verbose outermost before) := by
  rw [Read.alternatives]
  refine (ih.sequence _ _ _).bind fun item _ => (accept_stays _).bind fun bar _ => ?_
  refine Keeps.ite (fun _ => Keeps.get.bind fun r _ => ?_) fun _ => done _
  exact ih.alternatives _ _ _

theorem sequence_succ (verbose first : Bool) (items : List Tree) :
    Stays regex (Read.sequence (fuel + 1) verbose first items) := by
  rw [Read.sequence]
  refine Runs.bind next_reads fun l => ?_
  split
  case h_1 => exact Runs.pure fun r here => ⟨trivial, here.2⟩
  case h_2 c =>
    refine Runs.ite (fun _ => Runs.pure fun r here => ⟨trivial, here.2⟩) fun _ => ?_
    have more : ∀ verbose items, Reads regex [c] (fun _ r => True ∧ Behind regex [] r)
        (Read.sequence fuel verbose first items) :=
      fun verbose items => (ih.sequence verbose first items).behind
    refine (skip_reads _).bind fun _ => ?_
    refine Runs.ite (fun _ => more _ _) fun _ => ?_
    refine Runs.ite (fun _ => ?comment) fun _ => ?_
    case comment => exact Stays.behind ((lineComment_stays _).bind fun _ _ => ih.sequence _ _ _)
    refine Runs.ite (fun _ => ?set) fun _ => ?_
    case set => exact Stays.behind (set_stays.bind fun _ _ => ih.sequence _ _ _)
    refine Runs.ite (fun mark => ?mark) fun _ => ?_
    case mark =>
      have marks : c = '*' ∨ c = '+' ∨ c = '?' ∨ c = '\x7b' := by simpa [or_assoc] using mark
      exact (repeatMark_reads marks _).bind fun _ => ih.sequence _ _ _
    refine Runs.ite (fun _ => more _ _) fun _ => ?_
    refine Runs.ite (fun _ => more _ _) fun _ => ?_
    refine Runs.ite (fun _ => more _ _) fun _ => ?_
    refine Runs.ite (fun opening => ?group) fun _ => more _ _
    case group =>
      subst opening
      exact (ih.group _ _).bind fun _ => ih.sequence _ _ _
  case h_3 =>
    refine (skip_reads _).bind fun _ => Runs.bind (escape_reads _) fun item => ?_
    exact ih.sequence _ _ _

theorem capture_succ (verbose : Bool) (start : Nat) (name? : Option Text) :
    Stays regex (Read.capture (fuel + 1) verbose start name?) := by
  rw [Read.capture]
  refine (openGroup_stays _).bind fun number _ => (ih.alternatives _ _ _).bind fun body _ => ?_
  exact (close_stays _).bind fun _ _ => (closeGroup_stays _ _).bind fun _ _ => done _

theorem enclosed_succ (verbose : Bool) (start : Nat) (on off : Flags) :
    Stays regex (Read.enclosed (fuel + 1) verbose start on off) := by
  rw [Read.enclosed]
  refine (ih.alternatives _ _ _).bind fun body _ => ?_
  exact (close_stays _).bind fun _ _ => done _

theorem group_succ (verbose atStart : Bool) :
    Reads regex ['('] (fun _ => Behind regex []) (Read.group (fuel + 1) verbose atStart) := by
  rw [Read.group]
  refine position_runs.bind fun position => (accept_reads '?').bind fun question => ?_
  refine Runs.ite (fun _ => ?_) fun asked => ?_
  · exact Stays.anywhere ((ih.capture _ _ _).bind fun _ _ => done _)
  obtain rfl : question = true := by simpa using asked
  refine take_reads.bind fun l => ?_
  split
  · exact fail_refuses _ _
  · exact fail_refuses _ _
  case h_3 c =>
    have closes : ∀ {α : Type} (a : α), Stays regex (do
        close (position - 1)
        return a) := fun a => (close_stays _).bind fun _ _ => done a
    refine Runs.ite (fun _ => Stays.anywhere ?named) fun _ => ?_
    case named =>
      refine (accept_stays _).bind fun _ _ => Keeps.ite (fun _ => ?_) fun _ => ?_
      · refine (checkedName_stays _).bind fun name _ => ?_
        exact (ih.capture _ _ _).bind fun _ _ => done _
      refine (accept_stays _).bind fun _ _ => Keeps.ite (fun _ => ?_) fun _ => ?_
      · exact namedReference_stays.bind fun _ _ => done _
      refine take_stays.bind fun l _ => ?_
      split
      · exact fail_refuses _ _
      · exact fail_refuses _ _
    refine Runs.ite (fun _ => Stays.anywhere ?enclosed) fun _ => ?_
    case enclosed => exact (ih.enclosed _ _ _ _).bind fun _ _ => done _
    refine Runs.ite (fun _ => Stays.anywhere ?comment) fun _ => ?_
    case comment => exact (groupComment_stays _ _).bind fun _ _ => done _
    refine Runs.ite (fun _ => Stays.anywhere ?ahead) fun _ => ?_
    case ahead => exact (ih.alternatives _ _ _).bind fun body _ => closes _
    refine Runs.ite (fun _ => Stays.anywhere ?behind) fun _ => ?_
    case behind =>
      refine take_stays.bind fun l _ => ?_
      split
      · exact fail_refuses _ _
      refine unless_runs (Keeps.get.bind fun r _ => ?_)
      -- Only the outermost look-behind marks where its groups begin, but all go on alike.
      extract_lets outer inside
      have stays : ∀ u : Unit, Stays regex (inside u) := by
        intro u
        refine (ih.alternatives _ _ _).bind fun body _ => Keeps.ite (fun _ => ?_) fun _ => closes _
        exact Keeps.bind (Keeps.modify fun _ here => ⟨here.suffix, here.switched⟩)
          fun _ _ => closes _
      refine Keeps.ite (fun _ => ?_) fun _ => stays ()
      refine groupCount_stays.bind fun count _ => ?_
      exact Keeps.bind (Keeps.modify fun _ here => ⟨here.suffix, here.switched⟩) fun u _ => stays u
    refine Runs.ite (fun _ => Stays.anywhere ?condition) fun _ => ?_
    case condition =>
      refine conditionGroup_stays.bind fun number _ => (ih.sequence _ _ _).bind fun yes _ => ?_
      extract_lets withNo
      have stays : ∀ no : List Tree, Stays regex (withNo no) := fun no => closes _
      refine (accept_stays _).bind fun _ _ => Keeps.ite (fun _ => ?_) fun _ => ?_
      · refine (ih.sequence _ _ _).bind fun no _ => next_stays.bind fun _ _ => unless_runs ?_
        exact (done _).bind fun no _ => stays no
      · exact (done _).bind fun no _ => stays no
    refine Runs.ite (fun _ => Stays.anywhere ?atomic) fun _ => ?_
    case atomic => exact (ih.alternatives _ _ _).bind fun body _ => closes _
    refine Runs.ite (fun _ => ?_) fun _ => fail_refuses _ _
    refine (switches_reads rfl).bind fun switched => ?_
    split
    · exact Stays.anywhere ((ih.enclosed _ _ _ _).bind fun _ _ => done _)
    · refine Stays.anywhere (Keeps.ite (fun _ => failAt_bind _ _) fun _ => ?_)
      exact Keeps.get.bind fun _ _ => done _

end Parsed

theorem parsed (regex : Text) (fuel : Nat) : Parsed regex fuel := by
  induction fuel with
  | zero =>
      exact ⟨fun _ _ _ => fail_refuses _ _, fun _ _ _ => fail_refuses _ _,
        fun _ _ => fail_refuses _ _, fun _ _ _ => fail_refuses _ _,
        fun _ _ _ _ => fail_refuses _ _⟩
  | succ fuel ih =>
      exact ⟨ih.alternatives_succ, ih.sequence_succ, ih.group_succ, ih.capture_succ,
        ih.enclosed_succ⟩

end Read

/-- Only the switches set for the whole pattern can clash once all of it is read. -/
theorem Written.read_refuses (regex : Text) : FailsWith (Refusal regex) (Written.read regex) := by
  refine (Source.load_unread 0 regex).weaken (fun _ => .inl) (fun _ h => h) |>.bind
    fun source unread => ?_
  have start : Behind regex [] { source } := ⟨⟨[], unread ▸ rfl⟩, nofun⟩
  refine ((Read.parsed regex _).alternatives false true [] _ start).bind fun ⟨items, r⟩ ends => ?_
  refine .ite (fun both => .error (.inr ?_)) fun _ => ?_
  · obtain ⟨ascii, unicode⟩ := Bool.and_eq_true_iff.mp both
    exact .modes (ends.2.switched _ ascii) (ends.2.switched _ unicode)
  refine .ite (fun _ => .error (.inl ⟨_, rfl⟩)) fun _ => ?_
  split
  · exact .error (.inl ⟨_, rfl⟩)
  · exact .ok trivial

/-- Making a program only finds faults of the pattern. -/
abbrev Makes {α : Type} : Except Error α → Prop := FailsWith fun e => ∃ f, e = .fault f

theorem fixedWidth_makes (width : Width) : Makes (fixedWidth width) :=
  .ite (fun _ => .error ⟨_, rfl⟩) fun _ => .ite (fun _ => .error ⟨_, rfl⟩) fun _ => .ok trivial

mutual

theorem Tree.program_makes (groups : List (Option Width)) (flags : Flags) (item : Tree) :
    Makes (item.program groups flags) := by
  cases item with
  | char _ | notChar _ | any | set _ _ | anchor _ | again _ => exact .ok trivial
  | branch alternatives => exact choiceProgram_makes groups flags alternatives
  | loop greed least most body =>
      rw [Tree.program]
      refine .ite (fun _ => .error ⟨_, rfl⟩) fun _ => ?_
      split
      · exact .ok trivial
      · exact (sequenceProgram_makes groups flags body).mapped
  | group number on off body => exact (sequenceProgram_makes groups _ body).mapped
  | atomic body => exact (sequenceProgram_makes groups flags body).mapped
  | look behind negated body =>
      cases behind with
      | false => exact (sequenceProgram_makes groups flags body).mapped
      | true =>
          rw [Tree.program]
          split
          case h_1 failed => exact .error ((fixedWidth_makes _).of_error failed)
          case h_2 => exact (sequenceProgram_makes groups flags body).mapped
  | condition number yes no =>
      rw [Tree.program]
      split
      case h_1 failed => exact .error ((sequenceProgram_makes groups flags yes).of_error failed)
      case h_2 => exact (sequenceProgram_makes groups flags no).mapped

theorem sequenceProgram_makes (groups : List (Option Width)) (flags : Flags) (items : List Tree) :
    Makes (sequenceProgram groups flags items) := by
  cases items with
  | nil => exact .ok trivial
  | cons item items =>
      rw [sequenceProgram]
      split
      case h_1 failed => exact .error ((Tree.program_makes groups flags item).of_error failed)
      case h_2 => exact (sequenceProgram_makes groups flags items).mapped

theorem choiceProgram_makes (groups : List (Option Width)) (flags : Flags)
    (alternatives : List (List Tree)) : Makes (choiceProgram groups flags alternatives) := by
  cases alternatives with
  | nil => exact .ok trivial
  | cons items alternatives =>
      rw [choiceProgram]
      split
      case h_1 failed => exact .error ((sequenceProgram_makes groups flags items).of_error failed)
      case h_2 => exact (choiceProgram_makes groups flags alternatives).mapped

end

/-- An expression is refused for a fault, or for a part of it that goes beyond range. -/
theorem compile_refuses (regex : Text) : FailsWith (Refusal regex) (compile regex) := by
  rw [compile]
  split
  case h_1 failed => exact .error ((Written.read_refuses regex).of_error failed)
  case h_2 w _ =>
    exact (sequenceProgram_makes w.groups w.flags w.items).weaken (fun _ => .inl) fun _ h => h

end MaximalMunch.Pattern
