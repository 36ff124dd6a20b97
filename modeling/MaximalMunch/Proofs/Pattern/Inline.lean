import MaximalMunch.Proofs.Pattern.Reader

/-!
The parts of a regular expression that can go beyond range: escapes of code points, the bounds of
repeats, and switches. Each is met right behind the characters that begin it, so what is taken from
there on is the part of the expression that is to blame.
-/

namespace MaximalMunch.Pattern.Read

variable {regex w : Text}

/-! ### Escapes -/

/-- A code point is written in the expression with so many digits after the letter `c`. -/
def Escaped (regex : Text) (c : Char) (count n : Nat) : Prop :=
  ∃ digits : Text, digits.length = count ∧ digits.all isHexDigit = true ∧
    n = Text.digitsValue 16 digits ∧ '\\' :: c :: digits <:+: regex

theorem hexEscape_reads (c : Char) (count : Nat) :
    Reads regex ['\\', c] (fun e r => Escaped regex c count e.2 ∧ Behind regex [] r)
      (hexEscape c count) := by
  refine (takeSome_reads _ _).bind fun digits => Runs.known fun taken => ?_
  refine Runs.ite (fun _ => fail_bind _ _) fun full => Runs.pure fun r here => ?_
  exact ⟨⟨digits, le_antisymm taken.1 (not_lt.mp full), taken.2, rfl, here.part⟩, here.forget⟩

theorem hexEscape_some (c : Char) (count : Nat) :
    Reads regex ['\\', c] (fun _ => Behind regex [])
      (do return some (← hexEscape c count).2) :=
  (hexEscape_reads c count).bind fun _ => Runs.pure fun _ ends => ends.2

theorem codePoint?_reads (c : Char) :
    Reads regex ['\\', c] (fun _ => Behind regex []) (codePoint? c) := by
  rw [codePoint?]
  refine Runs.ite (fun same => same ▸ hexEscape_some _ _) fun _ => ?_
  refine Runs.ite (fun same => same ▸ hexEscape_some _ _) fun _ => ?_
  refine Runs.ite (fun same => ?_) fun _ => ?_
  · subst same
    refine (hexEscape_reads 'U' 8).bind fun e => Runs.known fun escaped => ?_
    obtain ⟨digits, eight, hex, value, part⟩ := escaped
    refine Runs.ite (fun large => Runs.throw_bind ?_) fun _ => ?_
    · exact .inr (.codePoint eight hex part (value ▸ large))
    · exact Runs.ite (fun _ => fail_bind _ _) fun _ => Runs.pure fun _ here => here
  refine Runs.ite (fun _ => ?_) fun _ => (done _).anywhere
  refine Stays.anywhere ((accept_stays _).bind fun _ _ => unless_runs ?_)
  refine (name_stays _ _).bind fun name _ => ?_
  cases CharacterName.codePoint? name with
  | some n => exact done _
  | none => exact fail_refuses _ _

theorem octalEscape_stays (digits : Text) (more : Nat) :
    Stays regex (octalEscape digits more) :=
  (takeSome_stays _ _).bind fun _ _ => unless_runs (done _)

theorem setEscape_reads (c : Char) :
    Reads regex ['\\', c] (fun _ => Behind regex []) (setEscape c) := by
  rw [setEscape]
  refine Runs.ite (fun _ => (done _).anywhere) fun _ => ?_
  split
  · exact (done _).anywhere
  split
  · exact (done _).anywhere
  refine (codePoint?_reads c).bind fun code => ?_
  have stays : Stays regex (do
      if isOctalDigit c then return Member.char (← octalEscape [c] 2)
      if isAsciiDigit c || isAsciiLetter c then failEscape ['\\', c]
      return .char c.toNat) := by
    refine Keeps.ite (fun _ => (octalEscape_stays _ _).bind fun _ _ => done _) fun _ => ?_
    exact Keeps.ite (fun _ => fail_bind _ _) fun _ => done _
  split
  · exact (done _).anywhere
  · exact stays.anywhere

theorem groupReference_stays (digits : Text) : Stays regex (groupReference digits) := by
  refine groupCount_stays.bind fun count _ => Keeps.ite (fun _ => ?_) fun _ => fail_refuses _ _
  refine (isClosed_stays _).bind fun closed _ => unless_runs ?_
  exact (checkLookBehind_stays _).bind fun _ _ => done _

theorem numberEscape_stays (c : Char) : Stays regex (numberEscape c) := by
  refine next_stays.bind fun l _ => ?_
  split
  · refine Keeps.ite (fun _ => skip_stays.bind fun _ _ => next_stays.bind fun _ _ => ?_) fun _ =>
      groupReference_stays _
    split
    · refine Keeps.ite (fun _ => ?_) fun _ => groupReference_stays _
      exact (octalEscape_stays _ _).bind fun _ _ => done _
    · exact groupReference_stays _
  · exact groupReference_stays _

theorem escape_reads (c : Char) :
    Reads regex ['\\', c] (fun _ => Behind regex []) (escape c) := by
  rw [escape]
  split
  · exact (done _).anywhere
  split
  · exact (done _).anywhere
  split
  · exact (done _).anywhere
  refine (codePoint?_reads c).bind fun code => ?_
  have stays : Stays regex (do
      if c = '0' then return Tree.char (← octalEscape [c] 2)
      if isAsciiDigit c then return (← numberEscape c)
      if isAsciiLetter c then failEscape ['\\', c]
      return .char c.toNat) := by
    refine Keeps.ite (fun _ => (octalEscape_stays _ _).bind fun _ _ => done _) fun _ => ?_
    refine Keeps.ite (fun _ => numberEscape_stays _) fun _ => ?_
    exact Keeps.ite (fun _ => fail_bind _ _) fun _ => done _
  split
  · exact (done _).anywhere
  · exact stays.anywhere

/-! ### Sets -/

/-- One end of a range is met right behind its own lexeme. -/
theorem setItem_reads (l : Lexeme) :
    Reads regex l.text (fun _ => Behind regex []) (setItem l) := by
  cases l with
  | plain c => exact (done _).anywhere
  | escaped c => exact setEscape_reads c

/-- What a lexeme begins is read right behind it. -/
theorem taken_reads {α : Type} {atEnd : Read α} {rest : Lexeme → Read α}
    (h : Stays regex atEnd) (h' : ∀ l, Reads regex l.text (fun _ => Behind regex []) (rest l)) :
    Stays regex (do
      match ← take with
      | none => atEnd
      | some l => rest l) := by
  refine Runs.bind take_reads fun l => ?_
  cases l with
  | none => exact h
  | some l => exact (h' l).post fun _ _ here => ⟨trivial, here⟩

theorem setMembers_stays (start fuel : Nat) (members : List Member) :
    Stays regex (setMembers start fuel members) := by
  induction fuel generalizing members with
  | zero => exact failAt_refuses _ _
  | succ fuel ih =>
      refine taken_reads (failAt_refuses _ _) fun l => ?_
      refine Runs.ite (fun _ => (done _).anywhere) fun _ => ?_
      refine (setItem_reads l).bind fun low => ?_
      refine Stays.anywhere ((accept_stays _).bind fun dash _ => Keeps.ite (fun _ => ?_) fun _ => ih _)
      refine taken_reads (failAt_refuses _ _) fun h => ?_
      refine Runs.ite (fun _ => (done _).anywhere) fun _ => ?_
      refine (setItem_reads h).bind fun high => ?_
      split
      · exact Stays.anywhere (unless_runs (ih _))
      · exact fail_refuses _ _

theorem set_stays : Stays regex set := by
  refine position_stays.bind fun position _ => (accept_stays _).bind fun negated _ => ?_
  refine Keeps.get.bind fun r _ => (setMembers_stays _ _ _).bind fun members _ => ?_
  dsimp only
  split
  · exact done _
  · exact done _

/-! ### Repeats -/

theorem repeatCount_stays {digits : Text} (bound : IsBound regex digits) :
    Stays regex (repeatCount digits) := by
  refine Keeps.ite (fun long => Keeps.throw_bind (.inr (.numeral bound long))) fun _ => ?_
  exact Keeps.ite (fun large => Keeps.throw_bind (.inr (.count bound large))) fun _ => done _

/-- What stands behind an opening brace, up to the closing one. -/
def boundsText (low high : Text) (comma : Bool) : Text :=
  if comma then low ++ [','] ++ high else low

theorem isBound_of_part {low high : Text} {comma : Bool} (ofLow : low.all isAsciiDigit = true)
    (ofHigh : high.all isAsciiDigit = true) (same : comma = false → high = low)
    (part : '\x7b' :: boundsText low high comma ++ ['\x7d'] <:+: regex) :
    IsBound regex low ∧ IsBound regex high := by
  cases comma with
  | false =>
      have once := same rfl
      subst once
      exact ⟨⟨ofLow, high, high, ofLow, ofLow, .inl ⟨rfl, part⟩⟩,
        ⟨ofLow, high, high, ofLow, ofLow, .inl ⟨rfl, part⟩⟩⟩
  | true =>
      exact ⟨⟨ofLow, low, high, ofLow, ofHigh, .inr ⟨.inl rfl, part⟩⟩,
        ⟨ofHigh, low, high, ofLow, ofHigh, .inr ⟨.inr rfl, part⟩⟩⟩

theorem bounds_stays {start : Nat} {low high : Text} (ofLow : IsBound regex low)
    (ofHigh : IsBound regex high) :
    Stays regex (do
      let least ← if low.isEmpty then pure 0 else repeatCount low
      if high.isEmpty then return some (least, (none : Option Nat))
      let most ← repeatCount high
      if most < least then failAt start .reversedBounds
      return some (least, some most)) := by
  extract_lets withLeast
  have stays : ∀ least : Nat, Stays regex (withLeast least) := by
    intro least
    refine Keeps.ite (fun _ => done _) fun _ => ?_
    refine (repeatCount_stays ofHigh).bind fun most _ => ?_
    exact Keeps.ite (fun _ => failAt_bind _ _) fun _ => done _
  refine Keeps.ite (fun _ => (done 0).bind fun least _ => stays least) fun _ => ?_
  exact (repeatCount_stays ofLow).bind fun least _ => stays least

theorem braceBounds_reads :
    Reads regex ['\x7b'] (fun _ => Behind regex []) braceBounds := by
  refine next_reads.bind fun l => ?_
  refine Runs.ite (fun _ => Runs.pure fun _ h => h.2.forget) fun _ => ?_
  refine position_runs.bind fun start => Runs.get.bind fun saved => ?_
  refine Runs.pre (P := fun r => Behind regex [] saved ∧ Behind regex ['\x7b'] r)
    (Runs.known fun before => ?_) fun r h => ⟨h.2.2.forget, h.1.symm ▸ h.2.2⟩
  refine (takeSome_reads _ _).bind fun low => Runs.known fun ofLow => ?_
  refine (accept_reads ',').bind fun comma => ?_
  extract_lets closing
  have closed : ∀ high : Text, high.all isAsciiDigit = true → (comma = false → high = low) →
      Reads regex ('\x7b' :: boundsText low high comma) (fun _ => Behind regex [])
        (closing high) := by
    intro high ofHigh same
    refine (accept_reads '\x7d').bind fun closes => ?_
    cases closes with
    | false =>
        -- What was taken is not put back by steps: the reader returns to where it was.
        have back : Runs (Behind regex ('\x7b' :: boundsText low high comma ++ [])) (Refusal regex)
            (fun _ => Behind regex []) (modify fun r => { r with source := saved.source }) :=
          Runs.modify fun _ here => ⟨before.suffix, here.switched⟩
        exact back.bind fun _ => Runs.pure fun _ here => here
    | true =>
        intro r here
        obtain ⟨boundLow, boundHigh⟩ := isBound_of_part ofLow.2 ofHigh same here.part
        exact (bounds_stays boundLow boundHigh).anywhere r here
  cases comma with
  | true =>
      refine (takeSome_reads _ _).bind fun high => Runs.known fun ofHigh => ?_
      exact (closed high ofHigh.2 nofun).pre fun r here => by simpa [boundsText, acceptedText] using here
  | false =>
      exact (closed low ofLow.2 fun _ => rfl).pre fun r here => by
        simpa [boundsText, acceptedText] using here

theorem greed_stays : Stays regex greed := by
  refine (accept_stays _).bind fun _ _ => Keeps.ite (fun _ => done _) fun _ => ?_
  exact (accept_stays _).bind fun _ _ => Keeps.ite (fun _ => done _) fun _ => done _

theorem repeatLast_stays (start least : Nat) (most : Option Nat) (items : List Tree) :
    Stays regex (repeatLast start least most items) := by
  unfold repeatLast
  split
  · exact failAt_refuses _ _
  · exact failAt_refuses _ _
  · exact failAt_refuses _ _
  · exact greed_stays.bind fun _ _ => done _

/-- Only bounds in braces count, so it is a brace that another mark would be mistaken for. -/
theorem repeatMark_reads {c : Char} (mark : c = '*' ∨ c = '+' ∨ c = '?' ∨ c = '\x7b')
    (items : List Tree) :
    Reads regex [c] (fun _ => Behind regex []) (repeatMark c items) := by
  refine position_runs.bind fun position => ?_
  rcases mark with rfl | rfl | rfl | rfl
  · exact (repeatLast_stays _ _ _ _).anywhere
  · exact (repeatLast_stays _ _ _ _).anywhere
  · exact (repeatLast_stays _ _ _ _).anywhere
  · refine braceBounds_reads.bind fun bounds => ?_
    split
    · exact (repeatLast_stays _ _ _ _).anywhere
    · exact (done _).anywhere

/-! ### Switches -/

theorem has_insert {s : Flags} {f g : Flag} (h : (s.insert f).has g = true) :
    s.has g = true ∨ g = f := by
  rw [Flags.insert] at h
  split at h
  · exact .inl h
  · simpa [Flags.has] using h

theorem has_union {s t : Flags} {g : Flag} (h : (s.union t).has g = true) :
    s.has g = true ∨ t.has g = true := by
  obtain ⟨members⟩ := t
  induction members generalizing s with
  | nil => exact .inl h
  | cons f members ih =>
      rcases ih h with inserted | later
      · rcases has_insert inserted with before | rfl
        · exact .inl before
        · exact .inr (by simp [Flags.has])
      · refine .inr ?_
        simp only [Flags.has, List.contains_cons, Bool.or_eq_true]
        exact .inr later

/-- These letters turn these switches on. -/
structure Letters (letters : Text) (on : Flags) : Prop where
  all : ∀ c ∈ letters, (Flag.ofChar? c).isSome = true
  on : ∀ flag, on.has flag = true → ∃ c ∈ letters, Flag.ofChar? c = some flag

theorem Letters.concat {letters : Text} {on : Flags} (h : Letters letters on) {c : Char}
    {flag : Flag} (ofC : Flag.ofChar? c = some flag) :
    Letters (letters ++ [c]) (on.insert flag) := by
  constructor
  · intro d hd
    rcases List.mem_append.mp hd with before | last
    · exact h.all d before
    · rw [List.mem_singleton.mp last, ofC]
      rfl
  · intro g hg
    rcases has_insert hg with before | rfl
    · obtain ⟨d, mem, ofD⟩ := h.on g before
      exact ⟨d, List.mem_append_left _ mem, ofD⟩
    · exact ⟨c, List.mem_append_right _ List.mem_cons_self, ofC⟩

theorem Letters.nil : Letters [] .none := ⟨fun _ h => absurd h List.not_mem_nil, nofun⟩

theorem Letters.switched {letters : Text} {on : Flags} (h : Letters letters on)
    (part : '(' :: '?' :: letters ++ [')'] <:+: regex) {flag : Flag} (has : on.has flag = true) :
    Switched regex flag :=
  ⟨letters, h.all, h.on flag has, part⟩

theorem ofChar?_of_flag? {l : Lexeme} {flag : Flag} (h : l.flag? = some flag) :
    ∃ c, l = .plain c ∧ Flag.ofChar? c = some flag := by
  cases l with
  | plain c => exact ⟨c, rfl, h⟩
  | escaped c => cases h

theorem flagsOn_reads (fuel : Nat) {letters : Text} {on : Flags} {flag : Flag}
    (turned : Letters letters (on.insert flag)) :
    Reads regex ('(' :: '?' :: letters)
      (fun e r => ∃ letters, Letters letters e.1 ∧
        Behind regex ('(' :: '?' :: letters ++ [e.2]) r)
      (flagsOn fuel on flag) := by
  induction fuel generalizing letters on flag with
  | zero => exact fail_refuses _ _
  | succ fuel ih =>
      rw [flagsOn]
      refine unless_runs ?_
      refine unless_runs ?_
      refine take_reads.bind fun l => ?_
      have ends : ∀ closer, l = some (.plain closer) →
          Runs (fun r => Behind regex ('(' :: '?' :: letters ++ lexemeText l) r) (Refusal regex)
            (fun e r => ∃ letters, Letters letters e.1 ∧
              Behind regex ('(' :: '?' :: letters ++ [e.2]) r)
            (pure (on.insert flag, closer)) := by
        rintro closer rfl
        exact Runs.pure fun r here => ⟨letters, turned, here⟩
      cases l with
      | none => exact fail_refuses _ _
      | some l =>
          refine Runs.ite (fun same => ends ')' (congrArg some same)) fun _ => ?_
          refine Runs.ite (fun same => ends '-' (congrArg some same)) fun _ => ?_
          refine Runs.ite (fun same => ends ':' (congrArg some same)) fun _ => ?_
          split
          case h_1 next more =>
            obtain ⟨c, rfl, ofC⟩ := ofChar?_of_flag? more
            refine (ih (turned.concat ofC)).pre fun r here => ?_
            simpa [lexemeText, Lexeme.text] using here
          case h_2 => exact fail_refuses _ _

theorem flagsOff_stays (fuel : Nat) (off : Flags) (flag : Flag) :
    Stays regex (flagsOff fuel off flag) := by
  induction fuel generalizing off flag with
  | zero => exact fail_refuses _ _
  | succ fuel ih =>
      rw [flagsOff]
      refine unless_runs ?_
      refine take_stays.bind fun l _ => ?_
      split
      · exact fail_refuses _ _
      · refine Keeps.ite (fun _ => done _) fun _ => ?_
        split
        · exact ih _ _
        · exact fail_refuses _ _

theorem firstFlagOff_stays : Stays regex firstFlagOff := by
  refine take_stays.bind fun l _ => ?_
  split
  · exact fail_refuses _ _
  · split
    · exact Keeps.get.bind fun _ _ => flagsOff_stays _ _ _
    · exact fail_refuses _ _

/-- Switches are stored for the whole pattern only where their list ends with the parenthesis. -/
theorem switches_reads {c : Char} {flag? : Option Flag} (first : flag? = Flag.ofChar? c) :
    Reads regex ['(', '?', c] (fun _ => Behind regex []) (switches flag?) := by
  unfold switches
  extract_lets rest
  have stored : ∀ e : Flags × Char,
      (e.2 = ')' → ∀ flag, e.1.has flag = true → Switched regex flag) → Stays regex (rest e) := by
    rintro ⟨on, closer⟩ written
    refine Keeps.ite (fun global => ?_) fun _ => unless_runs ?_
    · refine Keeps.bind (Keeps.modify fun r here => ⟨here.suffix, ?_⟩) fun _ _ => done _
      intro flag has
      rcases has_union has with before | now
      · exact here.switched flag before
      · exact written global flag now
    · extract_lets withOff
      have stays : ∀ off : Flags, Stays regex (withOff off) := fun off =>
        unless_runs (unless_runs (done _))
      refine Keeps.ite (fun _ => ?_) fun _ => (done _).bind fun off _ => stays off
      exact firstFlagOff_stays.bind fun off _ => stays off
  subst first
  split
  case h_1 flag ofC =>
    have turned : Letters [c] (Flags.none.insert flag) := Letters.nil.concat ofC
    refine Runs.bind Runs.get fun r => ?_
    refine Runs.pre (P := Behind regex ['(', '?', c]) ?_ fun s h => h.1.symm ▸ h.2
    refine (flagsOn_reads _ turned).bind fun e r ⟨letters, ofLetters, here⟩ => ?_
    refine (stored e fun closes flag has => ?_).anywhere r here
    exact ofLetters.switched (closes ▸ here.part) has
  case h_2 =>
    rw [pure_bind]
    exact (stored (.none, '-') fun same => absurd same (by decide)).anywhere

end MaximalMunch.Pattern.Read
