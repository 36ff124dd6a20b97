import MaximalMunch.Proofs.Yaml.Quoted
import MaximalMunch.Yaml.Layout

/-!
The symbols of block lines, one by one. Outside of flow collections a line is blanks, perhaps a
dash, a key with its colon, and a value; each of them is taken in one step from the layout before
it, whatever follows on the next lines.
-/

namespace MaximalMunch.Yaml.Layout

open Place

/-- After so many steps from one layout the stream goes on from another. -/
def Reaches (s : Layout) (steps : Nat) (t : Layout) : Prop :=
  ∀ fuel, s.stream (fuel + steps) = t.stream fuel

theorem Reaches.refl (s : Layout) : s.Reaches 0 s := fun _ => rfl

theorem Reaches.trans {s t u : Layout} {m n : Nat} (hst : s.Reaches m t) (htu : t.Reaches n u) :
    s.Reaches (n + m) u := by
  intro fuel
  rw [← Nat.add_assoc, hst, htu]

theorem Reaches.of_takeNext {s s' t : Layout} {c : Char} (prepared : s.prepare = .ok s')
    (next : s'.place.next = some c) (taken : s'.takeNext c = .ok t) : s.Reaches 1 t := by
  intro fuel
  rw [stream]
  simp only [prepared, bind, Except.bind, next, taken]
  rfl

theorem stream_finish {s s' t : Layout} (prepared : s.prepare = .ok s')
    (next : s'.place.next = none) (finished : s'.finish = .ok t) (fuel : Nat) :
    s.stream (fuel + 1) = ⟨t.symbols, none⟩ := by
  rw [stream]
  simp only [prepared, bind, Except.bind, next, finished]
  rfl

/-- Neither blanks nor a comment nor the end of a line comes first. -/
def StartsSymbol (rest : Text) : Prop :=
  ∃ c, rest.head? = some c ∧ c ≠ ' ' ∧ c ≠ '#' ∧ isBreak c = false

theorem StartsSymbol.append {w : Text} (h : StartsSymbol w) (rest : Text) :
    StartsSymbol (w ++ rest) := by
  obtain ⟨c, first, other⟩ := h
  exact ⟨c, by rw [List.head?_append, first]; rfl, other⟩

section Blank

variable {s : Layout} {spaces rest : Text}

theorem oneLine_of_spaces (blank : ∀ d ∈ spaces, isSpace d = true) : OneLine spaces := by
  intro d hd
  have space := blank d hd
  simp only [isSpace, beq_iff_eq] at space
  subst space
  decide

theorem skipBlank_inside (h : s.place.rest = spaces ++ rest)
    (blank : ∀ d ∈ spaces, isSpace d = true) (starts : StartsSymbol rest) (fuel : Nat) :
    s.skipBlank (fuel + 1) = { s with place := s.place.behind spaces rest } := by
  obtain ⟨c, first, notSpace, notComment, inside⟩ := starts
  have stops : ∀ d ∈ rest.head?, isSpace d = false := by
    rintro d hd
    obtain rfl := Option.some.inj (first.symm.trans hd)
    simpa [isSpace] using notSpace
  have stays : (s.place.behind spaces rest).lineBreak = ([], s.place.behind spaces rest) := by
    apply lineBreak_self
    rintro d hd
    obtain rfl := Option.some.inj (first.symm.trans hd)
    exact inside
  have next : (s.place.behind spaces rest).next = some c := first
  rw [skipBlank, skipWhile_eq h (oneLine_of_spaces blank) blank stops]
  simp [next, notComment, stays]

theorem skipBlank_newline (h : s.place.rest = '\n' :: rest) (block : s.flow = 0) (fuel : Nat) :
    s.skipBlank (fuel + 1) =
      skipBlank fuel { s with place := s.place.below rest, keyAllowed := true } := by
  have next : s.place.next = some '\n' := by simp [Place.next, h]
  have stays : s.place.skipWhile isSpace = s.place := by
    apply skipWhile_self
    rw [h]
    rintro d ⟨⟩
    rfl
  rw [skipBlank, stays]
  simp [next, lineBreak_newline h, block]

theorem skipBlank_end (h : s.place.rest = []) (fuel : Nat) : s.skipBlank (fuel + 1) = s := by
  have next : s.place.next = none := by simp [Place.next, h]
  have stays : s.place.skipWhile isSpace = s.place := skipWhile_self (by simp [h])
  have line : s.place.lineBreak = ([], s.place) := lineBreak_self (by simp [h])
  rw [skipBlank, stays]
  simp [next, line]

end Blank

/-- Nothing ends before a column that is not left of the innermost block. -/
theorem closeFrom_self {s : Layout} {column : Int} (deep : s.indent ≤ column) (outer : List Int) :
    s.closeFrom column outer = s := by
  have within : ¬column < s.indent := by omega
  cases outer with
  | nil => rfl
  | cons o outer => rw [closeFrom, if_neg within]

theorem closeTo_self {s : Layout} {column : Int} (deep : s.indent ≤ column) :
    s.closeTo column = s := by
  rw [closeTo, closeFrom_self deep, ite_self]

theorem closeTo_outer {s : Layout} {column o : Int} {outer : List Int} (block : s.flow = 0)
    (around : s.outer = o :: outer) (before : column < s.indent) (deep : o ≤ column) :
    s.closeTo column = { s.push .closeBlock with indent := o, outer } := by
  rw [closeTo, if_pos block, around, closeFrom, if_pos before, closeFrom_self deep]

section Prepare

variable {p : Place} {ns : List Symbol} {indent : Int} {outer : List Int} {allowed : Bool}
  {spaces rest : Text}

theorem prepare_inside {ks : List (Nat × PendingKey)} (h : p.rest = spaces ++ rest)
    (blank : ∀ d ∈ spaces, isSpace d = true) (starts : StartsSymbol rest)
    (deep : indent ≤ (p.behind spaces rest).column)
    (live : ∀ k ∈ ks, isExpired ⟨p.behind spaces rest, ns, 0, indent, outer, allowed, ks⟩ k.2
      = false) :
    prepare ⟨p, ns, 0, indent, outer, allowed, ks⟩ =
      .ok ⟨p.behind spaces rest, ns, 0, indent, outer, allowed, ks⟩ := by
  have kept : (ks.filter fun k => !isExpired
      ⟨p.behind spaces rest, ns, 0, indent, outer, allowed, ks⟩ k.2) = ks := by
    rw [List.filter_eq_self]
    intro k hk
    rw [live k hk]
    rfl
  have none_due : (ks.any fun k => k.2.required && isExpired
      ⟨p.behind spaces rest, ns, 0, indent, outer, allowed, ks⟩ k.2) = false := by
    rw [List.any_eq_false]
    intro k hk
    rw [live k hk]
    simp
  rw [prepare, skipBlank_inside h blank starts, dropExpired, if_neg (by rw [none_due]; decide), kept]
  exact congrArg Except.ok (closeTo_self deep)

/-- A line that follows begins with blanks and may end blocks. -/
theorem prepare_newline (h : p.rest = '\n' :: (spaces ++ rest))
    (blank : ∀ d ∈ spaces, isSpace d = true) (starts : StartsSymbol rest) :
    prepare ⟨p, ns, 0, indent, outer, allowed, []⟩ =
      .ok (closeTo ⟨(p.below (spaces ++ rest)).behind spaces rest, ns, 0, indent, outer,
        true, []⟩ ((p.below (spaces ++ rest)).behind spaces rest).column) := by
  have size : p.rest.length + 1 = (spaces ++ rest).length + 1 + 1 := by rw [h]; rfl
  rw [prepare, size, skipBlank_newline h rfl, skipBlank_inside rfl blank starts]
  rfl

theorem prepare_end (h : p.rest = ['\n']) :
    prepare ⟨p, ns, 0, indent, outer, allowed, []⟩ =
      .ok (closeTo ⟨p.below [], ns, 0, indent, outer, true, []⟩ 0) := by
  have size : p.rest.length + 1 = 1 + 1 := by rw [h]; rfl
  rw [prepare, size, skipBlank_newline h rfl, skipBlank_end rfl]
  rfl

end Prepare

/-- The key that may begin at a place, with so many symbols before it. -/
def keyAt (number : Nat) (indent : Int) (p : Place) : PendingKey :=
  ⟨number, indent == p.column, p.index, p.line, p.column⟩

/-- A text that is read as a scalar wherever a key may begin and a colon comes behind it. -/
structure ReadsAs (w : Text) (symbol : Symbol) : Prop where
  starts : StartsSymbol w
  taken : ∀ (c : Char) (p : Place) (ns : List Symbol) (indent : Int) (outer : List Int)
    (rest : Text), w.head? = some c → p.rest = w ++ ':' :: rest → endsItem rest.head? = true →
      takeNext ⟨p, ns, 0, indent, outer, true, []⟩ c =
        .ok ⟨p.behind w (':' :: rest), ns ++ [symbol], 0, indent, outer, false,
          [(0, keyAt ns.length indent p)]⟩

theorem not_marker {p : Place} {c d : Char} {rest : Text} (h : p.rest = c :: rest) (other : c ≠ d) :
    p.isMarker d = false := by
  simp [isMarker, h, other]

/-- A character with no meaning of its own in a plain scalar, wherever it stands. -/
def Ordinary (c : Char) : Prop :=
  isGap c = false ∧ isBreak c = false ∧ isIndicator c = false ∧ c ≠ '.'

instance : DecidablePred Ordinary := fun c =>
  inferInstanceAs (Decidable (isGap c = false ∧ isBreak c = false ∧ isIndicator c = false ∧ c ≠ '.'))

namespace Ordinary

variable {c d : Char}

theorem ne (h : Ordinary c) (special : ¬Ordinary d) : c ≠ d := fun same => special (same ▸ h)

theorem startsPlain (h : Ordinary c) (s : Layout) : s.startsPlain c = true := by
  simp [Layout.startsPlain, h.1, h.2.1, h.2.2.1]

theorem startsSymbol (h : Ordinary c) (rest : Text) : StartsSymbol (c :: rest) :=
  ⟨c, rfl, h.ne (by decide), h.ne (by decide), h.2.1⟩

theorem takeNext (h : Ordinary c) {s : Layout} {rest : Text} (first : s.place.rest = c :: rest) :
    s.takeNext c = s.takePlainScalar := by
  have noDash := not_marker first (h.ne (d := '-') (by decide))
  have noDot := not_marker first (h.ne (d := '.') (by decide))
  have other : ∀ d, ¬Ordinary d → c ≠ d := fun d => h.ne
  simp [Layout.takeNext, noDash, noDot, h.startsPlain, other '%' (by decide), other '[' (by decide),
    other '\x7b' (by decide), other ']' (by decide), other '\x7d' (by decide),
    other ',' (by decide), other '-' (by decide), other '?' (by decide), other ':' (by decide),
    other '*' (by decide), other '&' (by decide), other '!' (by decide), other '|' (by decide),
    other '>' (by decide), other '\x27' (by decide), other '"' (by decide)]

end Ordinary

theorem plainRun_eq {w : Text} (ordinary : ∀ c ∈ w, Ordinary c) {rest : Text}
    (ends : endsItem rest.head? = true) : plainRun false (w ++ ':' :: rest) = w := by
  induction w with
  | nil => simp [plainRun, endsPlain, ends]
  | cons c w ih =>
      have first := ordinary c List.mem_cons_self
      have inside : endsPlain false c (w ++ ':' :: rest).head? = false := by
        simp [endsPlain, first.1, first.2.1, first.ne (d := ':') (by decide)]
      rw [List.cons_append, plainRun, inside, ih fun d hd => ordinary d (List.mem_cons_of_mem _ hd)]
      rfl

theorem plainScalar_eq {p : Place} {w rest : Text} (some_char : w ≠ [])
    (ordinary : ∀ c ∈ w, Ordinary c) (h : p.rest = w ++ ':' :: rest)
    (ends : endsItem rest.head? = true) (outer : Int) :
    plainScalar false outer p = ⟨w, false, p.behind w (':' :: rest)⟩ := by
  have passed : p.advanceBy w.length = p.behind w (':' :: rest) :=
    advanceBy_eq h fun c hc => (ordinary c hc).2.1
  have notComment : p.next ≠ some '#' := by
    obtain ⟨c, w, rfl⟩ := List.exists_cons_of_ne_nil some_char
    have first := (ordinary c List.mem_cons_self).ne (d := '#') (by decide)
    simpa [Place.next, h] using first
  have noSpaces : plainSpaces (p.behind w (':' :: rest)) = ⟨[], false, p.behind w (':' :: rest)⟩ :=
    rfl
  rw [plainScalar, plainFrom]
  simp [notComment, h, plainRun_eq ordinary ends, some_char, passed, noSpaces]

/-- Words without special characters are plain scalars. -/
theorem ordinary_of_all {w : Text} (h : w.all (fun c => decide (Ordinary c)) = true) :
    ∀ c ∈ w, Ordinary c := by
  simpa using h

theorem readsAs_plain {w : Text} (some_char : w ≠ []) (ordinary : ∀ c ∈ w, Ordinary c) :
    ReadsAs w (.scalar w true) := by
  obtain ⟨d, w, rfl⟩ := List.exists_cons_of_ne_nil some_char
  have first := ordinary d List.mem_cons_self
  constructor
  case starts => exact first.startsSymbol w
  case taken =>
    rintro c p ns indent outer rest ⟨⟩ h ends
    rw [first.takeNext h]
    simp [takePlainScalar, awaitKey, giveUpKey, plainScalar_eq some_char ordinary h ends indent,
      Except.map, bind, Except.bind, push, keyAt, pure, Except.pure, column]

/-- A quoted text is taken as an item, after which no key may begin. -/
theorem takeNext_quoted {s s' : Layout} {t rest : Text} (h : s.place.rest = singleQuoted t ++ rest)
    (line : OneLine t) (ends : rest.head? ≠ some '\x27') (awaited : s.awaitKey = .ok s')
    (same : s'.place = s.place) :
    s.takeNext '\x27' =
      .ok { s'.push (.scalar t false) with
        place := s.place.behind (singleQuoted t) rest, keyAllowed := false } := by
  have opened : s.place.rest = '\x27' :: (doubled t ++ '\x27' :: rest) := by
    simpa [singleQuoted] using h
  have noDash := not_marker (d := '-') opened (by decide)
  have noDot := not_marker (d := '.') opened (by decide)
  simp [takeNext, noDash, noDot, takeItem, awaited, same, quotedScalar_eq h line ends, Except.map,
    bind, Except.bind, pure, Except.pure]

theorem readsAs_quoted {t : Text} (line : OneLine t) :
    ReadsAs (singleQuoted t) (.scalar t false) := by
  constructor
  case starts => exact ⟨'\x27', rfl, by decide, by decide, by decide⟩
  case taken =>
    rintro c p ns indent outer rest ⟨⟩ h ends
    have awaited : awaitKey ⟨p, ns, 0, indent, outer, true, []⟩ =
        .ok ⟨p, ns, 0, indent, outer, true, [(0, keyAt ns.length indent p)]⟩ := rfl
    exact takeNext_quoted h line (by simp) awaited rfl

/-- Where a line is deeper than the block around it, a block begins there. -/
def openedBy (symbol : Symbol) (indent column : Int) : List Symbol :=
  if indent < column then [symbol] else []

/-- The columns of the blocks around that block, or around the one that goes on. -/
def around (indent column : Int) (outer : List Int) : List Int :=
  if indent < column then indent :: outer else outer

theorem openedBy_deeper {indent column : Int} (symbol : Symbol) (h : indent < column) :
    openedBy symbol indent column = [symbol] := if_pos h

theorem around_deeper {indent column : Int} {outer : List Int} (h : indent < column) :
    around indent column outer = indent :: outer := if_pos h

@[simp] theorem openedBy_same (symbol : Symbol) (column : Int) : openedBy symbol column column = [] :=
  if_neg (Int.lt_irrefl column)

@[simp] theorem around_same (column : Int) (outer : List Int) : around column column outer = outer :=
  if_neg (Int.lt_irrefl column)

section Entry

variable {p : Place} {ns : List Symbol} {indent : Int} {outer : List Int} {w rest : Text}
  {symbol : Symbol}

/-- A colon takes the pending key, and begins a mapping if that is deeper. -/
theorem takeColon_eq (deep : indent ≤ p.column) (ends : endsItem rest.head? = true) :
    takeNext ⟨p.behind w (':' :: rest), ns ++ [symbol], 0, indent, outer, false,
        [(0, keyAt ns.length indent p)]⟩ ':' =
      .ok ⟨p.behind (w ++ [':']) rest,
        ns ++ openedBy .openBlockMapping indent p.column ++ [.key, symbol, .value], 0,
        p.column, around indent p.column outer, false, []⟩ := by
  have opened : (p.behind w (':' :: rest)).rest = ':' :: rest := rfl
  have noDash := not_marker (d := '-') opened (by decide)
  have noDot := not_marker (d := '.') opened (by decide)
  have blank : endsItem ((p.behind w (':' :: rest)).ahead 1) = true := by
    simpa [ahead, opened, List.head?_eq_getElem?] using ends
  have passed : (p.behind w (':' :: rest)).advanceBy 1 = p.behind (w ++ [':']) rest := by
    rw [← behind_behind]
    exact advanceBy_eq (t := [':']) rfl (by decide)
  by_cases deeper : indent < p.column
  · simp [takeNext, noDash, noDot, blank, takeColon, indentTo, keyAt, deeper, insertAt, take, push,
      passed, openedBy, around]
  · have same : indent = p.column := by omega
    simp [takeNext, noDash, noDot, blank, takeColon, indentTo, keyAt, insertAt, take, push, passed,
      openedBy, around, same]

/-- A key with its colon is taken in two steps. -/
theorem key_reaches {s : Layout} (key : ReadsAs w symbol)
    (prepared : s.prepare = .ok ⟨p, ns, 0, indent, outer, true, []⟩) (h : p.rest = w ++ ':' :: rest)
    (deep : indent ≤ p.column) (ends : endsItem rest.head? = true) (short : w.length ≤ maxKeySize) :
    s.Reaches 2 ⟨p.behind (w ++ [':']) rest,
      ns ++ openedBy .openBlockMapping indent p.column ++ [.key, symbol, .value], 0, p.column,
      around indent p.column outer, false, []⟩ := by
  obtain ⟨c, next, -⟩ := key.starts
  have taken := key.taken c p ns indent outer rest next h ends
  have atKey : p.next = some c := by rw [Place.next, h, List.head?_append, next]; rfl
  have first := Reaches.of_takeNext prepared atKey taken
  refine first.trans (Reaches.of_takeNext (c := ':') ?_ rfl (takeColon_eq deep ends))
  have nothing : (p.behind w (':' :: rest)).rest = [] ++ ':' :: rest := rfl
  refine prepare_inside nothing (by simp) ⟨':', rfl, by decide⟩ ?_ ?_
  · simp only [behind]
    omega
  · rintro k hk
    obtain rfl := List.mem_singleton.mp hk
    simp [isExpired, keyAt, behind, short]

/-- The value behind a key and a blank is taken in one step. -/
theorem value_reaches {t : Text} (h : p.rest = ' ' :: (singleQuoted t ++ rest)) (line : OneLine t)
    (deep : indent ≤ p.column) (ends : rest.head? ≠ some '\x27') :
    Reaches ⟨p, ns, 0, indent, outer, false, []⟩ 1
      ⟨p.behind (' ' :: singleQuoted t) rest, ns ++ [.scalar t false], 0, indent, outer, false,
        []⟩ := by
  have opened : (p.behind [' '] (singleQuoted t ++ rest)).rest = singleQuoted t ++ rest := rfl
  have prepared : prepare ⟨p, ns, 0, indent, outer, false, []⟩ =
      .ok ⟨p.behind [' '] (singleQuoted t ++ rest), ns, 0, indent, outer, false, []⟩ :=
    prepare_inside h (List.forall_mem_singleton.mpr rfl) ⟨'\x27', rfl, by decide⟩
      (by simp [behind]; omega) (by simp)
  have taken := takeNext_quoted (s := ⟨p.behind [' '] (singleQuoted t ++ rest), ns, 0, indent,
    outer, false, []⟩) opened line ends rfl rfl
  have passed := behind_behind p [' '] (singleQuoted t) rest (singleQuoted t ++ rest)
  rw [List.singleton_append] at passed
  rw [← passed]
  exact Reaches.of_takeNext prepared rfl taken

/-- A line with a key and a value. -/
theorem entry_reaches {s : Layout} {t : Text} (key : ReadsAs w symbol)
    (prepared : s.prepare = .ok ⟨p, ns, 0, indent, outer, true, []⟩)
    (h : p.rest = w ++ ':' :: ' ' :: (singleQuoted t ++ '\n' :: rest)) (deep : indent ≤ p.column)
    (short : w.length ≤ maxKeySize) (line : OneLine t) :
    ∃ q, q.rest = '\n' :: rest ∧ s.Reaches 3 ⟨q,
      ns ++ openedBy .openBlockMapping indent p.column ++ [.key, symbol, .value, .scalar t false],
      0, p.column, around indent p.column outer, false, []⟩ := by
  have known := key_reaches key prepared h deep rfl short
  have both := known.trans (value_reaches rfl line (by simp only [behind]; omega) (by simp))
  rw [List.append_assoc] at both
  exact ⟨_, rfl, both⟩

/-- A dash is taken in one step, and begins a sequence if that is deeper. -/
theorem dash_reaches {s : Layout} (prepared : s.prepare = .ok ⟨p, ns, 0, indent, outer, true, []⟩)
    (h : p.rest = '-' :: ' ' :: rest) (deep : indent ≤ p.column) :
    s.Reaches 1 ⟨p.behind ['-'] (' ' :: rest),
      ns ++ openedBy .openBlockSequence indent p.column ++ [.dash], 0, p.column,
      around indent p.column outer, true, []⟩ := by
  refine Reaches.of_takeNext (c := '-') prepared (by simp [Place.next, h]) ?_
  have noDash : p.isMarker '-' = false := by simp [isMarker, h]
  have noDot := not_marker (d := '.') h (by decide)
  have blank : endsItem (p.ahead 1) = true := by
    simp [ahead, h]
    rfl
  have passed : p.advanceBy 1 = p.behind ['-'] (' ' :: rest) :=
    advanceBy_eq (t := ['-']) h (by decide)
  by_cases deeper : indent < p.column
  · simp [takeNext, noDash, noDot, blank, takeDash, beginBlock, giveUpKey, indentTo, deeper, take,
      push, passed, openedBy, around, column, bind, Except.bind, pure, Except.pure]
  · have same : indent = p.column := by omega
    simp [takeNext, noDash, noDot, blank, takeDash, beginBlock, giveUpKey, indentTo, take,
      push, passed, openedBy, around, column, same, bind, Except.bind, pure, Except.pure]

/-- A line with a dash, behind which a mapping begins with a key and a value. -/
theorem dashed_reaches {s : Layout} {t : Text} (key : ReadsAs w symbol)
    (prepared : s.prepare = .ok ⟨p, ns, 0, indent, outer, true, []⟩)
    (h : p.rest = '-' :: ' ' :: (w ++ ':' :: ' ' :: (singleQuoted t ++ '\n' :: rest)))
    (deep : indent ≤ p.column) (short : w.length ≤ maxKeySize) (line : OneLine t) :
    ∃ q, q.rest = '\n' :: rest ∧ s.Reaches 4 ⟨q,
      ns ++ openedBy .openBlockSequence indent p.column ++
        [.dash, .openBlockMapping, .key, symbol, .value, .scalar t false],
      0, p.column + 2, p.column :: around indent p.column outer, false, []⟩ := by
  have dash := dash_reaches prepared h deep
  generalize behind : w ++ ':' :: ' ' :: (singleQuoted t ++ '\n' :: rest) = more at dash
  have column : ((p.behind ['-'] (' ' :: more)).behind [' '] more).column = p.column + 2 := rfl
  have blank : prepare ⟨p.behind ['-'] (' ' :: more),
      ns ++ openedBy .openBlockSequence indent p.column ++ [.dash], 0, p.column,
      around indent p.column outer, true, []⟩ = .ok ⟨(p.behind ['-'] (' ' :: more)).behind [' '] more,
      _, 0, p.column, _, true, []⟩ :=
    prepare_inside rfl (List.forall_mem_singleton.mpr rfl) (behind ▸ key.starts.append _)
      (by rw [column]; omega) (by simp)
  obtain ⟨q, left, entry⟩ := entry_reaches key blank behind.symm (by rw [column]; omega) short line
  have deeper : (p.column : Int) < (p.column + 2 : Nat) := by omega
  rw [column, openedBy_deeper _ deeper, around_deeper deeper] at entry
  refine ⟨q, left, ?_⟩
  have both := dash.trans entry
  simpa using both

end Entry

end MaximalMunch.Yaml.Layout
