import Mathlib.Algebra.Order.Ring.Int
import MaximalMunch.Grammar.OfData
import MaximalMunch.Proofs.Yaml.Lines

/-!
The two layouts of a grammar file. Names and expressions stand between single quotes, in a list of
entries with two keys each or as the keys and values of one mapping. Each line gives the same
symbols whatever stands on the other lines, so the symbols of a file are known for all pairs.
-/

namespace MaximalMunch.Grammar

open Yaml Yaml.Layout Yaml.Place

def unlines (lines : List Text) : Text := lines.flatMap (· ++ ['\n'])

def indented (n : Nat) (line : Text) : Text := List.replicate n ' ' ++ line

def keyed (key value : Text) : Text := key ++ ':' :: ' ' :: value

def headLine : Text := tokenTypesKey ++ [':']

def itemLines (pair : Text × Text) : List Text :=
  [indented 2 ('-' :: ' ' :: keyed nameKey (singleQuoted pair.1)),
    indented 4 (keyed regexKey (singleQuoted pair.2))]

def entryLine (pair : Text × Text) : Text :=
  indented 2 (keyed (singleQuoted pair.1) (singleQuoted pair.2))

/-- The token types as a list of mappings. -/
def listLayout (pairs : List (Text × Text)) : Text :=
  unlines (headLine :: pairs.flatMap itemLines)

/-- The token types as one mapping. -/
def mappingLayout (pairs : List (Text × Text)) : Text :=
  unlines (headLine :: pairs.map entryLine)

/-- A pair that can be written in both layouts: each text on one line and of characters that a file
may have, and the name short enough to be a key between its quotes, all of which may be doubled. -/
structure Writable (pair : Text × Text) : Prop where
  nameLine : OneLine pair.1
  regexLine : OneLine pair.2
  nameAllowed : ∀ c ∈ pair.1, isAllowed c = true
  regexAllowed : ∀ c ∈ pair.2, isAllowed c = true
  short : 2 * pair.1.length + 2 ≤ maxKeySize

def headSymbols : List Symbol := [.openBlockMapping, .key, .scalar tokenTypesKey true, .value]

def itemSymbols (pair : Text × Text) : List Symbol :=
  [.dash, .openBlockMapping, .key, .scalar nameKey true, .value, .scalar pair.1 false,
    .key, .scalar regexKey true, .value, .scalar pair.2 false]

def entrySymbols (pair : Text × Text) : List Symbol :=
  [.key, .scalar pair.1 false, .value, .scalar pair.2 false]

theorem unlines_cons (line : Text) (lines : List Text) :
    unlines (line :: lines) = line ++ '\n' :: unlines lines := by
  simp [unlines]

theorem unlines_keyed (n : Nat) (key value : Text) (lines : List Text) :
    unlines (indented n (keyed key value) :: lines) =
      List.replicate n ' ' ++ (key ++ ':' :: ' ' :: (value ++ '\n' :: unlines lines)) := by
  simp [unlines_cons, indented, keyed]

theorem isSpace_of_mem_replicate {n : Nat} : ∀ c ∈ List.replicate n ' ', isSpace c = true := by
  intro c hc
  rw [List.eq_of_mem_replicate hc]
  rfl

/-- The column behind blanks at the beginning of a line. -/
theorem column_indented (p : Place) (n : Nat) (t rest : Text) :
    ((p.below t).behind (List.replicate n ' ') rest).column = n := by
  simp [below, behind, List.countP_replicate]

theorem readsAs_tokenTypesKey : ReadsAs tokenTypesKey (.scalar tokenTypesKey true) :=
  readsAs_plain (by decide) (ordinary_of_all (by decide))

theorem readsAs_nameKey : ReadsAs nameKey (.scalar nameKey true) :=
  readsAs_plain (by decide) (ordinary_of_all (by decide))

theorem readsAs_regexKey : ReadsAs regexKey (.scalar regexKey true) :=
  readsAs_plain (by decide) (ordinary_of_all (by decide))

/-- The first line begins a mapping, in which the token types are the value. -/
theorem head_reaches (lines : List Text) :
    ∃ q, q.rest = '\n' :: unlines lines ∧
      (Layout.start (unlines (headLine :: lines))).Reaches 2
        ⟨q, headSymbols, 0, 0, [-1], false, []⟩ := by
  have text : unlines (headLine :: lines) = tokenTypesKey ++ ':' :: '\n' :: unlines lines := by
    simp [unlines_cons, headLine]
  have whole : (Place.start (unlines (headLine :: lines))).rest =
      [] ++ (tokenTypesKey ++ ':' :: '\n' :: unlines lines) := text
  have noMark : (Place.start (unlines (headLine :: lines))).next ≠ some '\uFEFF' := by
    have first : tokenTypesKey.head? = some 't' := rfl
    rw [Place.next, whole, List.nil_append, List.head?_append, first]
    exact fun same => absurd (Option.some.inj same) (by decide)
  have prepared : prepare ⟨Place.start (unlines (headLine :: lines)), [], 0, -1, [], true, []⟩ = _ :=
    prepare_inside whole (by simp) (readsAs_tokenTypesKey.starts.append _) (by simp) (by simp)
  rw [behind_nil text] at prepared
  rw [Layout.start, if_neg noMark]
  exact ⟨_, rfl, key_reaches readsAs_tokenTypesKey prepared text (by simp [Place.start]) rfl (by decide)⟩

section Line

variable {p : Place} {ns : List Symbol} {indent : Int} {outer : List Int} {allowed : Bool}
  {lines : List Text} {pair : Text × Text}

/-- A line with a key and a value, in the block around it or in one of its own. -/
theorem keyed_reaches {n : Nat} {w t : Text} {symbol : Symbol} (ns : List Symbol)
    (outer : List Int) (h : p.rest = '\n' :: unlines (indented n (keyed w (singleQuoted t)) :: lines))
    (key : ReadsAs w symbol) (deep : indent ≤ n) (short : w.length ≤ maxKeySize)
    (line : OneLine t) :
    ∃ q, q.rest = '\n' :: unlines lines ∧ Reaches ⟨p, ns, 0, indent, outer, allowed, []⟩ 3 ⟨q,
      ns ++ openedBy .openBlockMapping indent n ++ [.key, symbol, .value, .scalar t false], 0, n,
      around indent n outer, false, []⟩ := by
  rw [unlines_keyed] at h
  have prepared : prepare ⟨p, ns, 0, indent, outer, allowed, []⟩ = _ :=
    prepare_newline h isSpace_of_mem_replicate (key.starts.append _)
  rw [column_indented, closeTo_self deep] at prepared
  have entry := entry_reaches key prepared rfl
  simp only [column_indented] at entry
  exact entry deep short line

/-- An item is a dash with a mapping behind it, at the column of its keys. -/
theorem item_reaches {s : Layout} (ok : Writable pair)
    (prepared : s.prepare = .ok ⟨p, ns, 0, indent, outer, true, []⟩)
    (h : p.rest = '-' :: ' ' :: (nameKey ++ ':' :: ' ' :: (singleQuoted pair.1 ++ '\n' ::
      unlines (indented 4 (keyed regexKey (singleQuoted pair.2)) :: lines))))
    (second : p.column = 2) (deep : indent ≤ 2) :
    ∃ q, q.rest = '\n' :: unlines lines ∧ s.Reaches 7
      ⟨q, ns ++ openedBy .openBlockSequence indent 2 ++ itemSymbols pair, 0, 4,
        2 :: around indent 2 outer, false, []⟩ := by
  obtain ⟨q, left, first⟩ := dashed_reaches readsAs_nameKey prepared h (by omega) (by decide)
    ok.nameLine
  rw [second] at first
  obtain ⟨q', left', further⟩ := keyed_reaches (n := 4) _ _ left readsAs_regexKey
    (le_refl (4 : Int)) (by decide) ok.regexLine
  refine ⟨q', left', ?_⟩
  have both := Reaches.trans first further
  simpa [itemSymbols] using both

/-- The blanks before an item are skipped, which ends the blocks that are deeper. -/
theorem prepare_item (ns : List Symbol) (indent : Int) (outer : List Int)
    (h : p.rest = '\n' :: unlines (itemLines pair ++ lines)) :
    ∃ q, q.column = 2 ∧ q.rest = '-' :: ' ' :: (nameKey ++ ':' :: ' ' :: (singleQuoted pair.1 ++
        '\n' :: unlines (indented 4 (keyed regexKey (singleQuoted pair.2)) :: lines))) ∧
      prepare ⟨p, ns, 0, indent, outer, false, []⟩ =
        .ok (closeTo ⟨q, ns, 0, indent, outer, true, []⟩ 2) := by
  have text : unlines (itemLines pair ++ lines) = List.replicate 2 ' ' ++ '-' :: ' ' :: (nameKey ++
      ':' :: ' ' :: (singleQuoted pair.1 ++ '\n' ::
        unlines (indented 4 (keyed regexKey (singleQuoted pair.2)) :: lines))) := by
    simp [itemLines, unlines_cons, indented, keyed]
  rw [text] at h
  have prepared : prepare ⟨p, ns, 0, indent, outer, false, []⟩ = _ :=
    prepare_newline h isSpace_of_mem_replicate ⟨'-', rfl, by decide⟩
  rw [column_indented] at prepared
  exact ⟨_, column_indented _ _ _ _, rfl, prepared⟩

theorem firstItem_reaches (ns : List Symbol) (ok : Writable pair)
    (h : p.rest = '\n' :: unlines (itemLines pair ++ lines)) :
    ∃ q, q.rest = '\n' :: unlines lines ∧ Reaches ⟨p, ns, 0, 0, [-1], false, []⟩ 7
      ⟨q, ns ++ .openBlockSequence :: itemSymbols pair, 0, 4, [2, 0, -1], false, []⟩ := by
  obtain ⟨q, second, left, prepared⟩ := prepare_item ns 0 [-1] h
  have deeper : (0 : Int) < 2 := by decide
  rw [closeTo_self deeper.le] at prepared
  obtain ⟨q', left', item⟩ := item_reaches ok prepared left second deeper.le
  rw [openedBy_deeper _ deeper, around_deeper deeper, List.append_assoc] at item
  exact ⟨q', left', item⟩

theorem nextItem_reaches (ns : List Symbol) (ok : Writable pair)
    (h : p.rest = '\n' :: unlines (itemLines pair ++ lines)) :
    ∃ q, q.rest = '\n' :: unlines lines ∧ Reaches ⟨p, ns, 0, 4, [2, 0, -1], false, []⟩ 7
      ⟨q, ns ++ .closeBlock :: itemSymbols pair, 0, 4, [2, 0, -1], false, []⟩ := by
  obtain ⟨q, second, left, prepared⟩ := prepare_item ns 4 [2, 0, -1] h
  rw [closeTo_outer rfl rfl (by decide : (2 : Int) < 4) (le_refl (2 : Int))] at prepared
  obtain ⟨q', left', item⟩ := item_reaches ok prepared left second (le_refl (2 : Int))
  rw [openedBy_same, around_same, List.append_nil] at item
  exact ⟨q', left', by simpa [push] using item⟩

theorem items_reach {pairs : List (Text × Text)} (ok : ∀ pair ∈ pairs, Writable pair)
    (h : p.rest = '\n' :: unlines (pairs.flatMap itemLines)) :
    ∃ q, q.rest = ['\n'] ∧ Reaches ⟨p, ns, 0, 4, [2, 0, -1], false, []⟩ (7 * pairs.length)
      ⟨q, ns ++ pairs.flatMap (.closeBlock :: itemSymbols ·), 0, 4, [2, 0, -1], false, []⟩ := by
  -- On the pairs: an item leaves the blocks open that it found, the mapping of its keys among them.
  induction pairs generalizing p ns with
  | nil =>
      rw [List.flatMap_nil, List.append_nil]
      exact ⟨p, h, Reaches.refl _⟩
  | cons pair pairs ih =>
      obtain ⟨q, left, item⟩ := nextItem_reaches ns (ok pair List.mem_cons_self) h
      obtain ⟨q', left', items⟩ := ih (fun other mem => ok other (List.mem_cons_of_mem _ mem)) left
      have both := item.trans items
      rw [List.append_assoc] at both
      exact ⟨q', left', both⟩

/-- An entry of the mapping, which begins with the first one. -/
theorem entryLine_reaches (ns : List Symbol) (outer : List Int) (ok : Writable pair)
    (h : p.rest = '\n' :: unlines (entryLine pair :: lines)) (deep : indent ≤ 2) :
    ∃ q, q.rest = '\n' :: unlines lines ∧ Reaches ⟨p, ns, 0, indent, outer, false, []⟩ 3
      ⟨q, ns ++ openedBy .openBlockMapping indent 2 ++ entrySymbols pair, 0, 2,
        around indent 2 outer, false, []⟩ :=
  keyed_reaches ns outer h (readsAs_quoted ok.nameLine) deep
    ((singleQuoted_length_le pair.1).trans ok.short) ok.regexLine

theorem entries_reach {pairs : List (Text × Text)} (ok : ∀ pair ∈ pairs, Writable pair)
    (h : p.rest = '\n' :: unlines (pairs.map entryLine)) :
    ∃ q, q.rest = ['\n'] ∧ Reaches ⟨p, ns, 0, 2, [0, -1], false, []⟩ (3 * pairs.length)
      ⟨q, ns ++ pairs.flatMap entrySymbols, 0, 2, [0, -1], false, []⟩ := by
  induction pairs generalizing p ns with
  | nil =>
      rw [List.flatMap_nil, List.append_nil]
      exact ⟨p, h, Reaches.refl _⟩
  | cons pair pairs ih =>
      obtain ⟨q, left, entry⟩ :=
        entryLine_reaches ns [0, -1] (ok pair List.mem_cons_self) h (le_refl (2 : Int))
      obtain ⟨q', left', entries⟩ := ih (fun other mem => ok other (List.mem_cons_of_mem _ mem)) left
      rw [openedBy_same, around_same, List.append_nil] at entry
      have both := entry.trans entries
      rw [List.append_assoc] at both
      exact ⟨q', left', both⟩

end Line

/-- A text is as long as the parts for each pair are, together. -/
theorem length_unlines_le {parts : Text × Text → List Text} {n : Nat}
    (long : ∀ pair, n ≤ (unlines (parts pair)).length) (pairs : List (Text × Text)) :
    n * pairs.length ≤ (unlines (pairs.flatMap parts)).length := by
  induction pairs with
  | nil => exact Nat.le_refl _
  | cons pair pairs ih =>
      have first := long pair
      rw [unlines, List.flatMap_cons, List.flatMap_append, List.length_append, List.length_cons,
        Nat.mul_succ]
      rw [unlines] at ih first
      omega

theorem length_itemLines (pair : Text × Text) : 7 ≤ (unlines (itemLines pair)).length := by
  simp only [itemLines, indented, keyed, unlines_cons, List.length_append, List.length_cons,
    List.length_replicate]
  omega

theorem length_entryLine (pair : Text × Text) : 3 ≤ (unlines [entryLine pair]).length := by
  simp only [entryLine, indented, keyed, unlines_cons, List.length_append, List.length_cons,
    List.length_replicate]
  omega

/-- Steps that take all the lines, and the end, give the symbols of the whole text. -/
theorem ofText_of_reaches {lines : List Text} {q : Place} {ns ms : List Symbol} {indent : Int}
    {outer : List Int} {steps : Nat}
    (whole : (Layout.start (unlines (headLine :: lines))).Reaches (steps + 2)
      ⟨q, ns, 0, indent, outer, false, []⟩)
    (finished : ∀ fuel, Layout.stream (fuel + 1) ⟨q, ns, 0, indent, outer, false, []⟩ = ⟨ms, none⟩)
    (enough : steps ≤ (unlines lines).length) :
    Stream.ofText (unlines (headLine :: lines)) = ⟨ms, none⟩ := by
  obtain ⟨fuel, size⟩ : ∃ fuel, (unlines (headLine :: lines)).length + 2 = fuel + 1 + (steps + 2) := by
    refine ⟨(unlines (headLine :: lines)).length - (steps + 1), ?_⟩
    rw [unlines_cons, List.length_append, List.length_cons]
    omega
  rw [Stream.ofText, size, whole, finished]

/-- The blocks that are open at the end are ended there. -/
theorem list_finish {p : Place} (ns : List Symbol) (h : p.rest = ['\n']) (fuel : Nat) :
    Layout.stream (fuel + 1) ⟨p, ns, 0, 4, [2, 0, -1], false, []⟩ =
      ⟨ns ++ [.closeBlock, .closeBlock, .closeBlock, .textEnd], none⟩ := by
  rw [stream_finish (prepare_end h) rfl rfl]
  simp [closeTo, closeFrom, push]

theorem mapping_finish {p : Place} (ns : List Symbol) (h : p.rest = ['\n']) (fuel : Nat) :
    Layout.stream (fuel + 1) ⟨p, ns, 0, 2, [0, -1], false, []⟩ =
      ⟨ns ++ [.closeBlock, .closeBlock, .textEnd], none⟩ := by
  rw [stream_finish (prepare_end h) rfl rfl]
  simp [closeTo, closeFrom, push]

/-- Between two items a mapping ends; so one does behind each item. -/
theorem closed_items (pair : Text × Text) (pairs : List (Text × Text)) :
    itemSymbols pair ++ pairs.flatMap (.closeBlock :: itemSymbols ·) ++ [.closeBlock] =
      (pair :: pairs).flatMap (itemSymbols · ++ [.closeBlock]) := by
  induction pairs generalizing pair with
  | nil => simp
  | cons next pairs ih =>
      have rest := ih next
      have split : (pair :: next :: pairs).flatMap (itemSymbols · ++ [.closeBlock]) =
          itemSymbols pair ++ [.closeBlock] ++
            (next :: pairs).flatMap (itemSymbols · ++ [.closeBlock]) := rfl
      rw [split, ← rest]
      simp

theorem listLayout_symbols {pairs : List (Text × Text)} (ok : ∀ pair ∈ pairs, Writable pair)
    (some_pair : pairs ≠ []) :
    Stream.ofText (listLayout pairs) =
      ⟨headSymbols ++ .openBlockSequence :: pairs.flatMap (itemSymbols · ++ [.closeBlock]) ++
        [.closeBlock, .closeBlock, .textEnd], none⟩ := by
  obtain ⟨pair, pairs, rfl⟩ := List.exists_cons_of_ne_nil some_pair
  obtain ⟨p, left, head⟩ := head_reaches ((pair :: pairs).flatMap itemLines)
  obtain ⟨p', left', first⟩ := firstItem_reaches headSymbols (ok pair List.mem_cons_self) left
  have others := fun other mem => ok other (List.mem_cons_of_mem _ mem)
  obtain ⟨p'', left'', items⟩ := items_reach others left'
  have enough := length_unlines_le length_itemLines (pair :: pairs)
  have taken := head.trans (first.trans items)
  rw [listLayout, ofText_of_reaches taken (list_finish _ left'') enough, ← closed_items]
  simp

theorem mappingLayout_symbols {pairs : List (Text × Text)} (ok : ∀ pair ∈ pairs, Writable pair)
    (some_pair : pairs ≠ []) :
    Stream.ofText (mappingLayout pairs) =
      ⟨headSymbols ++ .openBlockMapping :: pairs.flatMap entrySymbols ++
        [.closeBlock, .closeBlock, .textEnd], none⟩ := by
  obtain ⟨pair, pairs, rfl⟩ := List.exists_cons_of_ne_nil some_pair
  obtain ⟨p, left, head⟩ := head_reaches ((pair :: pairs).map entryLine)
  have deeper : (0 : Int) < 2 := by decide
  obtain ⟨p', left', first⟩ :=
    entryLine_reaches headSymbols [-1] (ok pair List.mem_cons_self) left deeper.le
  rw [openedBy_deeper _ deeper, around_deeper deeper] at first
  have others := fun other mem => ok other (List.mem_cons_of_mem _ mem)
  obtain ⟨p'', left'', entries⟩ := entries_reach others left'
  have enough := length_unlines_le length_entryLine (pair :: pairs)
  rw [← List.map_eq_flatMap] at enough
  have taken := head.trans (first.trans entries)
  rw [mappingLayout, ofText_of_reaches taken (mapping_finish _ left'') enough]
  simp

end MaximalMunch.Grammar
