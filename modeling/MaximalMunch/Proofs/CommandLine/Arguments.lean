import MaximalMunch.CommandLine

/-!
The usual command line: a path, a text behind it or none, and at any place among them an option for
the trimming or none. It is read as it is meant, whatever the path and the text are, as long as
neither looks like an option.
-/

namespace MaximalMunch.CommandLine

/-- The word is taken neither for an option nor for the marker. -/
def IsArgument (t : Text) : Prop := t ≠ ['-', '-'] ∧ Word.read? t = some (.argument t)

/-- So is any word that does not begin with a dash. -/
theorem isArgument_of_head {t : Text} (h : t.head? ≠ some '-') : IsArgument t := by
  constructor
  · rintro rfl
    exact h rfl
  · rw [Word.read?]
    rintro c rest rfl
    exact h rfl

/-- The words that set the trimming to a value, or leave it alone. -/
def trimmingWords : Option Bool → List Text
  | none => []
  | some true => ["--trim".toList]
  | some false => ["--no-trim".toList]

def trimmingSwitch : Bool → Switch
  | true => .trim
  | false => .noTrim

def trimmingSwitches (trimming : Option Bool) : List Word :=
  trimming.toList.map fun b => .switch (trimmingSwitch b) []

variable {path : Text} {text : Option Text} {before after : List Text}

theorem readAll?_arguments {words more : List Text} {read : List Word}
    (plain : ∀ t ∈ words, IsArgument t) (h : Word.readAll? more = some read) :
    Word.readAll? (words ++ more) = some (words.map .argument ++ read) := by
  induction words with
  | nil => exact h
  | cons t rest ih =>
      obtain ⟨notMarker, argument⟩ := plain t List.mem_cons_self
      have behind := ih fun t ht => plain t (List.mem_cons_of_mem _ ht)
      simp [Word.readAll?, notMarker, argument, behind]

theorem readAll?_trimming {more : List Text} {read : List Word} (trimming : Option Bool)
    (h : Word.readAll? more = some read) :
    Word.readAll? (trimmingWords trimming ++ more) = some (trimmingSwitches trimming ++ read) := by
  have option {t : Text} {word : Word} (notMarker : t ≠ ['-', '-'])
      (isWord : Word.read? t = some word) :
      Word.readAll? ([t] ++ more) = some ([word] ++ read) := by
    simp [Word.readAll?, notMarker, isWord, h]
  match trimming with
  | none => exact h
  | some true => exact option (by decide) (by decide)
  | some false => exact option (by decide) (by decide)

/-- The first round takes the option and leaves the arguments in their order. -/
theorem goThrough_options (trimming : Option Bool)
    (arguments : before ++ after = path :: text.toList) (fuel : Nat) :
    goThrough takeNone (fuel + 4) false Reading.start
        (before.map .argument ++ (trimmingSwitches trimming ++ after.map .argument)) =
      .ok { Reading.start with
        trimming
        trims := trimming.toList.map trimmingSwitch
        leftOver := path :: text.toList } := by
  rcases before with _ | ⟨b1, _ | ⟨b2, _ | ⟨b3, before⟩⟩⟩ <;> rcases text with _ | text <;>
    rcases trimming with _ | _ | _ <;>
    simp_all [goThrough, trimmingSwitches, trimmingSwitch, takeNone, Word.isMarker, Word.isOption,
      Word.text, Reading.leave, Reading.start, Reading.switches, Reading.switch]

theorem argumentOf_argument {t : Text} (plain : IsArgument t) :
    argumentOf [.argument t] = some t := by
  simp [argumentOf, Word.text, plain.1]

theorem takeBoth_arguments (plain : ∀ t ∈ path :: text.toList, IsArgument t) (r : Reading) :
    takeBoth r ((path :: text.toList).map .argument) =
      some ({ r with path := some path, text }, []) := by
  have pathOf := argumentOf_argument (plain path List.mem_cons_self)
  cases text with
  | none =>
      have forPath : takeArgument [.argument path] = ([.argument path], []) := rfl
      have forText : takeArgument [] = ([], []) := rfl
      simp only [takeBoth, Option.toList_none, List.map_cons, List.map_nil, forPath, forText,
        pathOf]
      rfl
  | some text =>
      have textOf := argumentOf_argument (plain text (by simp))
      have forPath : takeArgument [.argument path, .argument text] =
          ([.argument path], [.argument text]) := rfl
      have forText : takeArgument [.argument text] = ([.argument text], []) := rfl
      simp only [takeBoth, Option.toList_some, List.map_cons, List.map_nil, forPath, forText,
        pathOf, textOf]
      rfl

/-- The second round takes the arguments. -/
theorem goThrough_arguments (plain : ∀ t ∈ path :: text.toList, IsArgument t) (r : Reading)
    (fuel : Nat) :
    goThrough takeBoth (fuel + 2) false r ((path :: text.toList).map .argument) =
      .ok { r with path := some path, text } := by
  have taken := takeBoth_arguments plain r
  rw [List.map_cons] at taken ⊢
  simp [goThrough, taken, Reading.leave]

theorem read_words (trimming : Option Bool) (arguments : before ++ after = path :: text.toList)
    (plain : ∀ t ∈ path :: text.toList, IsArgument t) :
    Arguments.read (before ++ trimmingWords trimming ++ after) =
      .ok ⟨path, text, trimming, false⟩ := by
  have plainBefore : ∀ t ∈ before, IsArgument t := fun t ht => plain t (by simp [← arguments, ht])
  have plainAfter : ∀ t ∈ after, IsArgument t := fun t ht => plain t (by simp [← arguments, ht])
  have readAfter : Word.readAll? after = some (after.map .argument) := by
    have none_left : Word.readAll? [] = some [] := rfl
    simpa using readAll?_arguments plainAfter none_left
  have first := readAll?_arguments plainBefore (readAll?_trimming trimming readAfter)
  have second : Word.readAll? (path :: text.toList) =
      some ((path :: text.toList).map .argument) := by
    have none_left : Word.readAll? [] = some [] := rfl
    simpa using readAll?_arguments plain none_left
  have firstFuel : ∃ fuel, 2 * (before.map Word.argument ++ (trimmingSwitches trimming ++
      after.map Word.argument)).length + 2 = fuel + 4 := by
    have size := congrArg List.length arguments
    simp only [List.length_append, List.length_cons] at size
    simp only [List.length_append, List.length_map]
    exact ⟨_, (Nat.sub_add_cancel (by omega)).symm⟩
  obtain ⟨fuel, firstFuel⟩ := firstFuel
  rw [Arguments.read, List.append_assoc, round, first]
  simp only [firstFuel, goThrough_options trimming arguments, round, second,
    goThrough_arguments plain]
  rfl

end MaximalMunch.CommandLine
