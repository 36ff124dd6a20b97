import Mathlib.Data.List.Basic
import MaximalMunch.Data.Shown

/-!
Which data can be written. The numbers that are met while a value is written are said without its
writing; a value has no written form just where one of them has too many digits. What stands for a
name has one just where the value has one inside a message.
-/

namespace MaximalMunch

namespace Text

/-- The number has more digits than are written. -/
def IsLong (n : Int) : Prop := Nat.pow 10 maxDigits ≤ n.natAbs

theorem length_ofNat_le_iff {n size : Nat} (some_digit : 0 < size) :
    (ofNat n).length ≤ size ↔ n < Nat.pow 10 size :=
  Nat.length_toDigits_le_iff (by decide) some_digit

theorem ofInt?_eq_none_iff {n : Int} : ofInt? n = none ↔ IsLong n := by
  have short := @length_ofNat_le_iff n.natAbs maxDigits (by decide)
  rw [IsLong, ← Nat.not_lt, ← short, ofInt?]
  simp

end Text

namespace Data

/-- A number with too many digits is met where the value is written inside the labelled collections
in `around`. -/
inductive HoldsLong : (around : List Nat) → Data → Prop where
  | int {around : List Nat} {n : Int} (long : Text.IsLong n) : HoldsLong around (.int n)
  | item {around : List Nat} {items : List Data} {d : Data} (member : d ∈ items)
      (holds : HoldsLong around d) : HoldsLong around (.list items)
  | part {around : List Nat} {items : List Data} {d : Data} (member : d ∈ items)
      (holds : HoldsLong around d) : HoldsLong around (.tuple items)
  | key {around : List Nat} {entries : List (Data × Data)} {e : Data × Data} (member : e ∈ entries)
      (holds : HoldsLong around e.1) : HoldsLong around (.map entries)
  | value {around : List Nat} {entries : List (Data × Data)} {e : Data × Data}
      (member : e ∈ entries) (holds : HoldsLong around e.2) : HoldsLong around (.map entries)
  | member {around : List Nat} {members : List Data} {d : Data} (member : d ∈ members)
      (holds : HoldsLong around d) : HoldsLong around (.set members)
  | loop {around : List Nat} {label : Nat} {body : Data} (new : label ∉ around)
      (holds : HoldsLong (label :: around) body) : HoldsLong around (.loop label body)

/-- A number with too many digits is met where the value is written. -/
def HoldsLongNumber (d : Data) : Prop := d.HoldsLong []

mutual

theorem shownIn?_eq_none_iff (around : List Nat) :
    (d : Data) → (d.shownIn? around = none ↔ d.HoldsLong around)
  | .null | .flag _ | .float _ | .text _ | .bytes _ | .date _ | .moment _ | .again _ _ => by
      refine iff_of_false ?_ ?_
      · simp [shownIn?]
      · intro holds
        cases holds
  | .int n => by
      rw [shownIn?, Text.ofInt?_eq_none_iff]
      refine ⟨.int, ?_⟩
      rintro ⟨long⟩
      exact long
  | .list items => by
      rw [shownIn?, Option.map_eq_none_iff, shownItems?_eq_none_iff around items]
      constructor
      · rintro ⟨d, member, holds⟩
        exact .item member holds
      · intro holds
        cases holds with
        | item member holds => exact ⟨_, member, holds⟩
  | .tuple items => by
      rw [shownIn?, Option.map_eq_none_iff, shownItems?_eq_none_iff around items]
      constructor
      · rintro ⟨d, member, holds⟩
        exact .part member holds
      · intro holds
        cases holds with
        | part member holds => exact ⟨_, member, holds⟩
  | .map entries => by
      rw [shownIn?, Option.map_eq_none_iff, shownEntries?_eq_none_iff around entries]
      constructor
      · rintro ⟨e, member, key | value⟩
        · exact .key member key
        · exact .value member value
      · intro holds
        cases holds with
        | key member holds => exact ⟨_, member, .inl holds⟩
        | value member holds => exact ⟨_, member, .inr holds⟩
  | .set members => by
      rw [shownIn?, Option.map_eq_none_iff, shownItems?_eq_none_iff around members]
      constructor
      · rintro ⟨d, member, holds⟩
        exact .member member holds
      · intro holds
        cases holds with
        | member member holds => exact ⟨_, member, holds⟩
  | .loop label body => by
      have inner := shownIn?_eq_none_iff (label :: around) body
      rw [shownIn?]
      by_cases inside : label ∈ around
      · rw [if_pos (List.contains_iff_mem.mpr inside)]
        refine iff_of_false (Option.some_ne_none _) ?_
        intro holds
        cases holds with
        | loop new _ => exact new inside
      · rw [if_neg fun contains => inside (List.contains_iff_mem.mp contains), inner]
        refine ⟨.loop inside, ?_⟩
        intro holds
        cases holds with
        | loop _ holds => exact holds

theorem shownItems?_eq_none_iff (around : List Nat) :
    (items : List Data) → (shownItems? around items = none ↔ ∃ d ∈ items, d.HoldsLong around)
  | [] => by simp [shownItems?]
  | d :: rest => by
      have first := shownIn?_eq_none_iff around d
      have later := shownItems?_eq_none_iff around rest
      rw [shownItems?, List.exists_mem_cons_iff, ← first, ← later]
      cases d.shownIn? around <;> cases shownItems? around rest <;> simp

theorem shownEntries?_eq_none_iff (around : List Nat) :
    (entries : List (Data × Data)) → (shownEntries? around entries = none ↔
      ∃ e ∈ entries, e.1.HoldsLong around ∨ e.2.HoldsLong around)
  | [] => by simp [shownEntries?]
  | (k, v) :: rest => by
      have key := shownIn?_eq_none_iff around k
      have value := shownIn?_eq_none_iff around v
      have later := shownEntries?_eq_none_iff around rest
      rw [shownEntries?, List.exists_mem_cons_iff, ← key, ← value, ← later]
      cases k.shownIn? around <;> cases v.shownIn? around <;> cases shownEntries? around rest <;> simp

end

theorem shown?_eq_none_iff {d : Data} : d.shown? = none ↔ d.HoldsLongNumber :=
  shownIn?_eq_none_iff [] d

/-- Texts and times are names that hold no number. -/
theorem plain?_eq_none_iff {d : Data} : d.plain? = none ↔ d.HoldsLongNumber := by
  fun_cases plain? d
  case case4 => exact shown?_eq_none_iff
  all_goals
    refine iff_of_false (Option.some_ne_none _) ?_
    intro holds
    cases holds

end Data
end MaximalMunch
