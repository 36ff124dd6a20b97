import Mathlib.Data.List.DropRight
import Mathlib.Data.List.TakeWhile
import MaximalMunch.Text

/-!
Pieces of a text that is given by its parts, and blanks at its two ends. The two ends can be
trimmed in either order.
-/

namespace MaximalMunch.Text

theorem clamp_natCast (size i : Nat) : clamp size (i : Int) = min i size := by
  have h : ¬ (i : Int) < 0 := by omega
  rw [clamp, if_neg h, Int.toNat_natCast]

theorem slice_append (front rest back : Text) :
    slice (front ++ rest ++ back) front.length (front.length + rest.length) = rest := by
  have lo : clamp (front ++ rest ++ back).length front.length = front.length := by
    rw [clamp_natCast]
    simp only [List.length_append]
    omega
  have hi : clamp (front ++ rest ++ back).length (front.length + rest.length) =
      (front ++ rest).length := by
    rw [← Int.natCast_add, clamp_natCast]
    simp only [List.length_append]
    omega
  rw [slice, lo, hi, List.take_left, List.drop_left]

theorem charAt?_append_cons (front : Text) (c : Char) (back : Text) :
    charAt? (front ++ c :: back) front.length = some c := by
  have h : ¬ (front.length : Int) < 0 := by omega
  rw [charAt?, if_neg h, Int.toNat_natCast]
  simp

def startsBlank (t : Text) : Bool :=
  match t with
  | [] => false
  | c :: _ => isBlank c

theorem startsBlank_dropWhile (t : Text) : startsBlank (t.dropWhile isBlank) = false := by
  induction t with
  | nil => rfl
  | cons c t ih =>
      cases h : isBlank c with
      | true =>
          rw [List.dropWhile_cons_of_pos h]
          exact ih
      | false =>
          rw [List.dropWhile_cons_of_neg (by simp [h])]
          exact h

theorem dropWhile_of_startsBlank {t : Text} (h : startsBlank t = false) :
    t.dropWhile isBlank = t := by
  cases t with
  | nil => rfl
  | cons c t => exact List.dropWhile_cons_of_neg (by simpa [startsBlank] using h)

def AllBlank (t : Text) : Prop := ∀ c ∈ t, isBlank c = true

theorem allBlank_nil : AllBlank [] := by simp [AllBlank]

theorem AllBlank.append {t u : Text} (ht : AllBlank t) (hu : AllBlank u) : AllBlank (t ++ u) := by
  intro c hc
  rcases List.mem_append.mp hc with h | h
  · exact ht c h
  · exact hu c h

theorem allBlank_takeWhile (t : Text) : AllBlank (t.takeWhile isBlank) := by
  intro c hc
  exact List.mem_takeWhile_imp hc

theorem allBlank_rtakeWhile (t : Text) : AllBlank (t.rtakeWhile isBlank) := by
  intro c hc
  exact List.mem_rtakeWhile_imp hc

theorem rdropWhile_cons (p : Char → Bool) (c : Char) (t : Text) :
    (c :: t).rdropWhile p =
      if t.rdropWhile p = [] then (if p c then [] else [c]) else c :: t.rdropWhile p := by
  simp only [List.rdropWhile, List.reverse_cons, List.dropWhile_append, List.isEmpty_iff,
    List.reverse_eq_nil_iff]
  split
  · cases h : p c <;> simp [h]
  · simp

/-- As long as anything is left, the end that is cut off does not touch the front. -/
theorem dropWhile_rdropWhile (p : Char → Bool) (t : Text) :
    (t.rdropWhile p).dropWhile p = (t.dropWhile p).rdropWhile p := by
  induction t with
  | nil => rfl
  | cons c t ih =>
      rw [rdropWhile_cons]
      cases hc : p c with
      | true =>
          rw [List.dropWhile_cons_of_pos hc, ← ih]
          split
          · next h => simp [h]
          · rw [List.dropWhile_cons_of_pos hc]
      | false =>
          rw [List.dropWhile_cons_of_neg (by simp [hc]), rdropWhile_cons]
          split
          · simp [hc]
          · rw [List.dropWhile_cons_of_neg (by simp [hc])]

/-- With nothing to trim at its end, a text that is not empty is not blank all over. -/
theorem dropWhile_ne_nil {p : Char → Bool} {t : Text} (trimmed : t.rdropWhile p = t)
    (left : t ≠ []) : t.dropWhile p ≠ [] := by
  intro blank
  have all_blank : t.rdropWhile p = [] :=
    List.rdropWhile_eq_nil_iff.mpr (List.dropWhile_eq_nil_iff.mp blank)
  rw [trimmed] at all_blank
  exact left all_blank

theorem startsBlank_rdropWhile {t : Text} (h : startsBlank t = false) :
    startsBlank (t.rdropWhile isBlank) = false := by
  cases t with
  | nil => rfl
  | cons c t =>
      have ink : isBlank c = false := h
      rw [rdropWhile_cons]
      split
      · simp [ink, startsBlank]
      · exact ink

theorem rdropWhile_drop {p : Char → Bool} {t : Text} (trimmed : t.rdropWhile p = t) (n : Nat) :
    (t.drop n).rdropWhile p = t.drop n := by
  rw [List.rdropWhile_eq_self_iff] at trimmed ⊢
  intro left
  have whole : t ≠ [] := by
    rintro rfl
    simp at left
  simpa [List.getLast_drop] using trimmed whole

/-! ### Both ends -/

theorem trimBoth_eq (p : Char → Bool) (t : Text) :
    trimBoth p t = (t.dropWhile p).rdropWhile p :=
  rfl

theorem rdropWhile_trimBoth (p : Char → Bool) (t : Text) :
    (trimBoth p t).rdropWhile p = trimBoth p t :=
  List.rdropWhile_idempotent p _

theorem trimBoth_of_rdropWhile {p : Char → Bool} {t : Text} (trimmed : t.rdropWhile p = t) :
    trimBoth p t = t.dropWhile p := by
  rw [trimBoth_eq, ← dropWhile_rdropWhile, trimmed]

theorem trimBoth_append {u v : Text} (hu : AllBlank u) (hv : AllBlank v) (t : Text) :
    trimBoth isBlank (u ++ t ++ v) = trimBoth isBlank t := by
  have back : (u ++ t ++ v).rdropWhile isBlank = (u ++ t).rdropWhile isBlank := by
    rw [List.rdropWhile, List.reverse_append,
      List.dropWhile_append_of_pos fun c hc => hv c (List.mem_reverse.mp hc)]
    rfl
  rw [trimBoth_eq, trimBoth_eq, ← dropWhile_rdropWhile, back, dropWhile_rdropWhile,
    List.dropWhile_append_of_pos hu]

end MaximalMunch.Text
