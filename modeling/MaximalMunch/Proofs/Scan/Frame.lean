import MaximalMunch.Proofs.Scan.Longest
import MaximalMunch.Proofs.Text.Trim
import MaximalMunch.Scan

/-!
Scans by the parts of their text. A frame holds what lies before the window, in it and behind it,
and its operations are those of a scan said on these parts, without positions. Every scan whose
window lies in its text is the scan of a frame, and the two take the same steps.
-/

namespace MaximalMunch

/-- The window lies in the text. -/
structure Scan.Inside (s : Scan) : Prop where
  pos_nonneg : 0 ≤ s.pos
  pos_le_stop : s.pos ≤ s.stop
  stop_le_length : s.stop ≤ s.text.length

theorem Scan.Inside.withGrammar {s : Scan} (inside : s.Inside) (grammar : Option Grammar) :
    (s.withGrammar grammar).Inside :=
  ⟨inside.pos_nonneg, inside.pos_le_stop, inside.stop_le_length⟩

structure Frame where
  grammar : Option Grammar
  front : Text
  rest : Text
  back : Text
  matched : Nat

namespace Frame

def text (f : Frame) : Text := f.front ++ f.rest ++ f.back

def scan (f : Frame) : Scan :=
  ⟨f.grammar, f.text, f.front.length, f.front.length + f.rest.length, f.matched⟩

def start (grammar : Option Grammar) (text : Text) : Frame := ⟨grammar, [], text, [], 0⟩

def trimFront (f : Frame) : Frame :=
  { f with
    front := f.front ++ f.rest.takeWhile Text.isBlank
    rest := f.rest.dropWhile Text.isBlank }

def trimBack (f : Frame) : Frame :=
  { f with
    rest := f.rest.rdropWhile Text.isBlank
    back := f.rest.rtakeWhile Text.isBlank ++ f.back }

def trimOutside (f : Frame) : Frame :=
  if f.matched = 0 then f.trimBack.trimFront else f.trimBack

/-- What a scan with this grammar takes away before it looks for a token. -/
def prepare (g : Grammar) (f : Frame) : Frame := if g.trimming then f.trimOutside else f

/-- What a scan with this grammar takes away where no type matches. -/
def skip (g : Grammar) (f : Frame) : Frame := if g.trimming then f.trimFront else f

def eat (f : Frame) (count : Nat) : Frame :=
  { f with front := f.front ++ f.rest.take count, rest := f.rest.drop count }

def cut (f : Frame) (l : Scan.Longest) : Token × Frame :=
  (⟨l.type, f.rest.take l.length⟩, { f.eat l.length with matched := f.matched + 1 })

def attempt (g : Grammar) (f : Frame) : Option (Token × Frame) :=
  (Scan.longest? g.types f.rest).map f.cut

def next (f : Frame) : Except ScanError (Option Token) × Frame :=
  match f.grammar with
  | none => (.error .noGrammar, f)
  | some g =>
    let p := f.prepare g
    if p.rest = [] then (.ok none, p)
    else match p.attempt g with
      | some (token, f) => (.ok (some token), f)
      | none =>
        match (p.skip g).attempt g with
        | some (token, f) => (.ok (some token), f)
        | none => (.error (.unmatched (p.skip g).rest), p.skip g)

/-! ### A frame and its scan -/

theorem scan_start (grammar : Option Grammar) (text : Text) :
    (start grammar text).scan = Scan.start grammar text := by
  simp [start, scan, Frame.text, Scan.start]

theorem scan_inside (f : Frame) : f.scan.Inside := by
  refine ⟨?_, ?_, ?_⟩
  · simp only [scan]
    omega
  · simp only [scan]
    omega
  · simp only [scan, Frame.text, List.length_append]
    omega

theorem start_inside (grammar : Option Grammar) (text : Text) :
    (Scan.start grammar text).Inside := by
  rw [← scan_start]
  exact (start grammar text).scan_inside

theorem exists_frame {s : Scan} (h : s.Inside) : ∃ f : Frame, f.scan = s := by
  obtain ⟨grammar, text, pos, stop, matched⟩ := s
  obtain ⟨lo, hlo⟩ := Int.eq_ofNat_of_zero_le h.pos_nonneg
  obtain ⟨width, hwidth⟩ := Int.le.dest h.pos_le_stop
  have inText := h.stop_le_length
  simp only at hlo hwidth inText
  subst hlo
  subst hwidth
  have enough : lo + width ≤ text.length := by omega
  refine ⟨⟨grammar, text.take lo, (text.drop lo).take width, text.drop (lo + width), matched⟩, ?_⟩
  have cover : text.take lo ++ (text.drop lo).take width ++ text.drop (lo + width) = text := by
    rw [← List.take_add, List.take_append_drop]
  simp only [scan, Frame.text, cover, List.length_take, List.length_drop, Scan.mk.injEq, true_and,
    and_true]
  omega

@[simp] theorem scan_grammar (f : Frame) : f.scan.grammar = f.grammar := rfl

@[simp] theorem scan_matched (f : Frame) : f.scan.matched = f.matched := rfl

@[simp] theorem scan_remaining (f : Frame) : f.scan.remaining = f.rest :=
  Text.slice_append f.front f.rest f.back

@[simp] theorem scan_size (f : Frame) : f.scan.size = f.rest.length := by
  simp only [Scan.size, scan]
  omega

theorem scan_atEnd (f : Frame) : f.scan.atEnd = decide (f.rest = []) := by
  rw [Scan.atEnd, decide_eq_decide, ← List.length_eq_zero_iff]
  simp only [scan]
  omega

/-! ### The operations -/

theorem scan_move_front (grammar : Option Grammar) (front : Text) (c : Char) (rest back : Text)
    (matched : Nat) :
    { (Frame.mk grammar front (c :: rest) back matched).scan with pos := front.length + 1 } =
      (Frame.mk grammar (front ++ [c]) rest back matched).scan := by
  simp only [scan, text, List.append_assoc, List.cons_append, List.nil_append, List.length_append,
    List.length_cons, List.length_nil, Scan.mk.injEq, true_and, and_true]
  omega

theorem scan_move_back (grammar : Option Grammar) (front rest : Text) (c : Char) (back : Text)
    (matched : Nat) :
    { (Frame.mk grammar front (rest ++ [c]) back matched).scan with
        stop := front.length + (rest ++ [c]).length - 1 } =
      (Frame.mk grammar front rest (c :: back) matched).scan := by
  simp only [scan, text, List.append_assoc, List.cons_append, List.nil_append, List.length_append,
    List.length_cons, List.length_nil, Scan.mk.injEq, true_and, and_true]
  omega

theorem trimFrontBy_scan (f : Frame) :
    f.scan.trimFrontBy f.rest.length = (.ok (), f.trimFront.scan) := by
  obtain ⟨grammar, front, rest, back, matched⟩ := f
  induction rest generalizing front with
  | nil => simp [Scan.trimFrontBy, trimFront]
  | cons c rest ih =>
      have here : Text.charAt? (front ++ c :: rest ++ back) front.length = some c := by
        rw [List.append_assoc]
        exact Text.charAt?_append_cons front c (rest ++ back)
      rw [List.length_cons, Scan.trimFrontBy]
      simp only [scan, text, here]
      split
      · next blank =>
          have step := ih (front ++ [c])
          rw [← scan_move_front] at step
          simpa [scan, text, trimFront, blank] using step
      · next ink => simp [trimFront, ink]

theorem trimFront_scan (f : Frame) : f.scan.trimFront = (.ok (), f.trimFront.scan) := by
  rw [Scan.trimFront, scan_size, trimFrontBy_scan]

theorem trimBackBy_scan (f : Frame) :
    f.scan.trimBackBy f.rest.length = (.ok (), f.trimBack.scan) := by
  obtain ⟨grammar, front, rest, back, matched⟩ := f
  induction rest using List.reverseRecOn generalizing back with
  | nil => simp [Scan.trimBackBy, trimBack]
  | append_singleton rest c ih =>
      have here : Text.charAt? (front ++ (rest ++ [c]) ++ back)
          (front.length + (rest ++ [c]).length - 1) = some c := by
        have position : (front.length : Int) + (rest ++ [c]).length - 1 = (front ++ rest).length := by
          simp only [List.length_append, List.length_cons, List.length_nil]
          omega
        rw [position]
        simpa using Text.charAt?_append_cons (front ++ rest) c back
      rw [List.length_append, List.length_singleton, Scan.trimBackBy]
      simp only [scan, text, here]
      split
      · next blank =>
          have step := ih (c :: back)
          rw [← scan_move_back] at step
          simpa [scan, text, trimBack, blank, List.rdropWhile_concat_pos,
            List.rtakeWhile_concat_pos] using step
      · next ink =>
          simp [trimBack, ink, List.rdropWhile_concat_neg, List.rtakeWhile_concat_neg]

theorem trimBack_scan (f : Frame) : f.scan.trimBack = (.ok (), f.trimBack.scan) := by
  rw [Scan.trimBack, scan_size, trimBackBy_scan]

theorem trimOutside_scan (f : Frame) : f.scan.trimOutside = (.ok (), f.trimOutside.scan) := by
  have kept : f.trimBack.matched = f.matched := rfl
  rw [Scan.trimOutside, trimBack_scan, trimOutside]
  by_cases fresh : f.matched = 0 <;> simp [kept, fresh, trimFront_scan]

/-- The window ends where the text to be eaten may go on. -/
theorem eat_scan (f : Frame) (count : Nat) :
    f.scan.eat count = (f.rest.take count, (f.eat count).scan) := by
  obtain ⟨grammar, front, rest, back, matched⟩ := f
  have position : min ((front.length : Int) + count) (front.length + rest.length) =
      front.length + (rest.take count).length := by
    simp only [List.length_take]
    omega
  have whole : front ++ rest ++ back = front ++ rest.take count ++ (rest.drop count ++ back) := by
    rw [List.append_assoc front (rest.take count), ← List.append_assoc (rest.take count),
      List.take_append_drop, List.append_assoc]
  simp only [Scan.eat, scan, text, position, eat, Prod.mk.injEq, Scan.mk.injEq, true_and, and_true]
  refine ⟨?_, ?_, ?_, ?_⟩
  · rw [whole]
    exact Text.slice_append front (rest.take count) (rest.drop count ++ back)
  · rw [whole, List.append_assoc (front ++ rest.take count)]
  · simp only [List.length_append]
    omega
  · simp only [List.length_append, List.length_take, List.length_drop]
    omega

theorem cut_scan (f : Frame) (l : Scan.Longest) :
    f.scan.cut l = ((f.cut l).1, (f.cut l).2.scan) := by
  rw [Scan.cut, eat_scan]
  rfl

theorem skip_of_front {g : Grammar} {f : Frame} {c : Char} {rest : Text} (hf : f.rest = c :: rest)
    (ink : Text.isBlank c = false) : f.skip g = f := by
  obtain ⟨grammar, front, _, back, matched⟩ := f
  cases hf
  simp [skip, trimFront, ink]

theorem cutLongest_scan (g : Grammar) (f : Frame) (left : f.rest ≠ []) :
    f.scan.cutLongest g =
      match f.attempt g with
      | some (token, f) => (.ok (some token), f.scan)
      | none =>
        match (f.skip g).attempt g with
        | some (token, f) => (.ok (some token), f.scan)
        | none => (.error (.unmatched (f.skip g).rest), (f.skip g).scan) := by
  rw [Scan.cutLongest, scan_remaining]
  cases first : Scan.longest? g.types f.rest with
  | some l => simp [attempt, first, cut_scan]
  | none =>
      have firstAttempt : f.attempt g = none := by simp [attempt, first]
      rw [firstAttempt]
      cases trims : g.trimming with
      | false =>
          have same : f.skip g = f := by simp [skip, trims]
          simp [same, firstAttempt]
      | true =>
          obtain ⟨c, rest, hf⟩ := List.exists_cons_of_ne_nil left
          cases blank : Text.isBlank c with
          | false =>
              rw [skip_of_front hf blank]
              simp [hf, blank, firstAttempt]
          | true =>
              have skips : f.skip g = f.trimFront := by simp [skip, trims]
              rw [skips]
              cases second : Scan.longest? g.types f.trimFront.rest <;>
                simp [hf, blank, trimFront_scan, attempt, second, cut_scan]

/-- A scan takes the step of its frame. -/
theorem next_scan (f : Frame) : f.scan.next = (f.next.1, f.next.2.scan) := by
  rw [Scan.next, next, scan_grammar]
  cases f.grammar with
  | none => rfl
  | some g =>
      have prepared : (if g.trimming then f.scan.trimOutside else (.ok (), f.scan)) =
          (.ok (), (f.prepare g).scan) := by
        cases trims : g.trimming <;> simp [prepare, trims, trimOutside_scan]
      simp only [prepared, scan_atEnd, decide_eq_true_eq]
      split
      · rfl
      · next left =>
          rw [cutLongest_scan g (f.prepare g) left]
          cases (f.prepare g).attempt g with
          | some found => rfl
          | none => cases ((f.prepare g).skip g).attempt g <;> rfl

end Frame
end MaximalMunch
