import MaximalMunch.Proofs.Keeps
import MaximalMunch.Proofs.Munch
import MaximalMunch.Proofs.Pattern.Extent
import MaximalMunch.Proofs.Scan.Account

/-!
Eating with counts of either sign. A count is cut off at the back of the window but not at the
beginning of the text. As long as no eat goes back beyond that, the window lies in the text, tokens
are what their types match and being stuck is the only failure; an eat that does go back beyond it
leaves the text.
-/

namespace MaximalMunch
namespace Scan

/-- A step, or an eat of any count. -/
inductive Call where
  | step (step : Step)
  | eat (count : Int)

def call (s : Scan) : Call → Scan
  | .step step => (s.apply step).2
  | .eat count => (s.eat count).2

/-- The error of a call that fails. -/
def failure? (s : Scan) : Call → Option ScanError
  | .step .next => error? s.next.1
  | .step .trimFront => error? s.trimFront.1
  | .step .trimBack => error? s.trimBack.1
  | _ => none

/-- What a token may be looked for in, where so much is left. -/
inductive Offered (g : Grammar) (left : Text) : Text → Prop where
  | whole (plain : g.trimming = false) : Offered g left left
  | trimmedBack (trims : g.trimming = true) : Offered g left (left.rdropWhile Text.isBlank)
  | trimmedBoth (trims : g.trimming = true) : Offered g left (Text.trimBoth Text.isBlank left)

/-- The token is what its type matches at the front of what is left. -/
structure Cuts (s : Scan) (token : Token) : Prop where
  some_chars : token.value ≠ []
  matched : ∃ g window, s.grammar = some g ∧ Offered g s.remaining window ∧ token.type ∈ g.types ∧
    token.type.matchLength? window = some token.value.length ∧ token.value <+: window

/-- The call leaves the window in order, gives a token in order, and fails at most by being stuck.
-/
structure Sound (s : Scan) (c : Call) : Prop where
  pos_nonneg : 0 ≤ (s.call c).pos
  pos_le_stop : (s.call c).pos ≤ (s.call c).stop
  cuts : ∀ token, c = .step .next → s.next.1 = .ok (some token) → s.Cuts token
  failure : ∀ e, s.failure? c = some e → ∃ rest, e = .unmatched rest

/-- An eat does not go back beyond the beginning of the text. -/
def StaysInText (s : Scan) : Call → Prop
  | .step _ => True
  | .eat count => 0 ≤ s.pos + count

/-- Each call of a run is like this for the scan that it finds. -/
def Throughout (P : Scan → Call → Prop) (s : Scan) : List Call → Prop
  | [] => True
  | c :: rest => P s c ∧ Throughout P (s.call c) rest

end Scan

namespace Frame

variable {f p : Frame} {g : Grammar}

theorem offered_rest (offered : p = f.prepare g ∨ p = (f.prepare g).skip g) :
    Scan.Offered g f.rest p.rest := by
  cases trims : g.trimming with
  | false =>
      have same : p = f := by
        rcases offered with rfl | rfl <;> simp [prepare, skip, trims]
      rw [same]
      exact .whole trims
  | true =>
      have both : f.trimBack.trimFront.rest = Text.trimBoth Text.isBlank f.rest := by
        rw [Text.trimBoth_eq, ← Text.dropWhile_rdropWhile]
        rfl
      have prepared : (f.prepare g).rest = f.rest.rdropWhile Text.isBlank ∨
          (f.prepare g).rest = Text.trimBoth Text.isBlank f.rest := by
        rw [prepare, if_pos trims, trimOutside]
        split
        · exact .inr both
        · exact .inl rfl
      rcases offered with rfl | rfl
      · rcases prepared with h | h
        · rw [h]
          exact .trimmedBack trims
        · rw [h]
          exact .trimmedBoth trims
      · rw [skip, if_pos trims]
        have front : (f.prepare g).trimFront.rest = Text.trimBoth Text.isBlank f.rest := by
          rcases prepared with h | h
          · rw [← both, trimFront, h]
            rfl
          · rw [trimFront, h, ← both]
            exact List.dropWhile_idempotent _ _
        rw [front]
        exact .trimmedBoth trims

theorem cuts_of_next {token : Token} (hg : f.grammar = some g)
    (h : f.next.1 = .ok (some token)) : f.scan.Cuts token := by
  have step := next_outcome hg
  generalize f.next = r at step h
  cases step with
  | ended none_left => cases h
  | stuck left first second => cases h
  | token p l offered left chosen =>
      cases h
      have best := Scan.chosen_of_longest? chosen
      have fits := TokenType.matchLength?_le best.length_eq
      have some_chars := Scan.length_pos_of_longest? chosen
      refine ⟨?_, g, p.rest, hg, ?_, best.type_mem, ?_, List.take_prefix _ _⟩
      · simp [cut, left, Nat.ne_of_gt some_chars]
      · rw [scan_remaining]
        exact offered_rest offered
      · simpa [cut, Nat.min_eq_left fits] using best.length_eq

theorem stuck_of_next {e : ScanError} (hg : f.grammar = some g) (h : f.next.1 = .error e) :
    ∃ rest, e = .unmatched rest := by
  have step := next_outcome hg
  generalize f.next = r at step h
  cases step with
  | ended none_left => cases h
  | token p l offered left chosen => cases h
  | stuck left first second =>
      cases h
      exact ⟨_, rfl⟩

theorem apply_grammar (hg : f.grammar = some g) (step : Scan.Step) :
    ∃ g', (f.scan.apply step).2.grammar = some g' := by
  cases step with
  | next => exact ⟨g, by rw [Scan.apply, next_scan, scan_grammar, f.next_kept.2, hg]⟩
  | eat count => exact ⟨g, hg⟩
  | trimFront => exact ⟨g, by rw [Scan.apply, trimFront_scan]; exact hg⟩
  | trimBack => exact ⟨g, by rw [Scan.apply, trimBack_scan]; exact hg⟩
  | add name regex => exact ⟨_, congrArg (Option.map _) hg⟩
  | setTrimming trimming => exact ⟨_, congrArg (Option.map _) hg⟩

theorem failure_of_step {e : ScanError} (hg : f.grammar = some g) {step : Scan.Step}
    (failed : f.scan.failure? (.step step) = some e) : ∃ rest, e = .unmatched rest := by
  cases step with
  | next =>
      rw [Scan.failure?, next_scan] at failed
      exact stuck_of_next hg (eq_error_of_error? failed)
  | trimFront =>
      rw [Scan.failure?, trimFront_scan] at failed
      cases failed
  | trimBack =>
      rw [Scan.failure?, trimBack_scan] at failed
      cases failed
  | eat | add | setTrimming => cases failed

end Frame

namespace Scan

variable {s : Scan} {g : Grammar}

theorem inside_eat (inside : s.Inside) {count : Int} (stays : 0 ≤ s.pos + count) :
    (s.eat count).2.Inside := by
  obtain ⟨nonneg, ordered, inText⟩ := inside
  refine ⟨?_, ?_, inText⟩
  · simp only [eat]
    omega
  · simp only [eat]
    omega

/-- One call that stays in the text. -/
theorem call_sound (inside : s.Inside) (hg : s.grammar = some g) {c : Call}
    (stays : s.StaysInText c) :
    s.Sound c ∧ (s.call c).Inside ∧ ∃ g', (s.call c).grammar = some g' := by
  cases c with
  | step step =>
      obtain ⟨f, rfl⟩ := Frame.exists_frame inside
      obtain ⟨after, moved, -⟩ := f.apply_scan step
      have inside' : (f.scan.call (.step step)).Inside := by
        rw [call, moved]
        exact after.scan_inside
      refine ⟨⟨inside'.pos_nonneg, inside'.pos_le_stop, ?_, ?_⟩, inside', f.apply_grammar hg step⟩
      · intro token _ given
        rw [f.next_scan] at given
        exact Frame.cuts_of_next hg given
      · intro e failed
        exact Frame.failure_of_step hg failed
  | eat count =>
      have inside' : (s.call (.eat count)).Inside := inside_eat inside stays
      refine ⟨⟨inside'.pos_nonneg, inside'.pos_le_stop, ?_, ?_⟩, inside', g, hg⟩
      · intro token isNext
        cases isNext
      · intro e failed
        cases failed

/-- A call that is sound has stayed in the text. -/
theorem Sound.stays {c : Call} (sound : s.Sound c) : s.StaysInText c := by
  cases c with
  | step step => trivial
  | eat count =>
      have nonneg := sound.pos_nonneg
      simp only [call, eat] at nonneg
      simp only [StaysInText]
      omega

theorem throughout_sound (inside : s.Inside) (hg : s.grammar = some g) (calls : List Call) :
    Throughout Sound s calls ↔ Throughout StaysInText s calls := by
  induction calls generalizing s g with
  | nil => exact Iff.rfl
  | cons c rest ih =>
      constructor
      · rintro ⟨sound, later⟩
        obtain ⟨-, inside', g', hg'⟩ := call_sound inside hg sound.stays
        exact ⟨sound.stays, (ih inside' hg').mp later⟩
      · rintro ⟨stays, later⟩
        obtain ⟨sound, inside', g', hg'⟩ := call_sound inside hg stays
        exact ⟨sound, (ih inside' hg').mpr later⟩

/-- All calls of a run are sound exactly if no eat among them goes back beyond the beginning of the
text. -/
theorem sound_iff_staysInText (g : Grammar) (text : Text) (calls : List Call) :
    Throughout Sound (start (some g) text) calls ↔
      Throughout StaysInText (start (some g) text) calls :=
  throughout_sound (Frame.start_inside (some g) text) rfl calls

/-- A step back from the beginning of a sum. The last number of the text is found there, but the
token that is cut off is empty; and from further back than the text is long nothing can be trimmed.
-/
theorem eat_beyond :
    let s := start (some (Grammar.sums false)) "1+2".toList
    (s.eat (-1)).2.pos = -1 ∧ (s.eat (-1)).2.remaining = ['2'] ∧
      (s.eat (-1)).2.next.1.map (·.map (·.value)) = .ok (some []) ∧
      (s.eat (-4)).2.trimFront.1 = .error .outsideText ∧ ¬Throughout Sound s [.eat (-1)] := by
  intro s
  refine ⟨by decide +kernel, by decide +kernel, by decide +kernel, by decide +kernel, ?_⟩
  rintro ⟨sound, -⟩
  have nonneg := sound.pos_nonneg
  revert nonneg
  decide +kernel

end Scan
end MaximalMunch
