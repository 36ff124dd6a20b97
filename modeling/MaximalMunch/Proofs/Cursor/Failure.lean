import MaximalMunch.Proofs.Cursor.Coherence
import MaximalMunch.Proofs.Munch

/-!
A request that fails leaves the cursor where it was. Some actions move before they read, but only to
positions whose tokens are known, and whether the cursor may move is decided before it does; so all
that a failure can leave behind is tokens that have been scanned on the way.
-/

namespace MaximalMunch

namespace Eager

variable {m : Eager} {e : CursorError}

theorem stepBack_error (failed : m.stepBack.1 = .error e) : e = .noPrevious ∧ m.index = 0 := by
  rw [stepBack] at failed
  split at failed
  · next first => exact ⟨(Except.error.inj failed).symm, first⟩
  · contradiction

theorem readAfter_stepBack_error (fits : m.index ≤ m.whole.tokens.length)
    (failed : (readAfter m.stepBack).1 = .error e) : e = .noPrevious ∧ m.index = 0 := by
  by_cases first : m.index = 0
  · simp only [stepBack, first, if_true, readAfter] at failed
    exact ⟨(Except.error.inj failed).symm, first⟩
  · rw [readAfter_stepBack fits first] at failed
    contradiction

/-- Going back fails at the first position and nowhere else. -/
theorem perform_back_error (fits : m.index ≤ m.whole.tokens.length) {a : Action}
    (back : a = .previousToken ∨ a = .stepBack) (failed : (m.perform a).1 = .error e) :
    e = .noPrevious ∧ m.index = 0 := by
  rcases back with rfl | rfl
  · exact readAfter_stepBack_error fits (error_of_answered failed)
  · exact stepBack_error (error_of_answered failed)

end Eager

/-- The second cursor stands where the first one does, in the same text and with the same grammar, and
has kept all of its tokens. -/
structure Cursor.Stays (c d : Cursor) : Prop where
  active : d.active = c.active
  text : d.text = c.text
  grammar : d.grammar = c.grammar
  kept : c.tokens <+: d.tokens

namespace Session

variable {s : Session} {r : Request} {e : RequestError}

theorem exists_error_of_toBool {α ε : Type} {answer : Except ε α} (failed : answer.toBool = false) :
    ∃ e, answer = .error e := by
  cases answer with
  | error e => exact ⟨e, rfl⟩
  | ok a => contradiction

theorem quiet_of_error (failed : (s.perform r).1 = .error e) : r.resets = false := by
  cases resets : r.resets with
  | false => rfl
  | true =>
      rw [(s.perform_resets resets).2.1] at failed
      contradiction

theorem change_of_error {edit : Grammar → Except GrammarError Grammar}
    (failed : (s.change edit).1 = .error e) : (s.change edit).2 = s := by
  rw [change] at failed ⊢
  split
  · rfl
  · next g current =>
      cases edited : edit g with
      | error e' => rfl
      | ok g' => simp [current, edited] at failed

theorem ask_error {a : Action} (failed : (s.perform (.ask a)).1 = .error e) :
    ∃ e', e = .cursor e' ∧ (s.cursor.perform a).1 = .error e' := by
  simp only [perform] at failed
  cases asked : (s.cursor.perform a).1 with
  | error e' =>
      rw [asked] at failed
      exact ⟨e', (Except.error.inj failed).symm, rfl⟩
  | ok answer =>
      rw [asked] at failed
      contradiction

theorem active_of_error (coherent : s.cursor.Coherent) (failed : (s.perform r).1 = .error e) :
    (s.perform r).2.cursor.active = s.cursor.active := by
  cases r with
  | ask a =>
      obtain ⟨e', _, refused⟩ := ask_error failed
      exact Cursor.perform_active_of_error coherent.inside coherent.active_le refused
  | add _ _ | setTrimming _ => exact congrArg (·.cursor.active) (change_of_error failed)
  | walk => rfl
  | advance walk =>
      rw [advance_reach coherent.inside]
      exact (Cursor.reach_agrees coherent.inside _).active
  | collect =>
      simp only [perform, Cursor.collect_reach coherent.inside]
      exact (Cursor.reach_agrees coherent.inside _).active

theorem grammar_of_error (coherent : s.cursor.Coherent) (failed : (s.perform r).1 = .error e) :
    (s.perform r).2.cursor.grammar = s.cursor.grammar := by
  cases r with
  | add _ _ | setTrimming _ => exact congrArg (·.cursor.grammar) (change_of_error failed)
  | ask a =>
      rw [(perform_given coherent _).2]
      exact Request.grammar_of_ask (quiet_of_error failed) _
  | _ => exact (perform_given coherent _).2

theorem stays_of_error (coherent : s.cursor.Coherent) (failed : (s.perform r).1 = .error e) :
    s.cursor.Stays (s.perform r).2.cursor := by
  have quiet := quiet_of_error failed
  refine ⟨active_of_error coherent failed, ?_, grammar_of_error coherent failed,
    (perform_keeps coherent.inside quiet).grows.kept⟩
  rw [(perform_given coherent r).1, Request.text_of_quiet quiet]

/-- Going back reads only what has been kept. -/
theorem back_cursor (coherent : s.cursor.Coherent) {a : Action}
    (back : a = .previousToken ∨ a = .stepBack) :
    (s.perform (.ask a)).2.cursor =
      { s.cursor with active := (s.perform (.ask a)).2.cursor.active } := by
  have quiet : a.resets = false := by rcases back with rfl | rfl <;> rfl
  have leads := Cursor.perform_leads coherent.inside coherent.active_le quiet
  have nothing : s.cursor.asks a = 0 := by rcases back with rfl | rfl <;> rfl
  rw [nothing, Cursor.Leads, Cursor.reach_zero] at leads
  exact leads

theorem back_error (coherent : s.cursor.Coherent) {a : Action}
    (back : a = .previousToken ∨ a = .stepBack) (failed : (s.perform (.ask a)).1 = .error e) :
    e = .cursor .noPrevious ∧ s.cursor.active = 0 := by
  obtain ⟨e', rfl, refused⟩ := ask_error failed
  have fits := Nat.le_trans coherent.active_le s.cursor.tokens_length_le_whole
  rw [(Cursor.perform_mirrors (Cursor.follows_of coherent.inside) a).1] at refused
  obtain ⟨rfl, first⟩ := Eager.perform_back_error fits back refused
  exact ⟨rfl, first⟩

/-- In any state that requests can lead to, a request that fails leaves the cursor where it was and
keeps all its tokens. Asking whether there is a further token never moves the cursor, and going back
never scans and fails only at the first position. -/
theorem failure_stays (grammar : Option Grammar) (text : Text) (requests : List Request) :
    let s := (start grammar text).after requests
    (∀ r e, (s.perform r).1 = .error e → s.cursor.Stays (s.perform r).2.cursor) ∧
      (s.perform (.ask .hasNext)).2.cursor.active = s.cursor.active ∧
      ∀ a, a = .previousToken ∨ a = .stepBack →
        (s.perform (.ask a)).2.cursor =
            { s.cursor with active := (s.perform (.ask a)).2.cursor.active } ∧
          ∀ e, (s.perform (.ask a)).1 = .error e →
            e = .cursor .noPrevious ∧ s.cursor.active = 0 := by
  intro s
  have coherent : s.cursor.Coherent := after_coherent (Cursor.start_coherent grammar text) requests
  refine ⟨fun r e failed => stays_of_error coherent failed, ?_, fun a back => ?_⟩
  · exact Cursor.perform_active coherent.inside .hasNext
  · exact ⟨back_cursor coherent back, fun e failed => back_error coherent back failed⟩

/-- After a first token nothing matches. Looking for the last token fails then and the cursor stays at
the second position; back at the first one, there is nothing to go back to. -/
theorem failure_stays_sums :
    let fresh := start (some (Grammar.sums true)) "12+x".toList
    let onward := [Request.ask .nextToken]
    let back := [Request.ask .nextToken, .ask .previousToken]
    (fresh.after onward).cursor.active = 1 ∧
      (∃ e, ((fresh.after onward).perform (.ask .lastToken)).1 = .error e) ∧
      (fresh.after onward).cursor.Stays ((fresh.after onward).perform (.ask .lastToken)).2.cursor ∧
      ((fresh.after back).perform (.ask .stepBack)).1 = .error (.cursor .noPrevious) ∧
      (fresh.after back).cursor.active = 0 := by
  intro fresh onward back
  have moved : (fresh.after onward).cursor.active = 1 := by decide +kernel
  have stuck : ((fresh.after onward).perform (.ask .lastToken)).1.toBool = false := by
    decide +kernel
  have first : ((fresh.after back).perform (.ask .stepBack)).1.toBool = false := by
    decide +kernel
  -- From here on it does not matter which requests these are.
  clear_value onward back
  obtain ⟨e, failed⟩ := exists_error_of_toBool stuck
  obtain ⟨e', failed'⟩ := exists_error_of_toBool first
  have stays := (failure_stays (some (Grammar.sums true)) "12+x".toList onward).1 _ e failed
  have refused := (failure_stays (some (Grammar.sums true)) "12+x".toList back).2.2
  obtain ⟨rfl, start⟩ := (refused .stepBack (.inr rfl)).2 e' failed'
  exact ⟨moved, ⟨e, failed⟩, stays, failed', start⟩

end Session
end MaximalMunch
