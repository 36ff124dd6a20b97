/-!
Computations that may fail. Such a computation yields results of one kind and errors of another. One
with a state also leads from states of one kind to states of another; it keeps an invariant if,
begun where the invariant holds, it ends where it holds. Computations are built from others, so it
is enough to look at the parts of each.
-/

namespace MaximalMunch

variable {σ ε α β : Type}

/-- The error of an outcome that is one. -/
def error? : Except ε α → Option ε
  | .ok _ => none
  | .error e => some e

theorem eq_error_of_error? {x : Except ε α} {e : ε} (h : error? x = some e) : x = .error e := by
  cases x with
  | ok a => cases h
  | error f => exact congrArg _ (Option.some.inj h)

/-- The outcome is a result in `Q` or an error in `E`. -/
def Yields (E : ε → Prop) (Q : α → Prop) : Except ε α → Prop
  | .ok a => Q a
  | .error e => E e

/-- What an outcome that fails fails with. -/
abbrev FailsWith (E : ε → Prop) : Except ε α → Prop := Yields E fun _ => True

namespace Yields

variable {E : ε → Prop} {Q : α → Prop} {R : β → Prop} {x y : Except ε α}

theorem ok {a : α} (h : Q a) : Yields E Q (.ok a) := h

theorem error {e : ε} (h : E e) : Yields E Q (.error e) := h

theorem of_ok (h : Yields E Q x) {a : α} (same : x = .ok a) : Q a := by
  rw [same] at h
  exact h

theorem of_error (h : Yields E Q x) {e : ε} (same : x = .error e) : E e := by
  rw [same] at h
  exact h

theorem bind {f : α → Except ε β} (hx : Yields E Q x) (hf : ∀ a, Q a → Yields E R (f a)) :
    Yields E R (x >>= f) := by
  cases x with
  | error e => exact hx
  | ok a => exact hf a hx

theorem map {f : α → β} (hx : Yields E Q x) (hf : ∀ a, Q a → R (f a)) :
    Yields E R (x.map f) := by
  cases x with
  | error e => exact hx
  | ok a => exact hf a hx

theorem weaken {E' : ε → Prop} {Q' : α → Prop} (hx : Yields E Q x) (he : ∀ e, E e → E' e)
    (ha : ∀ a, Q a → Q' a) : Yields E' Q' x := by
  cases x with
  | error e => exact he e hx
  | ok a => exact ha a hx

theorem ite {c : Prop} [Decidable c] (hx : c → Yields E Q x) (hy : ¬c → Yields E Q y) :
    Yields E Q (if c then x else y) := by
  split
  case isTrue h => exact hx h
  case isFalse h => exact hy h

theorem mapped {f : α → β} (hx : FailsWith E x) : FailsWith E (x.map f) := hx.map fun _ h => h

end Yields

/-- Begun where `P` holds, `m` ends with a result and a state in `Q`, or with an error in `E`. -/
def Runs (P : σ → Prop) (E : ε → Prop) (Q : α → σ → Prop) (m : StateT σ (Except ε) α) : Prop :=
  ∀ s, P s → Yields E (fun r => Q r.1 r.2) (m.run s)

namespace Runs

variable {P P' : σ → Prop} {E : ε → Prop} {Q Q' : α → σ → Prop} {R : β → σ → Prop}
  {m : StateT σ (Except ε) α}

theorem pure {a : α} (h : ∀ s, P s → Q a s) : Runs P E Q (pure a) := h

theorem throw {e : ε} (h : E e) : Runs P E Q (throw e) := fun _ _ => h

theorem bind {f : α → StateT σ (Except ε) β} (hm : Runs P E Q m)
    (hf : ∀ a, Runs (Q a) E R (f a)) : Runs P E R (m >>= f) := by
  intro s begun
  rw [StateT.run_bind]
  exact (hm s begun).bind fun r first => hf r.1 r.2 first

theorem get : Runs P E (fun s s' => s' = s ∧ P s) (get : StateT σ (Except ε) σ) :=
  fun _ begun => ⟨rfl, begun⟩

theorem lift {x : Except ε α} {R : α → Prop} (hx : Yields E R x) :
    Runs P E (fun a s => R a ∧ P s) (liftM x) := by
  intro s begun
  cases x with
  | error e => exact hx
  | ok a => exact ⟨hx, begun⟩

theorem modify {f : σ → σ} {R : PUnit → σ → Prop} (h : ∀ s, P s → R ⟨⟩ (f s)) :
    Runs P E R (modify f : StateT σ (Except ε) PUnit) := h

theorem pre (hm : Runs P E Q m) (h : ∀ s, P' s → P s) : Runs P' E Q m :=
  fun s begun => hm s (h s begun)

theorem post (hm : Runs P E Q m) (h : ∀ a s, Q a s → Q' a s) : Runs P E Q' m :=
  fun s begun => (hm s begun).weaken (fun _ he => he) fun r => h r.1 r.2

/-- What is known without looking at the state. -/
theorem known {φ : Prop} (h : φ → Runs P E Q m) : Runs (fun s => φ ∧ P s) E Q m :=
  fun s begun => h begun.1 s begun.2

/-- What comes behind a failure does not count. -/
theorem throw_bind {e : ε} {f : α → StateT σ (Except ε) β} (h : E e) :
    Runs P E R (MonadExcept.throw e >>= f) :=
  bind (Q := fun _ _ => False) (throw h) fun _ _ impossible => impossible.elim

theorem ite {c : Prop} [Decidable c] {n : StateT σ (Except ε) α} (hm : c → Runs P E Q m)
    (hn : ¬c → Runs P E Q n) : Runs P E Q (if c then m else n) := by
  split
  case isTrue h => exact hm h
  case isFalse h => exact hn h

end Runs

/-- Begun where `I` holds, `m` ends where `I` holds with a result in `Q`, or with an error in `E`. -/
abbrev Keeps (I : σ → Prop) (E : ε → Prop) (Q : α → Prop) : StateT σ (Except ε) α → Prop :=
  Runs I E fun a s => Q a ∧ I s

namespace Keeps

variable {I : σ → Prop} {E : ε → Prop} {Q : α → Prop} {R : β → Prop}
  {m : StateT σ (Except ε) α}

theorem pure {a : α} (h : Q a) : Keeps I E Q (pure a) := Runs.pure fun _ inv => ⟨h, inv⟩

theorem throw {e : ε} (h : E e) : Keeps I E Q (throw e) := Runs.throw h

theorem bind {f : α → StateT σ (Except ε) β} (hm : Keeps I E Q m)
    (hf : ∀ a, Q a → Keeps I E R (f a)) : Keeps I E R (m >>= f) :=
  Runs.bind hm fun a => Runs.known (hf a)

theorem throw_bind {e : ε} {f : α → StateT σ (Except ε) β} (h : E e) :
    Keeps I E R (MonadExcept.throw e >>= f) := Runs.throw_bind h

theorem get : Keeps I E I (get : StateT σ (Except ε) σ) := fun _ inv => ⟨inv, inv⟩

theorem modify {f : σ → σ} (h : ∀ s, I s → I (f s)) :
    Keeps I E (fun _ => True) (modify f : StateT σ (Except ε) PUnit) :=
  Runs.modify fun s inv => ⟨trivial, h s inv⟩

theorem lift {x : Except ε α} (hx : Yields E Q x) : Keeps I E Q (liftM x) := Runs.lift hx

theorem weaken {Q' : α → Prop} (hm : Keeps I E Q m) (h : ∀ a, Q a → Q' a) : Keeps I E Q' m :=
  Runs.post hm fun a _ ends => ⟨h a ends.1, ends.2⟩

theorem mapM {l : List β} {f : β → StateT σ (Except ε) α} (h : ∀ b ∈ l, Keeps I E Q (f b)) :
    Keeps I E (fun as => ∀ a ∈ as, Q a) (l.mapM f) := by
  induction l with
  | nil => exact pure fun _ ha => absurd ha List.not_mem_nil
  | cons b l ih =>
      rw [List.mapM_cons]
      refine bind (h b List.mem_cons_self) fun a ha => ?_
      refine bind (ih fun c hc => h c (List.mem_cons_of_mem _ hc)) fun as has => pure ?_
      rintro c (_ | ⟨_, hc⟩)
      · exact ha
      · exact has c hc

theorem ite {c : Prop} [Decidable c] {n : StateT σ (Except ε) α} (hm : c → Keeps I E Q m)
    (hn : ¬c → Keeps I E Q n) : Keeps I E Q (if c then m else n) := Runs.ite hm hn

end Keeps
end MaximalMunch
