import Mathlib
import AspectHost.Instance

/-! Stepping through activities of the host: a step that has ended lets the rest run on, or ends it. -/

namespace AspectHost

theorem bind_eq_ok {ε α β : Type} {x : Except ε α} {f : α → Except ε β} {b : β} :
    (x >>= f) = .ok b ↔ ∃ a, x = .ok a ∧ f a = .ok b := by
  cases x with
  | error e => simp [bind, Except.bind]
  | ok a => simp [bind, Except.bind]

theorem bind_eq_error {ε α β : Type} {x : Except ε α} {f : α → Except ε β} {e : ε} :
    (x >>= f) = .error e ↔ x = .error e ∨ ∃ a, x = .ok a ∧ f a = .error e := by
  cases x with
  | error e => simp [bind, Except.bind]
  | ok a => simp [bind, Except.bind]

theorem Stop.map_eq_error {ε ε' : Type} {f : ε → ε'} {e : Stop ε} {c : ε'} :
    e.map f = .error c ↔ ∃ c', e = .error c' ∧ f c' = c := by
  cases e <;> simp [Stop.map]

namespace Act

variable {ε σ α β : Type} {x : EStateM ε σ α} {s s' : σ}

theorem bind_of_ok {a : α} (h : x s = .ok a s') (f : α → EStateM ε σ β) :
    (x >>= f) s = f a s' := by
  simp only [bind, EStateM.bind, h]

theorem bind_of_error {e : ε} (h : x s = .error e s') (f : α → EStateM ε σ β) :
    (x >>= f) s = .error e s' := by
  simp only [bind, EStateM.bind, h]

section

variable {ε ε' : Type} {x : Act ε σ α}

theorem mapError_of_ok {a : α} (h : x s = .ok a s') (f : ε → ε') : mapError f x s = .ok a s' := by
  simp only [mapError, h]

theorem mapError_of_error {e : Stop ε} (h : x s = .error e s') (f : ε → ε') :
    mapError f x s = .error (e.map f) s' := by
  simp only [mapError, h]

theorem map_of_ok {a : α} (h : x s = .ok a s') (f : α → β) : (f <$> x) s = .ok (f a) s' := by
  simp only [Functor.map, EStateM.map, h]

theorem map_of_error {e : Stop ε} (h : x s = .error e s') (f : α → β) : (f <$> x) s = .error e s' := by
  simp only [Functor.map, EStateM.map, h]

end

/-- The state in which an activity ended, however it ended. -/
def finalState : EStateM.Result ε σ α → σ
  | .ok _ s => s
  | .error _ s => s

theorem finalState_map (x : EStateM ε σ α) (f : α → β) (s : σ) :
    finalState ((f <$> x) s) = finalState (x s) := by
  simp only [Functor.map, EStateM.map]
  cases x s <;> rfl

/-- What leaves the state alone, however it ends, does so after an activity. -/
theorem finalState_bind {f : α → EStateM ε σ β} (hf : ∀ a s, finalState (f a s) = s)
    (x : EStateM ε σ α) (s : σ) : finalState ((x >>= f) s) = finalState (x s) := by
  cases hx : x s with
  | ok a s' =>
    rw [bind_of_ok hx]
    exact hf a s'
  | error e s' => rw [bind_of_error hx, finalState, finalState]

/-- What an activity ended with, a result or a failure. -/
def outcome : EStateM.Result ε σ α → Except ε α
  | .ok a _ => .ok a
  | .error e _ => .error e

/-- The result of an activity that ended with one, and the state that it left. -/
def success? : EStateM.Result ε σ α → Option (α × σ)
  | .ok a s => some (a, s)
  | .error _ _ => none

theorem success?_eq_some {r : EStateM.Result ε σ α} {a : α} : success? r = some (a, s) ↔ r = .ok a s := by
  cases r <;> simp [success?]

/-- An activity ended with a result as `Q` says, or with a failure as `R` says. -/
inductive Ends (Q : α → σ → Prop) (R : ε → σ → Prop) : EStateM.Result ε σ α → Prop
  | ok {a : α} {s : σ} (h : Q a s) : Ends Q R (.ok a s)
  | error {e : ε} {s : σ} (h : R e s) : Ends Q R (.error e s)

namespace Ends

variable {P P' : α → σ → Prop} {Q : β → σ → Prop} {R R' : ε → σ → Prop}

theorem of_ok {a : α} (h : Ends P R (.ok a s)) : P a s := by
  cases h with
  | ok h => exact h

theorem of_error {e : ε} (h : Ends P R (.error e s)) : R e s := by
  cases h with
  | error h => exact h

theorem bind {f : α → EStateM ε σ β} (hx : Ends P R (x s)) (hf : ∀ a s', P a s' → Ends Q R (f a s')) :
    Ends Q R ((x >>= f) s) := by
  cases hr : x s with
  | ok a s' =>
    rw [hr] at hx
    rw [bind_of_ok hr]
    exact hf a s' hx.of_ok
  | error e s' =>
    rw [hr] at hx
    rw [bind_of_error hr]
    exact .error hx.of_error

theorem imp {r : EStateM.Result ε σ α} (h : Ends P R r) (hP : ∀ a s, P a s → P' a s)
    (hR : ∀ e s, R e s → R' e s) : Ends P' R' r := by
  cases h with
  | ok h => exact .ok (hP _ _ h)
  | error h => exact .error (hR _ _ h)

/-- What holds however an activity ends, holds of the state that it leaves. -/
theorem finalState {S : σ → Prop} {r : EStateM.Result ε σ α} (h : Ends (fun _ => S) (fun _ => S) r) :
    S (Act.finalState r) := by
  cases h with
  | ok h => exact h
  | error h => exact h

theorem with_eq {r : EStateM.Result ε σ α} (h : Ends P R r) :
    Ends (fun a s => P a s ∧ r = .ok a s) R r := by
  cases h with
  | ok h => exact .ok ⟨h, rfl⟩
  | error h => exact .error h

theorem mapError {ε ε' : Type} {x : Act ε σ α} {f : ε → ε'} {R : Stop ε' → σ → Prop}
    (h : Ends P (fun e => R (e.map f)) (x s)) : Ends P R (Act.mapError f x s) := by
  cases hr : x s with
  | ok a s' =>
    rw [hr] at h
    rw [mapError_of_ok hr]
    exact .ok h.of_ok
  | error e s' =>
    rw [hr] at h
    rw [mapError_of_error hr]
    exact .error h.of_error

theorem ofExcept {ε : Type} {x : Except ε α} {R : Stop ε → σ → Prop} (hP : ∀ a, x = .ok a → P a s)
    (hR : ∀ e, x = .error e → R (.error e) s) : Ends P R (Act.ofExcept x s) := by
  cases hx : x with
  | ok a => exact .ok (hP a hx)
  | error e => exact .error (hR e hx)

end Ends

section

variable {ε ε' σ α β : Type}

/-- Whatever the state, the activity fails only as `P` says. -/
def FailsOnly (P : ε → Prop) (x : Act ε σ α) : Prop :=
  ∀ s, Ends (fun _ _ => True) (fun e _ => ∀ cause, e = .error cause → P cause) (x s)

namespace FailsOnly

variable {P : ε → Prop} {x : Act ε σ α}

theorem of_error (h : FailsOnly P x) {s s' : σ} {e : ε} (he : x s = .error (.error e) s') : P e := by
  have hs := h s
  rw [he] at hs
  exact hs.of_error e rfl

theorem pure (a : α) : FailsOnly P (Pure.pure a : Act ε σ α) := fun _ => .ok trivial

theorem of_forall (h : ∀ e, P e) (x : Act ε σ α) : FailsOnly P x := by
  intro s
  cases x s with
  | ok a s' => exact .ok trivial
  | error e s' => exact .error fun cause _ => h cause

theorem ends_error {e : ε} (h : P e) (s : σ) :
    Ends (fun (_ : α) _ => True) (fun (e : Stop ε) _ => ∀ cause, e = .error cause → P cause)
      (.error (.error e) s) := by
  refine .error ?_
  intro cause hcause
  cases hcause
  exact h

theorem fail {e : ε} (h : P e) : FailsOnly P (Act.fail e : Act ε σ α) := fun s => ends_error h s

/-- Breaking off is no failure. -/
theorem throw {e : Stop ε} (h : ∀ cause, e ≠ .error cause) : FailsOnly P (MonadExcept.throw e : Act ε σ α) :=
  fun _ => .error fun cause hcause => absurd hcause (h cause)

theorem bind (hx : FailsOnly P x) {f : α → Act ε σ β} (hf : ∀ a, FailsOnly P (f a)) :
    FailsOnly P (x >>= f) :=
  fun s => (hx s).bind fun a s' _ => hf a s'

theorem map (hx : FailsOnly P x) (f : α → β) : FailsOnly P (f <$> x) := by
  rw [← bind_pure_comp]
  exact hx.bind fun a => pure (f a)

theorem imp {P' : ε → Prop} (hx : FailsOnly P x) (h : ∀ e, P e → P' e) : FailsOnly P' x :=
  fun s => (hx s).imp (fun _ _ h => h) fun _ _ he cause hcause => h cause (he cause hcause)

theorem mapError {P' : ε' → Prop} {f : ε → ε'} (hx : FailsOnly (fun e => P' (f e)) x) :
    FailsOnly P' (Act.mapError f x) := by
  intro s
  refine ((hx s).imp (fun _ _ h => h) ?_).mapError
  intro e _ he cause hcause
  obtain ⟨c, rfl, rfl⟩ := Stop.map_eq_error.mp hcause
  exact he c rfl

theorem ofExcept {y : Except ε α} (h : ∀ e, y = .error e → P e) :
    FailsOnly P (Act.ofExcept y : Act ε σ α) := by
  cases y with
  | ok a => exact pure a
  | error e => exact fail (h e rfl)

end FailsOnly

end

end Act

section

variable {γ α : Type} {x : GasM γ α} {w : World γ} {g : γ}

theorem metered_of_ok {a : α} (h : x w.guest = .ok a g) :
    metered x w = .ok a { w with guest := g } := by
  simp only [metered, h]

theorem metered_of_error {e : GasError} (h : x w.guest = .error e g) :
    metered x w = .error (.error (.ofGas e)) { w with guest := g } := by
  simp only [metered, h]

theorem finalState_metered (x : GasM γ α) (w : World γ) :
    (Act.finalState (metered x w)).guest = Act.finalState (x w.guest) := by
  unfold metered
  cases x w.guest <;> rfl

theorem Act.Ends.metered {P : α → γ → Prop} {R : GasError → γ → Prop} {Q : α → World γ → Prop}
    {S : Stop HostError → World γ → Prop} (h : Ends P R (x w.guest))
    (hQ : ∀ a g, P a g → Q a { w with guest := g })
    (hS : ∀ e g, R e g → S (.error (.ofGas e)) { w with guest := g }) :
    Ends Q S (AspectHost.metered x w) := by
  cases hr : x w.guest with
  | ok a g =>
    rw [hr] at h
    rw [metered_of_ok hr]
    exact .ok (hQ a g h.of_ok)
  | error e g =>
    rw [hr] at h
    rw [metered_of_error hr]
    exact .error (hS e g h.of_error)

end

section

variable {γ α : Type} {note : Stop Failure → γ → γ} {x : Act Failure (World γ) α} {w w' : World γ}

theorem noting_of_ok {a : α} (h : x w = .ok a w') (note : Stop Failure → γ → γ) :
    noting note x w = .ok a w' := by
  simp only [noting, h]

theorem noting_of_error {e : Stop Failure} (h : x w = .error e w') (note : Stop Failure → γ → γ) :
    noting note x w = .error e { w' with guest := note e w'.guest } := by
  simp only [noting, h]

theorem Act.Ends.noting {P : α → World γ → Prop} {R S : Stop Failure → World γ → Prop}
    (h : Ends P R (x w)) (hS : ∀ e w', R e w' → S e { w' with guest := note e w'.guest }) :
    Ends P S (AspectHost.noting note x w) := by
  cases hr : x w with
  | ok a w' =>
    rw [hr] at h
    rw [noting_of_ok hr]
    exact .ok h.of_ok
  | error e w' =>
    rw [hr] at h
    rw [noting_of_error hr]
    exact .error (hS e w' h.of_error)

theorem Act.FailsOnly.noting {P : Failure → Prop} (h : FailsOnly P x) (note : Stop Failure → γ → γ) :
    FailsOnly P (AspectHost.noting note x) :=
  fun w => (h w).noting fun _ _ he => he

end

namespace World

variable {γ : Type} (w : World γ) (slot : Nat)

@[simp] theorem size_setContext (gas : UInt64) :
    (w.setContext slot gas).contexts.size = w.contexts.size := by
  simp [setContext]

/-- Only what a budget was last set to counts. -/
theorem setContext_setContext (gas gas' : UInt64) :
    (w.setContext slot gas).setContext slot gas' = w.setContext slot gas' := by
  simp [setContext]

/-- A budget reads back as it was last set. -/
theorem context_setContext {slot : Nat} (h : slot < w.contexts.size) (gas : UInt64) :
    (w.setContext slot gas).context slot = gas := by
  simp [setContext, context, h]

end World
end AspectHost
