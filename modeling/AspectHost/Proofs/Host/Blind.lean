import AspectHost.Proofs.Host.Course

/-! # Budgets are loaded before they are read

What a budget holds before a host call does not matter: a call loads it first. So an activity that meets
budgets only through host calls is `Blind` to them: in worlds that differ in nothing else it does the
same. -/

namespace AspectHost

variable {γ ε ε' α β : Type}

/-- The worlds differ at most in what their budgets hold. -/
structure World.Alike (w w' : World γ) : Prop where
  guest : w.guest = w'.guest
  events : w.events = w'.events
  size : w.contexts.size = w'.contexts.size

namespace World.Alike

variable {w w' : World γ} (h : w.Alike w')

include h

theorem setGuest (g : γ) : World.Alike { w with guest := g } { w' with guest := g } :=
  ⟨rfl, h.events, h.size⟩

theorem setContext (slot : Nat) (q q' : UInt64) :
    (w.setContext slot q).Alike (w'.setContext slot q') :=
  ⟨h.guest, h.events, by simpa using h.size⟩

theorem record (e : Event) : (w.record e).Alike (w'.record e) :=
  ⟨h.guest, congrArg (·.push e) h.events, h.size⟩

/-- A budget that is set reads the same in both, also where there is none. -/
theorem context_setContext (slot : Nat) (q : UInt64) :
    (w.setContext slot q).context slot = (w'.setContext slot q).context slot := by
  by_cases hs : slot < w.contexts.size
  · rw [w.context_setContext hs, w'.context_setContext (h.size ▸ hs)]
  · have hs' : ¬ slot < w'.contexts.size := h.size ▸ hs
    simp [World.setContext, World.context, hs, hs']

end World.Alike

/-- The same ending in worlds that are alike. -/
inductive EndsAlike :
    EStateM.Result (Stop ε) (World γ) α → EStateM.Result (Stop ε) (World γ) α → Prop
  | ok (a : α) {w w' : World γ} (h : w.Alike w') : EndsAlike (.ok a w) (.ok a w')
  | error (e : Stop ε) {w w' : World γ} (h : w.Alike w') : EndsAlike (.error e w) (.error e w')

theorem EndsAlike.ends {r r' : EStateM.Result (Stop ε) (World γ) α} (h : EndsAlike r r') :
    (∃ a w w', r = .ok a w ∧ r' = .ok a w' ∧ w.Alike w') ∨
      ∃ e w w', r = .error e w ∧ r' = .error e w' ∧ w.Alike w' := by
  cases h with
  | ok a h => exact .inl ⟨a, _, _, rfl, rfl, h⟩
  | error e h => exact .inr ⟨e, _, _, rfl, rfl, h⟩

namespace Act

/-- The activity does the same whatever the budgets hold. -/
def Blind (x : Act ε (World γ) α) : Prop := ∀ w w' : World γ, w.Alike w' → EndsAlike (x w) (x w')

namespace Blind

theorem pure (a : α) : Blind (Pure.pure a : Act ε (World γ) α) := fun _ _ h => .ok a h

theorem throw (e : Stop ε) : Blind (MonadExcept.throw e : Act ε (World γ) α) := fun _ _ h => .error e h

theorem fail (e : ε) : Blind (Act.fail e : Act ε (World γ) α) := fun _ _ h => .error _ h

theorem record (e : Event) : Blind (modify (·.record e) : Act ε (World γ) PUnit) :=
  fun _ _ h => .ok _ (h.record e)

theorem ofExcept (r : Except ε α) : Blind (Act.ofExcept r : Act ε (World γ) α) := by
  cases r with
  | ok a => exact pure a
  | error e => exact fail e

theorem query (f : γ → Except ε α) : Blind (Act.query fun w : World γ => f w.guest) := by
  intro w w' h
  unfold Act.query
  dsimp only
  rw [← h.guest]
  cases f w.guest with
  | ok a => exact .ok a h
  | error e => exact .error _ h

theorem metered (x : GasM γ α) : Blind (AspectHost.metered x) := by
  intro w w' h
  unfold AspectHost.metered
  rw [← h.guest]
  cases x w.guest with
  | ok a g => exact .ok a (h.setGuest g)
  | error e g => exact .error _ (h.setGuest g)

theorem write (G : Guest γ) (p : Pointer) (b : Bytes) : Blind (G.write p b) := by
  intro w w' h
  unfold Guest.write
  rw [← h.guest]
  cases G.memory.write p b w.guest with
  | ok g => exact .ok _ (h.setGuest g)
  | error e => exact .error _ h

variable {x : Act ε (World γ) α}

theorem bind (hx : Blind x) {f : α → Act ε (World γ) β} (hf : ∀ a, Blind (f a)) : Blind (x >>= f) := by
  intro w w' h
  obtain ⟨a, v, v', hy, hy', h⟩ | ⟨e, v, v', hy, hy', h⟩ := (hx w w' h).ends
  · rw [bind_of_ok hy, bind_of_ok hy']
    exact hf a v v' h
  · rw [bind_of_error hy, bind_of_error hy']
    exact .error e h

theorem map (hx : Blind x) (f : α → β) : Blind (f <$> x) := by
  intro w w' h
  obtain ⟨a, v, v', hy, hy', h⟩ | ⟨e, v, v', hy, hy', h⟩ := (hx w w' h).ends
  · rw [map_of_ok hy, map_of_ok hy']
    exact .ok _ h
  · rw [map_of_error hy, map_of_error hy']
    exact .error e h

theorem mapError (hx : Blind x) (f : ε → ε') : Blind (Act.mapError f x) := by
  intro w w' h
  obtain ⟨a, v, v', hy, hy', h⟩ | ⟨e, v, v', hy, hy', h⟩ := (hx w w' h).ends
  · rw [mapError_of_ok hy, mapError_of_ok hy']
    exact .ok a h
  · rw [mapError_of_error hy, mapError_of_error hy']
    exact .error _ h

theorem noting {x : Act Failure (World γ) α} (hx : Blind x) (note : Stop Failure → γ → γ) :
    Blind (AspectHost.noting note x) := by
  intro w w' h
  obtain ⟨a, v, v', hy, hy', h⟩ | ⟨e, v, v', hy, hy', h⟩ := (hx w w' h).ends
  · rw [noting_of_ok hy, noting_of_ok hy']
    exact .ok a h
  · rw [noting_of_error hy, noting_of_error hy', ← h.guest]
    exact .error e (h.setGuest _)

end Blind
end Act

/-- Allocating does not look at budgets. -/
def Guest.Blind (G : Guest γ) : Prop := ∀ size, Act.Blind (G.allocate size)

section

variable {G : Guest γ} (hG : G.Blind) {api : LinkedApi} {payload rest : Int64} {w w' : World γ}

include hG in
theorem blind_writeValue (v : Value) : Act.Blind (G.writeValue v) := by
  unfold Guest.writeValue
  cases v.encode? with
  | none => exact Act.Blind.throw _
  | some b =>
    dsimp only
    have hwrite : Act.Blind do
        let p ← Act.mapError HostError.memory (G.allocate (Int32.ofNat b.length))
        G.write p b
        return p :=
      ((hG _).mapError _).bind fun p => (Act.Blind.write G p b).bind fun _ => .pure p
    by_cases hb : maxLength < b.length
    · rw [if_pos hb]
      exact (Act.Blind.fail _).bind fun _ => hwrite
    · rw [if_neg hb]
      exact hwrite

/-- Settling a budget reads that budget only. -/
theorem reconcile_alike (report : Report) (h : w.Alike w')
    (hq : w.context api.slot = w'.context api.slot) :
    EndsAlike (reconcile G api rest report w) (reconcile G api rest report w') := by
  rw [reconcile_eq, reconcile_eq, ← hq]
  by_cases hspent : report.isOk = false ∧ w.context api.slot = 0
  · rw [if_pos hspent, if_pos hspent]
    exact (Act.Blind.metered _).bind (fun _ => .fail _) _ _ (h.record _)
  · rw [if_neg hspent, if_neg hspent]
    cases reconciled? G.meter.multiplier rest (w.context api.slot) with
    | none => exact .error _ h
    | some gas => exact Act.Blind.metered _ _ _ h

include hG in
theorem deliver_alike (report : Report) (h : w.Alike w') :
    EndsAlike (deliver G api payload w report) (deliver G api payload w' report) := by
  cases report with
  | error e => exact .error _ h
  | ok r =>
    cases r with
    | none => exact .ok _ (h.record _)
    | some v =>
      simp only [deliver]
      obtain ⟨p, u, u', hv, hv', h⟩ | ⟨e, u, u', hv, hv', h⟩ := (blind_writeValue hG v w w' h).ends
      · rw [hv, hv']
        exact .ok _ (h.record _)
      · rw [hv, hv']
        exact .error _ h

include hG in
theorem finish_alike (report : Report) (h : w.Alike w')
    (hq : w.context api.slot = w'.context api.slot) :
    EndsAlike (finish G api payload rest report w) (finish G api payload rest report w') := by
  obtain ⟨⟨⟩, v, v', hy, hy', h⟩ | ⟨e, v, v', hy, hy', h⟩ := (reconcile_alike report h hq).ends
  · rw [finish_of_settled hy, finish_of_settled hy']
    exact deliver_alike hG report h
  · rw [finish_of_unsettled hy, finish_of_unsettled hy']
    exact .error e h

include hG in
theorem conclude_alike (h : w.Alike w') (r : EStateM.Result (Stop HostError) Quota (Option Value)) :
    EndsAlike (conclude G api payload rest w r) (conclude G api payload rest w' r) := by
  cases r with
  | ok v left => exact finish_alike hG _ (h.setContext _ _ _) (h.context_setContext _ _)
  | error e left =>
    cases e with
    | error e => exact finish_alike hG _ (h.setContext _ _ _) (h.context_setContext _ _)
    | panic => exact .error _ (h.setContext _ _ _)
    | unanswered => exact .error _ (h.setContext _ _ _)

include hG in
theorem blind_runCharged (values : List Value) : Act.Blind (runCharged G api payload values) := by
  intro w w' h
  rw [runCharged_eq, runCharged_eq, ← h.guest]
  cases G.meter.remaining w.guest with
  | error e => exact .error _ h
  | ok left =>
    dsimp only
    rw [← h.context_setContext api.slot (left / G.meter.multiplier).toUInt64]
    exact conclude_alike hG (h.setContext _ _ _) _

include hG in
/-- A host call does not depend on what budgets held before it. -/
theorem blind_dispatch (ps : List Pointer) : Act.Blind (dispatch G api ps) := by
  intro w w' h
  rw [dispatch_eq, dispatch_eq, ← h.guest]
  cases G.memory.readValues w.guest ps with
  | error e => exact .error _ h
  | ok vs =>
    dsimp only
    cases api.collect G.meter (payloadOf (totalBody vs)) w.guest with
    | error e g => exact .error _ (h.setGuest g)
    | ok u g => exact blind_runCharged hG _ _ _ (h.setGuest g)

end

end AspectHost
