import AspectHost.Proofs.Host.Lifting
import AspectHost.Proofs.Host.Serving
import AspectHost.Proofs.Metering

/-! # Host calls and the counter agree on exhaustion

An operation of a meter that fails for anything but a lack of gas leaves the meter alone. So a host call on
a solvent meter leaves it solvent, unless it says that gas ran out (`serve_solvent`); the converse is
`serve_settles`. A host call on an exhausted meter does not get as far as its function
(`dispatch_of_spent`). -/

namespace AspectHost

namespace GasMeter

variable {σ : Type} {m : GasMeter σ} {sound : σ → Prop} {s s' : σ} {e : GasError} {g : Int64} {u : Unit}

/-- The counter can be read, and is not exhausted. -/
def Solvent (m : GasMeter σ) (s : σ) : Prop := ∃ c, m.counter s = .ok c ∧ 0 ≤ c.toInt

theorem exhaust_eq_error (h : (do m.put exhausted; throw .outOfGas : GasM σ Unit) s = .error e s') :
    e = .outOfGas ∨ s' = s := by
  cases hput : m.put exhausted s with
  | ok u s₁ =>
    rw [Act.bind_of_ok hput] at h
    cases h
    exact .inl rfl
  | error e₁ s₁ =>
    rw [Act.bind_of_error hput] at h
    cases h
    exact .inr (put_eq_error hput).2

theorem exhaust_ne_ok : (do m.put exhausted; throw .outOfGas : GasM σ Unit) s ≠ .ok u s' := by
  intro h
  cases hput : m.put exhausted s with
  | ok u s₁ =>
    rw [Act.bind_of_ok hput] at h
    cases h
  | error e s₁ =>
    rw [Act.bind_of_error hput] at h
    cases h

theorem consume_eq_error (h : m.consume g s = .error e s') : e = .outOfGas ∨ s' = s := by
  obtain ⟨e₁, -, hend⟩ | ⟨c, -, ⟨-, hend⟩ | ⟨-, hend⟩ | ⟨-, -, hend⟩⟩ := m.consume_cases s g <;>
    rw [hend] at h
  · cases h
    exact .inr rfl
  · cases h
    exact .inl rfl
  · exact exhaust_eq_error h
  · exact .inr (put_eq_error h).2

theorem set_eq_error (h : m.set g s = .error e s') : s' = s := by
  unfold set at h
  split at h
  · exact (put_eq_error h).2
  · split at h
    · cases h
      rfl
    · exact (put_eq_error h).2

theorem charge_eq_error {r : GasRule} {payload : Int64} (h : r.charge m payload s = .error e s') :
    e = .outOfGas ∨ s' = s := by
  unfold GasRule.charge at h
  cases hk : r.cost? payload with
  | none =>
    rw [hk] at h
    exact exhaust_eq_error h
  | some k =>
    rw [hk] at h
    exact consume_eq_error h

namespace Sturdy

variable (hm : m.Sturdy sound) (hs : sound s)

include hm hs

/-- Only a meter that covers the amount has it taken off. -/
theorem solvent_of_consume (h : m.consume g s = .ok u s') : m.Solvent s' := by
  obtain ⟨e, -, hend⟩ | ⟨c, -, ⟨-, hend⟩ | ⟨-, hend⟩ | ⟨hg0, hgc, hend⟩⟩ := m.consume_cases s g <;>
    rw [hend] at h
  · cases h
  · cases h
  · exact absurd h exhaust_ne_ok
  · have hsub := Word.toInt_sub hg0 hgc
    have hput := hm.put hs (g := c - g) (by omega)
    rw [h] at hput
    exact ⟨_, hput.of_ok.2, by omega⟩

theorem solvent_of_charge {r : GasRule} {payload : Int64} (h : r.charge m payload s = .ok u s') :
    m.Solvent s' := by
  unfold GasRule.charge at h
  cases hk : r.cost? payload with
  | none =>
    simp only [hk] at h
    exact absurd h exhaust_ne_ok
  | some k =>
    rw [hk] at h
    exact hm.solvent_of_consume hs h

end Sturdy
end GasMeter

variable {γ : Type} {G : Guest γ} {sound : γ → Prop} {s s' : γ} {w : World γ} (api : LinkedApi)

/-! ## Solvent meters -/

variable {api} in
theorem collect_eq_error {e : GasError} {payload : Int64}
    (h : api.collect G.meter payload s = .error e s') : e = .outOfGas ∨ s' = s := by
  unfold LinkedApi.collect at h
  split at h
  · exact GasMeter.charge_eq_error h
  · cases h

section

variable (hG : G.meter.Sturdy sound)

include hG

variable {api} in
theorem solvent_of_collect (hs : sound s) (hsolvent : G.meter.Solvent s) {payload : Int64} {u : Unit}
    (h : api.collect G.meter payload s = .ok u s') : G.meter.Solvent s' := by
  unfold LinkedApi.collect at h
  split at h
  · exact hG.solvent_of_charge hs h
  · cases h
    exact hsolvent

theorem settle_solvent (hs : sound w.guest) (hsolvent : G.meter.Solvent w.guest) (payload : Int64)
    {rest : Int64} (hrest : 0 ≤ rest.toInt) (report : Report) :
    Act.Ends (fun _ w' => G.meter.Solvent w'.guest)
      (fun e w' => e ≠ .error .outOfGas → G.meter.Solvent w'.guest)
      (settle G api payload rest report w) := by
  have hreconcile : Act.Ends (fun _ w' => G.meter.Solvent w'.guest)
      (fun e w' => e ≠ .error .outOfGas → G.meter.Solvent w'.guest) (reconcile G api rest report w) := by
    rw [reconcile_eq]
    split
    · refine Act.Ends.bind (P := fun _ _ => True) ?_ fun _ w' _ => .error fun he => absurd rfl he
      unfold metered
      cases hset : G.meter.set GasMeter.exhausted (w.record (.hostCallOutOfGas api.name)).guest with
      | ok u g => exact .ok trivial
      | error e g =>
        cases GasMeter.set_eq_error hset
        exact .error fun _ => hsolvent
    · split
      · exact .error fun _ => hsolvent
      · rename_i gas hgas
        have hgas := (reconciled?_eq_some_iff hG.multiplier_pos hrest).mp hgas
        have hleft : 0 ≤ ((w.context api.slot).toNat : Int) * G.meter.multiplier.toInt :=
          Int.mul_nonneg (by omega) (Int.le_of_lt hG.multiplier_pos)
        have hnonneg : 0 ≤ gas.toInt := by omega
        have hstored := hG.set hs hnonneg
        unfold metered
        cases hset : G.meter.set gas w.guest with
        | ok u g =>
          rw [hset] at hstored
          exact .ok ⟨gas, hstored.of_ok.2, hnonneg⟩
        | error e g =>
          cases GasMeter.set_eq_error hset
          exact .error fun _ => hsolvent
  unfold settle
  refine hreconcile.bind fun _ w' hw' => ?_
  cases report with
  | ok v => exact .ok hw'
  | error e => exact .error fun _ => hw'

theorem answer_solvent (hs : sound w.guest) (hsolvent : G.meter.Solvent w.guest) (payload : Int64)
    {rest : Int64} (hrest : 0 ≤ rest.toInt) (r : EStateM.Result (Stop HostError) Quota (Option Value)) :
    Act.Ends (fun _ w' => G.meter.Solvent w'.guest)
      (fun e w' => e ≠ .error .outOfGas → G.meter.Solvent w'.guest) (answer G api payload rest w r) := by
  cases r with
  | ok v q => exact settle_solvent api (w := w.setContext api.slot q) hG hs hsolvent payload hrest _
  | error e q =>
    cases e with
    | error e => exact settle_solvent api (w := w.setContext api.slot q) hG hs hsolvent payload hrest _
    | panic => exact .error fun _ => hsolvent
    | unanswered => exact .error fun _ => hsolvent

/-- Serving a host call leaves a solvent meter solvent, unless it says that gas ran out. -/
theorem serve_solvent (hs : sound w.guest) (hsolvent : G.meter.Solvent w.guest) (ps : List Pointer) :
    Act.Ends (fun _ w' => G.meter.Solvent w'.guest)
      (fun e w' => e ≠ .error .outOfGas → G.meter.Solvent w'.guest) (serve G api ps w) := by
  unfold serve
  cases G.memory.readValues w.guest ps with
  | error e => exact .error fun _ => hsolvent
  | ok vs =>
    dsimp only
    have hcollect := collect_settles hG api hs (payloadOf (totalBody vs))
    cases hr : api.collect G.meter (payloadOf (totalBody vs)) w.guest with
    | error e g =>
      refine .error fun he => ?_
      obtain rfl | rfl := collect_eq_error hr
      · exact absurd rfl he
      · exact hsolvent
    | ok u g =>
      rw [hr] at hcollect
      have hg := solvent_of_collect hG hs hsolvent hr
      obtain ⟨c, hc, hnonneg⟩ := hg
      dsimp only
      rw [GasMeter.remaining_of_nonneg hc hnonneg]
      exact answer_solvent api hG hcollect.of_ok.1 ⟨c, hc, hnonneg⟩ _
        (Word.mod_nonneg hnonneg hG.multiplier_pos) _

end

/-! ## Exhausted meters -/

/-- Dues can only leave an exhausted meter exhausted, and what they leave cannot be spent. -/
theorem collect_of_spent (hG : G.meter.Sturdy sound) (hs : sound s) (hspent : G.meter.Spent s)
    (payload : Int64) :
    Act.Ends (fun _ s' => s' = s)
      (fun _ s' => G.meter.Spent s' ∧ (s' = s ∨ G.meter.store GasMeter.exhausted s = .ok s'))
      (api.collect G.meter payload s) := by
  unfold LinkedApi.collect
  split
  · unfold GasRule.charge
    cases api.rule.cost? payload with
    | some k =>
      obtain ⟨c, hc, hneg⟩ := hspent
      dsimp only
      rw [GasMeter.consume_of_neg hc hneg]
      exact .error ⟨⟨c, hc, hneg⟩, .inl rfl⟩
    | none =>
      dsimp only
      cases hstore : G.meter.store GasMeter.exhausted s with
      | error e =>
        have hput : G.meter.put GasMeter.exhausted s = .error e s := by simp only [GasMeter.put, hstore]
        rw [Act.bind_of_error hput]
        exact .error ⟨hspent, .inl rfl⟩
      | ok s' =>
        rw [Act.bind_of_ok (GasMeter.put_of_ok hstore)]
        exact .error ⟨.of_exhausted (hG.store hs (by decide) hstore).2, .inr rfl⟩
  · exact .ok rfl

/-- A host call on an exhausted meter fails before its function runs, whatever the function is, and all that
it can change is the counter. -/
theorem dispatch_of_spent (hG : G.meter.Sturdy sound) (hs : sound w.guest) (hspent : G.meter.Spent w.guest)
    (ps : List Pointer) :
    ∃ e s', (∀ f, dispatch G { api with function := f } ps w = .error (.error e) { w with guest := s' }) ∧
      G.meter.Spent s' ∧ (s' = w.guest ∨ G.meter.store GasMeter.exhausted w.guest = .ok s') := by
  cases hvs : G.memory.readValues w.guest ps with
  | error e =>
    refine ⟨e, w.guest, fun f => ?_, hspent, .inl rfl⟩
    rw [dispatch_eq, hvs]
  | ok vs =>
    have hcollect := collect_of_spent api hG hs hspent (payloadOf (totalBody vs))
    cases hr : api.collect G.meter (payloadOf (totalBody vs)) w.guest with
    | error e s' =>
      rw [hr] at hcollect
      refine ⟨.ofGas e, s', fun f => ?_, hcollect.of_error⟩
      have hr' : LinkedApi.collect { api with function := f } G.meter (payloadOf (totalBody vs)) w.guest =
        .error e s' := hr
      simp only [dispatch_eq, hvs, hr']
    | ok u s' =>
      rw [hr] at hcollect
      cases hcollect.of_ok
      refine ⟨.outOfGas, w.guest, fun f => ?_, hspent, .inl rfl⟩
      have hr' : LinkedApi.collect { api with function := f } G.meter (payloadOf (totalBody vs)) w.guest =
        .ok u w.guest := hr
      simp only [dispatch_eq, hvs, hr', runCharged_eq, hspent.remaining]
      rfl

/-! ## Host calls -/

/-- What the counter shows is what the host stored on it: neither the memory nor what else is `content`
shows in it, nor it in them. -/
structure Guest.Orderly (G : Guest γ) (content : γ → Except MemoryError Bytes) (sound : γ → Prop) :
    Prop where
  sturdy : G.meter.Sturdy sound
  content_store : ∀ {g s s'}, G.meter.store g s = .ok s' → content s' = content s
  counter_write : ∀ {p b s s'}, G.memory.write p b s = .ok s' → G.meter.counter s' = G.meter.counter s

/-- A host call that was served does not run out of gas any more, and hands back at no cost of its own. -/
theorem Guest.Orderly.handBack_ends {content : γ → Except MemoryError Bytes} (hG : G.Orderly content sound)
    (hA : G.Frugal) (v : Option Value) (payload : Int64) (w : World γ) :
    Act.Ends (fun _ w' => G.meter.counter w'.guest = G.meter.counter w.guest)
      (fun e w' => G.meter.counter w'.guest = G.meter.counter w.guest ∧ e ≠ .error .outOfGas)
      (handBack G api (.ok (v, payload) w)) := by
  cases v with
  | none => exact .ok rfl
  | some v =>
    have hallocate : ∀ size, v.room? = some size →
        Act.Ends (fun _ w' => G.meter.counter w'.guest = G.meter.counter w.guest)
          (fun _ w' => G.meter.counter w'.guest = G.meter.counter w.guest) (G.allocate size w) := by
      intro size _
      have hfrugal := hA size w
      cases ha : G.allocate size w with
      | ok p w' =>
        rw [ha] at hfrugal
        exact .ok hfrugal
      | error e w' =>
        rw [ha] at hfrugal
        exact .error hfrugal
    have hend := @Guest.writeValue_ends γ G w v (fun s => G.meter.counter s = G.meter.counter w.guest) rfl
      hallocate fun p b s s' hs h => (hG.counter_write h).trans hs
    simp only [handBack, deliver]
    cases hw : G.writeValue v w with
    | ok p w' =>
      rw [hw] at hend
      exact .ok hend.of_ok
    | error e w' =>
      rw [hw] at hend
      obtain ⟨hkeeps, hmemory⟩ := hend.of_error
      refine .error ⟨hkeeps, fun he => ?_⟩
      obtain ⟨cause, hcause⟩ := hmemory _ he
      cases hcause

theorem Buffer.orderly {m : Int64} (hm : 0 < m.toInt) :
    (Buffer.guest m).Orderly Buffer.content fun _ => True where
  sturdy := {
    multiplier_pos := hm
    store := by
      rintro g s s' - - h
      cases h
      exact ⟨trivial, rfl⟩
    store_ne _ _ := nofun
    counter_ne _ := nofun }
  content_store := by
    rintro g s s' h
    cases h
    rfl
  counter_write := (Buffer.lawful hm).counter_write

/-- The memory does not show the counter, whether that is a global or the fuel. -/
theorem Linked.bytes_store (L : Linked) {g : Int64} {s s' : Wasm.Store} (h : L.meter.store g s = .ok s') :
    L.bytes s' = L.bytes s := by
  unfold meter at h
  dsimp only at h
  split at h
  · obtain ⟨i, -, h⟩ := bind_eq_ok.mp h
    split at h <;> cases h
    rfl
  · cases h
    rfl

/-- **Linked guest code is orderly**, also where the host cannot set its counter. -/
theorem Linked.orderly (L : Linked) (invoke : Linked.Invocation) (hm : 0 < L.config.gas.multiplier.toInt) :
    (L.guest invoke).Orderly L.bytes L.Sound where
  sturdy := L.sturdy hm
  content_store := L.bytes_store
  counter_write := L.counter_write

/-- **A host call and the counter agree on exhaustion.** From a counter that is not negative a host call runs
out of gas exactly if it leaves the counter negative. From a negative one it fails whatever its function is,
leaves the memory and the budgets alone and the counter negative. -/
theorem dispatch_exhausts_iff {api : LinkedApi} {content : γ → Except MemoryError Bytes} {c : Int64}
    (hG : G.Orderly content sound) (hA : G.Frugal) (hreports : api.function.Reports) (hs : sound w.guest)
    (hc : G.meter.counter w.guest = .ok c) (ps : List Pointer) :
    (0 ≤ c.toInt → ∃ c', G.meter.counter (Act.finalState (dispatch G api ps w)).guest = .ok c' ∧
      ((∃ w', dispatch G api ps w = .error (.error .outOfGas) w') ↔ c'.toInt < 0)) ∧
    (c.toInt < 0 → ∃ e s', (∀ f, dispatch G { api with function := f } ps w =
        .error (.error e) { w with guest := s' }) ∧
      content s' = content w.guest ∧ G.meter.Spent s') := by
  constructor
  · intro hnonneg
    have hsettles : Act.Ends (fun _ => Served G sound api w.guest) (Unserved G sound api w.guest)
        (serve G api ps w) := serve_settles hG.sturdy hs ps
    have hsolvent := serve_solvent api hG.sturdy hs ⟨c, hc, hnonneg⟩ ps
    rw [dispatch_eq_serve]
    cases hserve : serve G api ps w with
    | error e w' =>
      rw [hserve] at hsettles hsolvent
      by_cases he : e = .error .outOfGas
      · subst he
        obtain ⟨c', hc', hneg⟩ := hsettles.of_error.spent hreports rfl
        exact ⟨c', hc', iff_of_true ⟨w', rfl⟩ hneg⟩
      · obtain ⟨c', hc', hnonneg'⟩ := hsolvent.of_error he
        refine ⟨c', hc', iff_of_false ?_ (by omega)⟩
        rintro ⟨w'', hw''⟩
        cases hw''
        exact he rfl
    | ok x w' =>
      obtain ⟨v, payload⟩ := x
      rw [hserve] at hsolvent
      obtain ⟨c', hc', hnonneg'⟩ := hsolvent.of_ok
      have hback := hG.handBack_ends api hA v payload w'
      cases hr : handBack G api (.ok (v, payload) w') with
      | ok p w'' =>
        rw [hr] at hback
        refine ⟨c', hback.of_ok.trans hc', iff_of_false ?_ (by omega)⟩
        rintro ⟨_, h⟩
        cases h
      | error e w'' =>
        rw [hr] at hback
        refine ⟨c', hback.of_error.1.trans hc', iff_of_false ?_ (by omega)⟩
        rintro ⟨_, h⟩
        cases h
        exact hback.of_error.2 rfl
  · intro hneg
    obtain ⟨e, s', hfails, hspent, hstored⟩ := dispatch_of_spent api hG.sturdy hs ⟨c, hc, hneg⟩ ps
    refine ⟨e, s', hfails, ?_, hspent⟩
    obtain rfl | hstored := hstored
    · rfl
    · exact hG.content_store hstored

theorem reports_negator : negator.function.Reports :=
  HostFunction.lower_reports fun b : Bool => (⟨fun _ => .ok (!b) 0⟩ : Computation Empty Bool)

/-- With too little for its dues, and with nothing at all. -/
theorem dispatch_exhausts_iff_negator :
    (∃ c', (Buffer.guest 100).meter.counter
        (Act.finalState (dispatch (Buffer.guest 100) negator [16] (Buffer.holding (.bool true) 9 5))).guest =
          .ok c' ∧
      ((∃ w', dispatch (Buffer.guest 100) negator [16] (Buffer.holding (.bool true) 9 5) =
        .error (.error .outOfGas) w') ↔ c'.toInt < 0)) ∧
    ∃ e s', (∀ f, dispatch (Buffer.guest 100) { negator with function := f } [16]
        (Buffer.holding (.bool true) 9 (-1)) =
          .error (.error e) { Buffer.holding (.bool true) 9 (-1) with guest := s' }) ∧
      Buffer.content s' = Buffer.content (Buffer.holding (.bool true) 9 (-1)).guest ∧
      (Buffer.guest 100).meter.Spent s' :=
  ⟨(dispatch_exhausts_iff (Buffer.orderly (by decide)) (Buffer.frugal 100) reports_negator trivial rfl
      [16]).1 (by decide),
    (dispatch_exhausts_iff (Buffer.orderly (by decide)) (Buffer.frugal 100) reports_negator trivial rfl
      [16]).2 (by decide)⟩

end AspectHost
