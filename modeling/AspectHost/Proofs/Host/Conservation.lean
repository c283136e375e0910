import AspectHost.Proofs.Host.Course

/-! # Host calls conserve gas

A host call takes its dues and the outer units that its function spent, and nothing else: the rest of a
division by the multiplier goes into the call and comes out of it again (`dispatch_conserves`). So the
counter after a run of calls is off by the sum of their bills (`Calls.conserved`). -/

namespace AspectHost

variable {γ : Type}

/-- What one host call costs. -/
structure Bill where
  /-- What the rule takes, in guest units. -/
  dues : Int64
  /-- The budget that the function starts with. -/
  quota : Quota
  /-- What is left of it when the function ends. -/
  left : Quota
  deriving DecidableEq

namespace Bill

def none : Bill := ⟨0, 0, 0⟩

/-- The amount of a bill, in guest units. -/
def total (multiplier : Int64) (b : Bill) : Int :=
  b.dues.toInt + multiplier.toInt * (b.quota.toNat - b.left.toNat)

/-- A function that starts with all whole outer units gives back what it leaves of them; the rest of the
division was never its own. -/
theorem total_whole {m gas : Int64} (hm : 0 < m.toInt) (h0 : 0 ≤ gas.toInt) (dues : Int64)
    (left : Quota) :
    total m ⟨dues, (gas / m).toUInt64, left⟩ =
      dues.toInt + gas.toInt - (left.toNat * m.toInt + (gas % m).toInt) := by
  have hsplit := Int.mul_ediv_add_emod gas.toInt m.toInt
  simp only [total]
  rw [Word.toNat_div h0 hm, Word.toInt_mod h0, Int.mul_sub, Int.mul_comm m.toInt (left.toNat : Int)]
  omega

end Bill

/-- The bill of a host call. Arguments that do not decode cost nothing. -/
def Guest.bill (G : Guest γ) (api : LinkedApi) (ps : List Pointer) (w : World γ) : Bill :=
  match G.memory.readValues w.guest ps with
  | .error _ => .none
  | .ok vs =>
    let payload := payloadOf (totalBody vs)
    match api.dues payload, api.collect G.meter payload w.guest with
    | some k, .ok () s =>
      match G.meter.remaining s with
      | .ok gas =>
        let quota := (gas / G.meter.multiplier).toUInt64
        ⟨k, quota, Act.finalState (api.function.call (vs.map Prod.fst) quota)⟩
      | .error _ => .none
    | _, _ => .none

/-- Gas ran out, or over what a meter takes. -/
def HostError.isGasLimit : HostError → Bool
  | .outOfGas => true
  | .gasOverflow _ => true
  | _ => false

/-- The call came back, and not because of gas. A call whose function broke off never comes back. -/
inductive Returned {α : Type} : EStateM.Result (Stop HostError) (World γ) α → Prop
  | ok (a : α) (w : World γ) : Returned (.ok a w)
  | error {e : HostError} (other : e.isGasLimit = false) (w : World γ) :
    Returned (.error (.error e) w)

instance {α : Type} : (r : EStateM.Result (Stop HostError) (World γ) α) → Decidable (Returned r)
  | .ok a w => .isTrue (.ok a w)
  | .error (.error e) w =>
    if h : e.isGasLimit = false then .isTrue (.error h w) else .isFalse fun | .error h' _ => h h'
  | .error .panic _ => .isFalse nofun
  | .error .unanswered _ => .isFalse nofun

/-- A run of host calls that all returned, with what each of them cost. -/
inductive Calls (G : Guest γ) : World γ → List Bill → World γ → Prop
  | nil (w : World γ) : Calls G w [] w
  | cons {w w' : World γ} {api : LinkedApi} {ps : List Pointer} {bills : List Bill}
    (slot : api.slot < w.contexts.size) (returned : Returned (dispatch G api ps w))
    (rest : Calls G (Act.finalState (dispatch G api ps w)) bills w') :
    Calls G w (G.bill api ps w :: bills) w'

section

variable {G : Guest γ} {content : γ → Except MemoryError Bytes} (hG : G.Lawful content)
  {api : LinkedApi} {ps : List Pointer} {w : World γ} {c : Int64}

include hG

/-- What happens after a budget is settled costs nothing. -/
theorem counter_deliver (hA : G.Frugal) (payload : Int64) (report : Report) :
    G.meter.counter (Act.finalState (deliver G api payload w report)).guest =
      G.meter.counter w.guest := by
  cases report with
  | error e => rfl
  | ok r =>
    cases r with
    | none => rfl
    | some v =>
      have hv := hG.counter_writeValue hA v w
      unfold deliver
      cases hw : G.writeValue v w with
      | error e w' =>
        rw [hw] at hv
        simp only [hw]
        exact hv
      | ok p w' =>
        rw [hw] at hv
        simp only [hw]
        exact hv

/-- A call that returns leaves the outer units of its function and the rest. -/
theorem finish_conserves (hA : G.Frugal) {payload rest : Int64} {report : Report}
    (hc : G.meter.counter w.guest = .ok c) (hr : 0 ≤ rest.toInt)
    (hret : Returned (finish G api payload rest report w)) :
    ∃ g, G.meter.counter (Act.finalState (finish G api payload rest report w)).guest = .ok g ∧
      g.toInt = (w.context api.slot).toNat * G.meter.multiplier.toInt + rest.toInt ∧
      g.toInt ≤ G.meter.capacity := by
  by_cases hspent : report.isOk = false ∧ w.context api.slot = 0
  · obtain ⟨s, hs, -⟩ := hG.reconcile_of_spent api rest hc hspent
    rw [finish_of_unsettled hs] at hret
    cases hret with
    | error other => cases other
  · rcases Int.lt_or_le G.meter.capacity
      ((w.context api.slot).toNat * G.meter.multiplier.toInt + rest.toInt) with hover | hcap
    · obtain ⟨t, ht⟩ := hG.reconcile_of_lt hr hspent hover
      rw [finish_of_unsettled ht] at hret
      cases hret with
      | error other => cases other
    · obtain ⟨g, s, hg, hs, -, hrec⟩ := hG.reconcile_of_le hr hspent hc hcap
      refine ⟨g, ?_, hg, hg ▸ hcap⟩
      rw [finish_of_settled hs, counter_deliver hG hA]
      exact hrec.counter

theorem conclude_conserves (hA : G.Frugal) {payload rest : Int64}
    (hslot : api.slot < w.contexts.size) (hc : G.meter.counter w.guest = .ok c) (hr : 0 ≤ rest.toInt)
    {r : EStateM.Result (Stop HostError) Quota (Option Value)}
    (hret : Returned (conclude G api payload rest w r)) :
    ∃ g, G.meter.counter (Act.finalState (conclude G api payload rest w r)).guest = .ok g ∧
      g.toInt = (Act.finalState r).toNat * G.meter.multiplier.toInt + rest.toInt ∧
      g.toInt ≤ G.meter.capacity := by
  cases r with
  | ok v left =>
    simp only [conclude] at hret ⊢
    have h := finish_conserves hG hA (w := w.setContext api.slot left) hc hr hret
    rwa [World.context_setContext _ hslot] at h
  | error e left =>
    cases e with
    | error e =>
      simp only [conclude] at hret ⊢
      have h := finish_conserves hG hA (w := w.setContext api.slot left) hc hr hret
      rwa [World.context_setContext _ hslot] at h
    | panic => cases hret
    | unanswered => cases hret

/-- One call takes its bill off the counter. -/
theorem dispatch_conserves (hA : G.Frugal) (hslot : api.slot < w.contexts.size)
    (hc : G.meter.counter w.guest = .ok c) (h0 : 0 ≤ c.toInt) (hcap : c.toInt ≤ G.meter.capacity)
    (hret : Returned (dispatch G api ps w)) :
    ∃ g, G.meter.counter (Act.finalState (dispatch G api ps w)).guest = .ok g ∧
      g.toInt = c.toInt - (G.bill api ps w).total G.meter.multiplier ∧
      0 ≤ g.toInt ∧ g.toInt ≤ G.meter.capacity := by
  have hm := hG.multiplier_pos
  cases hvs : G.memory.readValues w.guest ps with
  | error e =>
    have hd := dispatch_eq G api ps w
    simp only [hvs] at hd
    rw [hd]
    refine ⟨c, hc, ?_, h0, hcap⟩
    simp [Guest.bill, hvs, Bill.total, Bill.none]
  | ok vs =>
    obtain ⟨k, c₁, s, hk, hk0, hkc, hc0, hs, hrec⟩ | ⟨-, s, hs, -⟩ :=
      hG.collect_cases api (payloadOf (totalBody vs)) hc h0
    · have hl := GasMeter.remaining_of_nonneg hrec.counter hc0
      have hd := dispatch_of_collected hvs hs hl
      -- The counter splits into the quota, which the function may spend, and a rest that it never sees.
      have hr0 := Word.mod_nonneg hc0 hm
      have hbill : G.bill api ps w = ⟨k, (c₁ / G.meter.multiplier).toUInt64, Act.finalState
          (api.function.call (vs.map Prod.fst) (c₁ / G.meter.multiplier).toUInt64)⟩ := by
        simp only [Guest.bill, hvs, hk, hs, hl]
      simp only [World.context_setContext (w := { w with guest := s }) hslot] at hd
      rw [hd] at hret
      obtain ⟨g, hg, hgi, hgcap⟩ := conclude_conserves hG hA (by simpa using hslot) hrec.counter hr0 hret
      have hnn : 0 ≤ (Act.finalState (api.function.call (vs.map Prod.fst)
          (c₁ / G.meter.multiplier).toUInt64)).toNat * G.meter.multiplier.toInt :=
        Int.mul_nonneg (Int.natCast_nonneg _) (Int.le_of_lt hm)
      refine ⟨g, hd ▸ hg, ?_, by omega, hgcap⟩
      rw [hbill, Bill.total_whole hm hc0]
      omega
    · have hd := dispatch_eq G api ps w
      simp only [hvs, hs] at hd
      rw [hd] at hret
      cases hret with
      | error other => cases other

/-- **Gas is conserved.** Over any run of host calls the counter goes down by what the calls cost,
exactly, and stays an amount that the meter takes. -/
theorem Calls.conserved (hA : G.Frugal) (hc : G.meter.counter w.guest = .ok c) (h0 : 0 ≤ c.toInt)
    (hcap : c.toInt ≤ G.meter.capacity) {bills : List Bill} {w' : World γ} (h : Calls G w bills w') :
    ∃ c', G.meter.counter w'.guest = .ok c' ∧
      c'.toInt = c.toInt - (bills.map (Bill.total G.meter.multiplier)).sum ∧
      0 ≤ c'.toInt ∧ c'.toInt ≤ G.meter.capacity := by
  -- The range of the counter is what carries the induction: only there is a division exact.
  induction h generalizing c with
  | nil w => exact ⟨c, hc, by simp, h0, hcap⟩
  | cons slot returned rest ih =>
    obtain ⟨g, hg, hgi, hg0, hgcap⟩ := dispatch_conserves hG hA slot hc h0 hcap returned
    obtain ⟨c', hc', hci, hc0', hcap'⟩ := ih hg hg0 hgcap
    refine ⟨c', hc', ?_, hc0', hcap'⟩
    rw [hci, hgi, List.map_cons, List.sum_cons]
    omega

end

/-- A function of one flag that spends two outer units. -/
def spender : LinkedApi where
  name := "m::n.spend"
  slot := 0
  function := ⟨⟨[.bool], [], false⟩, fun _ quota => .ok none (quota - 2)⟩
  rule := .fixed 7

def flagged : World Buffer := Buffer.holding (.bool true) 0 1050

/-- One call is served and pays; the pointer of the next is bad, and nothing is charged. -/
theorem Calls.conserved_spender :
    ∃ w c, Calls (Buffer.guest 100) flagged [⟨7, 10, 8⟩, ⟨0, 0, 0⟩] w ∧
      (Buffer.guest 100).meter.counter w.guest = .ok c ∧ c.toInt = 843 := by
  have served : Returned (dispatch (Buffer.guest 100) spender [16] flagged) := by decide +kernel
  have paid : (Buffer.guest 100).bill spender [16] flagged = ⟨7, 10, 8⟩ := by decide +kernel
  obtain ⟨w, hw⟩ : ∃ w, w = Act.finalState (dispatch (Buffer.guest 100) spender [16] flagged) :=
    ⟨_, rfl⟩
  have refused : Returned (dispatch (Buffer.guest 100) spender [90] w) := by
    rw [hw]
    decide +kernel
  have unpaid : (Buffer.guest 100).bill spender [90] w = ⟨0, 0, 0⟩ := by
    rw [hw]
    decide +kernel
  have slot : spender.slot < w.contexts.size := by
    rw [hw]
    decide +kernel
  obtain ⟨w', h⟩ : ∃ w', Calls (Buffer.guest 100) flagged [⟨7, 10, 8⟩, ⟨0, 0, 0⟩] w' := by
    subst hw
    rw [← paid, ← unpaid]
    exact ⟨_, .cons (by decide) served (.cons slot refused (.nil _))⟩
  have frugal : (Buffer.guest 100).Frugal := Buffer.frugal 100
  obtain ⟨c, hc, hci, -⟩ := Calls.conserved (Buffer.lawful (by decide)) frugal rfl (by decide)
    (by decide) h
  exact ⟨_, c, h, hc, hci.trans (by decide)⟩

end AspectHost
