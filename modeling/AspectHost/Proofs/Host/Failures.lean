import AspectHost.Proofs.Host.Lifting
import AspectHost.Proofs.Host.Manners
import AspectHost.Proofs.Host.Serving

/-! # The failures of host functions

Whether a function that failed has failed for lack of gas is told by its budget: one that is drained counts
as exhausted. What the dues leave is loaded in whole outer units, so a function that leaves its budget alone
fails on its own account exactly if the dues leave at least one of them (`dispatch_fails_alone`). -/

namespace AspectHost

variable {γ : Type} {G : Guest γ} {content : γ → Except MemoryError Bytes} {api : LinkedApi}
  {ps : List Pointer} {vs : List (Value × Nat)} {w : World γ} {s : γ} {c : Int64}

/-- A function that fails with something left of its budget ends the call with its failure. What it left is
back on the counter. -/
theorem conclude_of_failed (hG : G.Lawful content) (hslot : api.slot < w.contexts.size)
    (payload : Int64) {rest g : Int64} (hc : G.meter.counter w.guest = .ok c) (hr : 0 ≤ rest.toInt)
    (e : HostError) {left : Quota} (hleft : left ≠ 0)
    (hg : g.toInt = left.toNat * G.meter.multiplier.toInt + rest.toInt)
    (hcap : g.toInt ≤ G.meter.capacity) :
    ∃ w', conclude G api payload rest w (.error (.error e) left) = .error (.error e) w' ∧
      G.Recounted content g w.guest w'.guest := by
  have hcontext := w.context_setContext hslot left
  have hkept : ¬ ((.error e : Report).isOk = false ∧ (w.setContext api.slot left).context api.slot = 0) :=
    fun h => hleft (hcontext ▸ h.2)
  obtain ⟨g', s, hg', hs, -, hrec⟩ := hG.reconcile_of_le (w := w.setContext api.slot left) hr hkept hc
    (by rw [hcontext]; omega)
  rw [hcontext, ← hg, Int64.toInt_inj] at hg'
  subst hg'
  exact ⟨_, finish_of_settled hs, hrec⟩

/-- A function that fails with nothing left of its budget has run out of gas. -/
theorem conclude_of_drained (hG : G.Lawful content) (hslot : api.slot < w.contexts.size)
    (payload rest : Int64) (hc : G.meter.counter w.guest = .ok c) (e : HostError) :
    ∃ w', conclude G api payload rest w (.error (.error e) 0) = .error (.error .outOfGas) w' ∧
      G.Recounted content GasMeter.exhausted w.guest w'.guest := by
  have hspent : (.error e : Report).isOk = false ∧ (w.setContext api.slot 0).context api.slot = 0 :=
    ⟨rfl, w.context_setContext hslot 0⟩
  obtain ⟨s, hs, hrec⟩ := hG.reconcile_of_spent (w := w.setContext api.slot 0) api rest hc hspent
  exact ⟨_, finish_of_unsettled hs, hrec⟩

/-- Dues that were taken are no debt. -/
theorem dues_nonneg (hG : G.Lawful content) (hc : G.meter.counter w.guest = .ok c) (h0 : 0 ≤ c.toInt)
    {payload k : Int64} (hs : api.collect G.meter payload w.guest = .ok () s)
    (hk : api.dues payload = some k) : 0 ≤ k.toInt := by
  obtain ⟨k', -, -, hk', hnonneg, -⟩ | ⟨-, s', hs', -⟩ := hG.collect_cases api payload hc h0
  · cases hk.symm.trans hk'
    exact hnonneg
  · rw [hs] at hs'
    cases hs'

/-- **A host function's own failure stays its own** while the dues leave at least one outer unit: the call
fails with it, and the counter shows what the dues left. With less the function starts on a drained budget,
and its failure counts as a lack of gas. -/
theorem dispatch_fails_alone (hG : G.Lawful content) (hslot : api.slot < w.contexts.size)
    (hc : G.meter.counter w.guest = .ok c) (h0 : 0 ≤ c.toInt) (hcap : c.toInt ≤ G.meter.capacity)
    (hvs : ps.map (G.memory.readValue · w.guest) = vs.map .ok)
    (hs : api.collect G.meter (payloadOf (totalBody vs)) w.guest = .ok () s) :
    ∃ k c', api.dues (payloadOf (totalBody vs)) = some k ∧ c'.toInt = c.toInt - k.toInt ∧ 0 ≤ c'.toInt ∧
      ∀ e q, e.Reported → (q.toNat : Int) = c'.toInt / G.meter.multiplier.toInt →
        api.function.call (vs.map Prod.fst) q = .error (.error e) q →
        (G.meter.multiplier.toInt ≤ c'.toInt → e ≠ .outOfGas ∧
          ∃ w', dispatch G api ps w = .error (.error e) w' ∧ G.Recounted content c' w.guest w'.guest) ∧
        (c'.toInt < G.meter.multiplier.toInt →
          ∃ w', dispatch G api ps w = .error (.error .outOfGas) w' ∧
            G.Recounted content GasMeter.exhausted w.guest w'.guest) := by
  have hm := hG.multiplier_pos
  have hread := GuestMemory.readValues_eq_ok_iff.mpr hvs
  obtain ⟨k, c', hk, hkc, hc0, hrec, hquota, hcall⟩ := dispatch_loads hG hslot hc h0 hread hs
  have hslot' : api.slot < (loaded G api c' s w).contexts.size := by
    rwa [loaded, World.size_setContext]
  have hd := hcall api.function
  have hk0 := dues_nonneg hG hc h0 hs hk
  refine ⟨k, c', hk, hkc, hc0, ?_⟩
  intro e q he hq hfails
  have hload : (loaded G api c' s w).context api.slot = q := UInt64.toNat_inj.mp (by omega)
  rw [hload, hfails] at hd
  constructor
  · intro hle
    have hone : 1 ≤ c'.toInt / G.meter.multiplier.toInt := (Int.le_ediv_iff_mul_le hm).mpr (by omega)
    have hleft : q ≠ 0 := by
      rintro rfl
      rw [← hq] at hone
      exact absurd hone (by decide)
    have hsplit := Int.ediv_mul_add_emod c'.toInt G.meter.multiplier.toInt
    obtain ⟨w', hw', hrec'⟩ := conclude_of_failed (g := c') hG hslot' (payloadOf (totalBody vs))
      hrec.counter (Word.mod_nonneg hc0 hm) e hleft (by rw [hq, Word.toInt_mod hc0]; omega) (by omega)
    exact ⟨he.ne_outOfGas, w', hd.trans hw', hrec'.counter, hrec'.content.trans hrec.content⟩
  · intro hlt
    have hzero : q = 0 := by
      apply UInt64.toNat_inj.mp
      rw [Int.ediv_eq_zero_of_lt hc0 hlt] at hq
      simpa using hq
    subst hzero
    obtain ⟨w', hw', hrec'⟩ := conclude_of_drained hG hslot' (payloadOf (totalBody vs))
      (c' % G.meter.multiplier) hrec.counter e
    exact ⟨w', hd.trans hw', hrec'.counter, hrec'.content.trans hrec.content⟩

/-- Refuses whatever flag it is given, and leaves its budget alone. -/
def refuser : LinkedApi where
  name := "m::n.refuse"
  slot := 0
  function := .dynamic ⟨[.bool], [], true⟩ fun _ => Act.fail "rejected"
  rule := .fixed 7

theorem refuser_call (b : Bool) (q : Quota) :
    refuser.function.call [.bool b] q = .error (.error (.hostFunction "rejected")) q := rfl

/-- The values that the refuser is called with can be read. -/
theorem reads_flag (gas : Int64) :
    [16].map ((Buffer.guest 100).memory.readValue · (Buffer.holding (.bool true) 0 gas).guest) =
      [(Value.bool true, 1)].map .ok :=
  congrArg (fun r => [r]) (Buffer.readValue_holding (by decide) 0 gas 100)

theorem collect_refuser (gas : Int64) (h : 7 ≤ gas.toInt) :
    ∃ s, refuser.collect (Buffer.guest 100).meter (payloadOf (totalBody [(Value.bool true, 1)]))
      (Buffer.holding (.bool true) 0 gas).guest = .ok () s := by
  have hk : refuser.rule.cost? (payloadOf 1) = some 7 := rfl
  have hc : (Buffer.guest 100).meter.counter (Buffer.holding (.bool true) 0 gas).guest = .ok gas := rfl
  exact ⟨_, (GasRule.charge_of_le hk hc (by decide) h).trans rfl⟩

theorem dispatch_fails_alone_refuser :
    ∃ w', dispatch (Buffer.guest 100) refuser [16] (Buffer.holding (.bool true) 0 1050) =
        .error (.error (.hostFunction "rejected")) w' ∧
      (Buffer.guest 100).meter.counter w'.guest = .ok 1043 := by
  obtain ⟨s, hs⟩ := collect_refuser 1050 (by decide)
  obtain ⟨k, c', hk, hc', -, hends⟩ := dispatch_fails_alone (Buffer.lawful (by decide)) (by decide) rfl
    (by decide) (by decide) (reads_flag 1050) hs
  cases hk
  have hc' : c' = 1043 := Int64.toInt_inj.mp (hc'.trans (by decide))
  subst hc'
  obtain ⟨-, w', hw', hrec⟩ := (hends _ 10 (.text _) (by decide) (refuser_call true 10)).1 (by decide)
  exact ⟨w', hw', hrec.counter⟩

/-- With fifty guest units left, the same failure counts as a lack of gas and takes them. -/
theorem refuser_drained :
    0 ≤ (57 : Int64).toInt ∧ (57 : Int64).toInt ≤ (Buffer.guest 100).meter.capacity ∧
    (Buffer.guest 100).meter.counter (Buffer.holding (.bool true) 0 57).guest = .ok 57 ∧
    (Buffer.guest 100).memory.readValue 16 (Buffer.holding (.bool true) 0 57).guest =
      .ok (.bool true, 1) ∧
    refuser.dues (payloadOf (totalBody [(.bool true, 1)])) = some 7 ∧
    (∃ s, refuser.collect (Buffer.guest 100).meter (payloadOf (totalBody [(.bool true, 1)]))
      (Buffer.holding (.bool true) 0 57).guest = .ok () s) ∧
    (∀ q, refuser.function.call [.bool true] q = .error (.error (.hostFunction "rejected")) q) ∧
    (¬ ∃ w', dispatch (Buffer.guest 100) refuser [16] (Buffer.holding (.bool true) 0 57) =
      .error (.error (.hostFunction "rejected")) w') ∧
    ∃ w', dispatch (Buffer.guest 100) refuser [16] (Buffer.holding (.bool true) 0 57) =
        .error (.error .outOfGas) w' ∧
      (Buffer.guest 100).meter.counter w'.guest = .ok GasMeter.exhausted := by
  have hread : (Buffer.guest 100).memory.readValue 16 (Buffer.holding (.bool true) 0 57).guest =
      .ok (.bool true, 1) := Buffer.readValue_holding (by decide) 0 57 100
  have hdrained : ∃ w', dispatch (Buffer.guest 100) refuser [16] (Buffer.holding (.bool true) 0 57) =
      .error (.error .outOfGas) w' ∧
    (Buffer.guest 100).meter.counter w'.guest = .ok GasMeter.exhausted := ⟨_, rfl, rfl⟩
  refine ⟨by decide, by decide, rfl, hread, rfl, collect_refuser 57 (by decide), refuser_call true, ?_,
    hdrained⟩
  rintro ⟨w', hw'⟩
  obtain ⟨w'', hw'', -⟩ := hdrained
  rw [hw''] at hw'
  cases hw'

end AspectHost
