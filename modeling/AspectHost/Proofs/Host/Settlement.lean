import AspectHost.Proofs.Host.Conservation
import AspectHost.Proofs.Host.Restraint

/-! # Settling is exact, or refused

When its function ends, a host call turns the outer units that are left, any unsigned word, and what was
beyond whole outer units back into guest units. The counter is set to exactly that if the meter takes as
much (`dispatch_of_taken`); else the call fails, and the guest is left as the dues left it
(`dispatch_of_overflow`). -/

namespace AspectHost

variable {γ : Type} {G : Guest γ} {content : γ → Except MemoryError Bytes} {api : LinkedApi}
  {ps : List Pointer} {vs : List (Value × Nat)} {w : World γ} {s : γ} {c : Int64} {report : Report}
  {left : Quota}

/-- The words that a settlement computes on the way are the integers that they stand for, and it finds what is
due wherever that is a word. -/
structure GasMeter.Accurate (m : GasMeter γ) (c : Int64) (left : Quota) : Prop where
  divisor : m.multiplier ≠ 0
  quota : ((c / m.multiplier).toUInt64.toNat : Int) = c.toInt / m.multiplier.toInt
  rest : (c % m.multiplier).toInt = c.toInt % m.multiplier.toInt
  limit : m.maxOuter.toInt = Word.max / m.multiplier.toInt
  capacity : (m.maxOuter * m.multiplier).toInt = Word.max / m.multiplier.toInt * m.multiplier.toInt
  due : ∀ g, reconciled? m.multiplier (c % m.multiplier) left = some g ↔ g.toInt = m.due c left

theorem GasMeter.accurate {m : GasMeter γ} (hm : 0 < m.multiplier.toInt) (hc : 0 ≤ c.toInt) (left : Quota) :
    m.Accurate c left where
  divisor := multiplier_ne_zero hm
  quota := Word.toNat_div hc hm
  rest := Word.toInt_mod hc
  limit := toInt_maxOuter hm
  capacity := toInt_capacity hm
  due g := by
    rw [reconciled?_eq_some_iff hm (Word.mod_nonneg hc hm), Word.toInt_mod hc]
    rfl

section

variable (hslot : api.slot < w.contexts.size) (hvs : G.memory.readValues w.guest ps = .ok vs)
  (hs : api.collect G.meter (payloadOf (totalBody vs)) w.guest = .ok () s)
  (hc : G.meter.counter s = .ok c) (h0 : 0 ≤ c.toInt)
  (hcall : api.function.call (vs.map Prod.fst) (c / G.meter.multiplier).toUInt64 = Report.ended left report)
  (hleft : ¬ (report.isOk = false ∧ left = 0))

include hslot hvs hs hc h0 hcall hleft

/-- What is due is stored, if the meter takes as much, and the call hands back from there. -/
theorem dispatch_of_taken (hG : G.Lawful content) (htaken : G.meter.due c left ≤ G.meter.capacity) :
    ∃ g s', g.toInt = G.meter.due c left ∧ G.meter.put g s = .ok () s' ∧ G.Recounted content g s s' ∧
      dispatch G api ps w =
        deliver G api (payloadOf (totalBody vs)) { w.setContext api.slot left with guest := s' } report := by
  have hm := hG.multiplier_pos
  have hcontext : ({ w.setContext api.slot left with guest := s } : World γ).context api.slot = left :=
    w.context_setContext hslot left
  obtain ⟨g, s', hg, hend, hput, hrec⟩ := hG.reconcile_of_le
    (w := { w.setContext api.slot left with guest := s }) (Word.mod_nonneg h0 hm) (by rwa [hcontext]) hc
    (by rwa [hcontext, Word.toInt_mod h0])
  rw [hcontext, Word.toInt_mod h0] at hg
  refine ⟨g, s', hg, hput, hrec, ?_⟩
  rw [dispatch_eq_serve, serve_of_ended hslot hvs hs (GasMeter.remaining_of_nonneg hc h0) hcall,
    ← finish_eq_settle, finish_of_settled hend]

/-- More than the meter takes fails the call, whatever the allocator is, and the guest is what the dues
left. -/
theorem dispatch_of_overflow (hm : 0 < G.meter.multiplier.toInt)
    (hover : G.meter.capacity < G.meter.due c left) :
    ∃ t, ∀ allocate, dispatch { G with allocate } api ps w =
      .error (.error (.gasOverflow t)) { w.setContext api.slot left with guest := s } := by
  obtain ⟨t, ht⟩ := serve_of_overflow hslot hvs hs (GasMeter.remaining_of_nonneg hc h0) hcall hm hleft hover
  refine ⟨t, fun allocate => ?_⟩
  have hserve : serve { G with allocate } = serve G := serve_congr rfl rfl
  rw [dispatch_eq_serve, hserve, ht]
  rfl

end

/-- **Settling is exact, or refused.** However much of its budget a function leaves, unless it failed and
left nothing: what is due is computed as over the integers. If the meter takes as much, the counter is set
to exactly that, where it stays if allocating costs nothing. Else the call overflows, and nothing in the
guest has changed since its dues were taken. -/
theorem dispatch_settles (hG : G.Lawful content) (hslot : api.slot < w.contexts.size)
    (hvs : ps.map (G.memory.readValue · w.guest) = vs.map .ok)
    (hs : api.collect G.meter (payloadOf (totalBody vs)) w.guest = .ok () s)
    (hc : G.meter.counter s = .ok c) (h0 : 0 ≤ c.toInt)
    (hcall : api.function.call (vs.map Prod.fst) (c / G.meter.multiplier).toUInt64 = Report.ended left report)
    (hleft : ¬ (report.isOk = false ∧ left = 0)) :
    G.meter.Accurate c left ∧
    (G.meter.due c left ≤ G.meter.capacity →
      ∃ g s', g.toInt = G.meter.due c left ∧ G.meter.put g s = .ok () s' ∧ G.Recounted content g s s' ∧
        dispatch G api ps w =
          deliver G api (payloadOf (totalBody vs)) { w.setContext api.slot left with guest := s' } report ∧
        (G.Frugal → G.meter.counter (Act.finalState (dispatch G api ps w)).guest = .ok g)) ∧
    (G.meter.capacity < G.meter.due c left →
      ∃ t, ∀ allocate, dispatch { G with allocate } api ps w =
        .error (.error (.gasOverflow t)) { w.setContext api.slot left with guest := s }) := by
  have hread := GuestMemory.readValues_eq_ok_iff.mpr hvs
  refine ⟨GasMeter.accurate hG.multiplier_pos h0 left, ?taken,
    dispatch_of_overflow hslot hread hs hc h0 hcall hleft hG.multiplier_pos⟩
  case taken =>
    intro htaken
    obtain ⟨g, s', hg, hput, hrec, hend⟩ := dispatch_of_taken hslot hread hs hc h0 hcall hleft hG htaken
    refine ⟨g, s', hg, hput, hrec, hend, fun hA => ?_⟩
    rw [hend, counter_deliver hG hA]
    exact hrec.counter

/-- The last amount that fits beside fifty guest units, and the next one. -/
theorem dispatch_settles_refueler :
    (∃ g w', dispatch (Buffer.guest 100) refueler [16]
        (Buffer.holding (.uint64 92233720368547757) 0 57) = .ok none w' ∧
      (Buffer.guest 100).meter.counter w'.guest = .ok g ∧ g.toInt = 9223372036854775750) ∧
    ∃ t w', dispatch (Buffer.guest 100) refueler [16]
        (Buffer.holding (.uint64 92233720368547758) 0 57) = .error (.error (.gasOverflow t)) w' ∧
      (Buffer.guest 100).meter.counter w'.guest = .ok 50 := by
  have hfit : ∀ n : UInt64, Header.size + (Value.uint64 n).bodyLength ≤ maxLength :=
    fun _ => Nat.le_of_ble_eq_true rfl
  have hread : ∀ n : UInt64, [16].map ((Buffer.guest 100).memory.readValue ·
      (Buffer.holding (.uint64 n) 0 57).guest) = [(.uint64 n, 8)].map .ok :=
    fun n => congrArg (fun r => [r]) (Buffer.readValue_holding (hfit n) 0 57 100)
  have hpaid : ∀ n : UInt64, refueler.collect (Buffer.guest 100).meter
      (payloadOf (totalBody [(.uint64 n, 8)])) (Buffer.holding (.uint64 n) 0 57).guest =
        .ok () { (Buffer.holding (.uint64 n) 0 57).guest with counter := 50 } := by
    intro n
    have hk : refueler.rule.cost? (payloadOf 8) = some 7 := rfl
    have hc : (Buffer.guest 100).meter.counter (Buffer.holding (.uint64 n) 0 57).guest = .ok 57 := rfl
    exact (GasRule.charge_of_le hk hc (by decide) (by decide)).trans rfl
  have hcall : ∀ (n : UInt64) quota, refueler.function.call [.uint64 n] quota = Report.ended n (.ok none) :=
    fun _ _ => rfl
  have hsettles := fun n => dispatch_settles (c := 50) (Buffer.lawful (by decide)) Nat.one_pos (hread n)
    (hpaid n) rfl (by decide) (hcall n _) nofun
  constructor
  · obtain ⟨g, s', hg, -, hrec, hend, -⟩ := (hsettles 92233720368547757).2.1 (by decide)
    exact ⟨g, _, hend, hrec.counter, hg.trans (by decide)⟩
  · obtain ⟨t, hend⟩ := (hsettles 92233720368547758).2.2 (by decide)
    exact ⟨t, _, hend _, rfl⟩

end AspectHost
