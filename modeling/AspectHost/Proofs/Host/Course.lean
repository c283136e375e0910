import AspectHost.Proofs.Guest

/-! # The course of a host call

A host call is taken apart once: reading (`readArguments_eq`), charging and running (`dispatch_eq`,
`runCharged_eq`), settling (`reconcile_of_spent`, `reconcile_of_le`, `reconcile_of_lt`) and handing back
(`finish_of_settled`). What host calls do is derived from these. -/

namespace AspectHost

variable {γ : Type}

/-! ## Arguments -/

/-- The values at the pointers with the lengths of their bodies, or the failure of the first pointer that
has none. -/
def GuestMemory.readValues (m : GuestMemory γ) (s : γ) :
    List Pointer → Except HostError (List (Value × Nat))
  | [] => .ok []
  | p :: ps =>
    match m.readValue p s with
    | .error e => .error e
    | .ok v =>
      match m.readValues s ps with
      | .error e => .error e
      | .ok vs => .ok (v :: vs)

/-- If the values cannot be read, the first pointer without one says why. -/
theorem GuestMemory.readValues_unread {m : GuestMemory γ} {s : γ} {ps : List Pointer} {e : HostError}
    (h : m.readValues s ps = .error e) :
    ∃ before p after, ps = before ++ p :: after ∧ (∀ q ∈ before, ∃ v, m.readValue q s = .ok v) ∧
      m.readValue p s = .error e := by
  induction ps with
  | nil => cases h
  | cons p ps ih =>
    unfold readValues at h
    split at h
    · rename_i hp
      cases h
      exact ⟨[], p, ps, rfl, nofun, hp⟩
    · rename_i v hp
      split at h
      · rename_i hps
        cases h
        obtain ⟨before, q, after, rfl, hbefore, hq⟩ := ih hps
        exact ⟨p :: before, q, after, rfl, List.forall_mem_cons.mpr ⟨⟨v, hp⟩, hbefore⟩, hq⟩
      · cases h

/-- The values cannot be read if one of them cannot. -/
theorem GuestMemory.readValues_eq_error {m : GuestMemory γ} {s : γ} {ps : List Pointer} {e : HostError}
    (h : m.readValues s ps = .error e) : ∃ p ∈ ps, m.readValue p s = .error e := by
  obtain ⟨before, p, after, rfl, -, hp⟩ := readValues_unread h
  exact ⟨p, List.mem_append_right before (.head after), hp⟩

/-- A number of bytes as a word; more than the largest word counts as that. -/
def payloadOf (total : Nat) : Int64 := Int64.ofNat (min total (2 ^ 63 - 1))

theorem toInt_payloadOf (total : Nat) : (payloadOf total).toInt = min (total : Int) Word.max := by
  unfold payloadOf Word.max
  rw [Int64.toInt_ofNat_of_lt (by omega)]
  omega

theorem saturatingAdd_payloadOf (total : Nat) {n : Nat} (hn : n ≤ maxLength) :
    Checked.saturatingAdd (payloadOf total) (Int64.ofNat n) = payloadOf (total + n) := by
  have hn' : (Int64.ofNat n).toInt = n := by
    apply Word.toInt_ofNat
    unfold maxLength at hn
    unfold Word.max
    omega
  have ht := toInt_payloadOf total
  have hnn : 0 ≤ (payloadOf total).toInt := by
    unfold Word.max at ht
    omega
  apply Int64.toInt_inj.mp
  rw [Checked.saturatingAdd_of_nonneg hnn (by omega), ht, hn', toInt_payloadOf]
  unfold Word.max
  omega

/-- The number of bytes in the bodies of the arguments. -/
def totalBody (vs : List (Value × Nat)) : Nat := (vs.map Prod.snd).sum

theorem readArguments_eq (G : Guest γ) (w : World γ) (total : Nat) (ps : List Pointer) :
    readArguments G (payloadOf total) ps w =
      match G.memory.readValues w.guest ps with
      | .error e => .error (.error e) w
      | .ok vs => .ok (vs.map Prod.fst, payloadOf (total + totalBody vs)) w := by
  induction ps generalizing total with
  | nil => rfl
  | cons p ps ih =>
    unfold readArguments GuestMemory.readValues
    cases hv : G.memory.readValue p w.guest with
    | error e =>
      exact Act.bind_of_error (Guest.readValue_of_error hv) _
    | ok v =>
      refine (Act.bind_of_ok (Guest.readValue_of_ok hv) _).trans ?_
      have ih := ih (total + v.2)
      simp only [saturatingAdd_payloadOf total (GuestMemory.length_le_of_readValue hv)]
      cases hvs : G.memory.readValues w.guest ps with
      | error e =>
        rw [hvs] at ih
        exact Act.bind_of_error ih _
      | ok vs =>
        rw [hvs] at ih
        refine (Act.bind_of_ok ih _).trans ?_
        have hsum : total + v.2 + totalBody vs = total + totalBody (v :: vs) := by
          simp only [totalBody, List.map_cons, List.sum_cons]
          omega
        rw [hsum]
        rfl

/-! ## The function -/

/-- The end of a host call, once the function reported. -/
def finish (G : Guest γ) (api : LinkedApi) (payload rest : Int64) (report : Report) :
    HostM γ (Option Pointer) := do
  reconcile G api rest report
  let result ← match report with
    | .error e => Act.fail e
    | .ok none => pure none
    | .ok (some v) => some <$> G.writeValue v
  modify (·.record (.hostCallDone api.name payload))
  return result

/-- What a host call makes of the end of its function. A function that broke off ends the call at once. -/
def conclude (G : Guest γ) (api : LinkedApi) (payload rest : Int64) (w : World γ) :
    EStateM.Result (Stop HostError) Quota (Option Value) →
      EStateM.Result (Stop HostError) (World γ) (Option Pointer)
  | .ok v left => finish G api payload rest (.ok v) (w.setContext api.slot left)
  | .error (.error e) left => finish G api payload rest (.error e) (w.setContext api.slot left)
  | .error .panic left => .error .panic (w.setContext api.slot left)
  | .error .unanswered left => .error .unanswered (w.setContext api.slot left)

/-- The part of a host call that follows the charge. -/
def runCharged (G : Guest γ) (api : LinkedApi) (payload : Int64) (values : List Value) :
    HostM γ (Option Pointer) := do
  let left ← metered (.query G.meter.remaining)
  modify (·.setContext api.slot (left / G.meter.multiplier).toUInt64)
  let (outcome, w) := api.run values (← get)
  set w
  let report ← match outcome with
    | .ok v => pure (.ok v)
    | .error (.error e) => pure (.error e)
    | .error .panic => throw .panic
    | .error .unanswered => throw .unanswered
  finish G api payload (left % G.meter.multiplier) report

/-- The function runs once, over the whole outer units that are left. -/
theorem runCharged_eq (G : Guest γ) (api : LinkedApi) (payload : Int64) (values : List Value)
    (w : World γ) :
    runCharged G api payload values w =
      match G.meter.remaining w.guest with
      | .error e => .error (.error (.ofGas e)) w
      | .ok left =>
        let loaded := w.setContext api.slot (left / G.meter.multiplier).toUInt64
        conclude G api payload (left % G.meter.multiplier) loaded
          (api.function.call values (loaded.context api.slot)) := by
  unfold runCharged
  cases hr : G.meter.remaining w.guest with
  | error e =>
    have hq : GasM.query G.meter.remaining w.guest = .error e w.guest := by
      simp only [GasM.query, hr]
    exact Act.bind_of_error (metered_of_error hq) _
  | ok left =>
    have hq : GasM.query G.meter.remaining w.guest = .ok left w.guest := by
      simp only [GasM.query, hr]
    refine (Act.bind_of_ok (metered_of_ok hq) _).trans ?_
    dsimp only
    -- Named, so that the steps below do not look into it.
    generalize hw : w.setContext api.slot (left / G.meter.multiplier).toUInt64 = loaded
    have hm : (modify fun w : World γ => w.setContext api.slot (left / G.meter.multiplier).toUInt64 :
        HostM γ PUnit) w = .ok ⟨⟩ loaded := by
      rw [← hw]
      rfl
    refine (Act.bind_of_ok hm _).trans ?_
    have hget : (get : HostM γ (World γ)) loaded = .ok loaded loaded := rfl
    refine (Act.bind_of_ok hget _).trans ?_
    unfold LinkedApi.run
    have hset : ∀ q, (set (loaded.setContext api.slot q) : HostM γ PUnit) loaded =
        .ok ⟨⟩ (loaded.setContext api.slot q) := fun _ => rfl
    cases api.function.call values (loaded.context api.slot) with
    | ok v q =>
      refine (Act.bind_of_ok (hset q) _).trans ?_
      dsimp only
      exact Act.bind_of_ok (a := Except.ok v) rfl _
    | error e q => cases e <;> exact Act.bind_of_ok (hset q) _

/-- The arguments are read before anything is charged, and the charge is taken before the function runs. -/
theorem dispatch_eq (G : Guest γ) (api : LinkedApi) (ps : List Pointer) (w : World γ) :
    dispatch G api ps w =
      match G.memory.readValues w.guest ps with
      | .error e => .error (.error e) w
      | .ok vs =>
        match api.collect G.meter (payloadOf (totalBody vs)) w.guest with
        | .error e g => .error (.error (.ofGas e)) { w with guest := g }
        | .ok () g =>
          runCharged G api (payloadOf (totalBody vs)) (vs.map Prod.fst) { w with guest := g } := by
  have hread := readArguments_eq G w 0 ps
  cases hvs : G.memory.readValues w.guest ps with
  | error e =>
    rw [hvs] at hread
    exact Act.bind_of_error hread _
  | ok vs =>
    simp only [hvs, Nat.zero_add] at hread
    refine (Act.bind_of_ok hread _).trans ?_
    unfold LinkedApi.collect
    by_cases hp : 0 < payloadOf (totalBody vs)
    · simp only [if_pos hp]
      cases hc : api.rule.charge G.meter (payloadOf (totalBody vs)) w.guest with
      | error e g => exact Act.bind_of_error (metered_of_error hc) _
      | ok u g =>
        refine (Act.bind_of_ok (metered_of_ok hc) _).trans ?_
        rfl
    · simp only [if_neg hp]
      rfl

/-- Once the dues are taken, the function runs over the whole outer units that they leave. -/
theorem dispatch_of_collected {G : Guest γ} {api : LinkedApi} {ps : List Pointer} {w : World γ}
    {vs : List (Value × Nat)} {s : γ} {left : Int64} (hvs : G.memory.readValues w.guest ps = .ok vs)
    (hs : api.collect G.meter (payloadOf (totalBody vs)) w.guest = .ok () s)
    (hl : G.meter.remaining s = .ok left) :
    let loaded := World.setContext api.slot (left / G.meter.multiplier).toUInt64 { w with guest := s }
    dispatch G api ps w =
      conclude G api (payloadOf (totalBody vs)) (left % G.meter.multiplier) loaded
        (api.function.call (vs.map Prod.fst) (loaded.context api.slot)) := by
  simp only [dispatch_eq, hvs, hs, runCharged_eq, hl]

/-! ## Settling -/

theorem reconciled?_eq_some_iff {m rest g : Int64} {left : UInt64} (hm : 0 < m.toInt)
    (hr : 0 ≤ rest.toInt) :
    reconciled? m rest left = some g ↔ g.toInt = left.toNat * m.toInt + rest.toInt := by
  unfold reconciled?
  simp only [Option.bind_eq_bind, Option.bind_eq_some_iff, Checked.ofUnsigned?_eq_some_iff,
    Checked.mul?_eq_some_iff, Checked.add?_eq_some_iff]
  constructor
  · rintro ⟨a, ha, b, hb, hg⟩
    rw [hg, hb, ha]
  · intro h
    have hnn : 0 ≤ left.toNat * m.toInt := Int.mul_nonneg (by omega) (by omega)
    have hle : (left.toNat : Int) * 1 ≤ left.toNat * m.toInt :=
      Int.mul_le_mul_of_nonneg_left (by omega) (by omega)
    have hmax := Word.toInt_le_max g
    obtain ⟨a, ha⟩ := Word.exists_toInt_eq (n := left.toNat) (by omega) (by omega)
    obtain ⟨b, hb⟩ := Word.exists_toInt_eq hnn (by omega)
    exact ⟨a, ha, b, by rw [hb, ha], by rw [h, hb]⟩

/-- What a host call hands back once its budget is settled. -/
def deliver (G : Guest γ) (api : LinkedApi) (payload : Int64) (w : World γ) :
    Report → EStateM.Result (Stop HostError) (World γ) (Option Pointer)
  | .error e => .error (.error e) w
  | .ok none => .ok none (w.record (.hostCallDone api.name payload))
  | .ok (some v) =>
    match G.writeValue v w with
    | .ok p w => .ok (some p) (w.record (.hostCallDone api.name payload))
    | .error e w => .error e w

section

variable {G : Guest γ} {api : LinkedApi} {payload rest : Int64} {report : Report} {w w' : World γ}

theorem finish_of_unsettled {e : Stop HostError} (h : reconcile G api rest report w = .error e w') :
    finish G api payload rest report w = .error e w' :=
  Act.bind_of_error h _

theorem finish_of_settled (h : reconcile G api rest report w = .ok () w') :
    finish G api payload rest report w = deliver G api payload w' report := by
  refine (Act.bind_of_ok h _).trans ?_
  cases report with
  | error e => rfl
  | ok r =>
    cases r with
    | none => rfl
    | some v =>
      unfold deliver
      cases hw : G.writeValue v w' with
      | error e w'' =>
        simp only [hw]
        exact Act.bind_of_error (Act.map_of_error hw some) _
      | ok p w'' =>
        simp only [hw]
        exact Act.bind_of_ok (Act.map_of_ok hw some) _

end

theorem reconcile_eq (G : Guest γ) (api : LinkedApi) (rest : Int64) (report : Report) (w : World γ) :
    reconcile G api rest report w =
      if report.isOk = false ∧ w.context api.slot = 0 then
        (metered (G.meter.set GasMeter.exhausted) >>= fun _ => Act.fail .outOfGas)
          (w.record (.hostCallOutOfGas api.name))
      else
        match reconciled? G.meter.multiplier rest (w.context api.slot) with
        | none =>
          let amount := (Checked.ofUnsigned? (w.context api.slot)).getD Int64.maxValue
          .error (.error (.ofGas (.overflow amount G.meter.maxOuter))) w
        | some gas => metered (G.meter.set gas) w := by
  unfold reconcile
  have hget : (get : HostM γ (World γ)) w = .ok w w := rfl
  refine (Act.bind_of_ok hget _).trans ?_
  by_cases hspent : report.isOk = false ∧ w.context api.slot = 0
  · have hmod : (modify (·.record (.hostCallOutOfGas api.name)) : HostM γ PUnit) w =
        .ok ⟨⟩ (w.record (.hostCallOutOfGas api.name)) := rfl
    rw [if_pos hspent, if_pos hspent]
    exact Act.bind_of_ok hmod _
  · rw [if_neg hspent, if_neg hspent]
    cases reconciled? G.meter.multiplier rest (w.context api.slot) <;> rfl

/-- More than a meter takes is an overflow, whatever else the guest is like. -/
theorem reconcile_of_over {G : Guest γ} {api : LinkedApi} {rest : Int64} {report : Report} {w : World γ}
    (hm : 0 < G.meter.multiplier.toInt) (hr : 0 ≤ rest.toInt)
    (hleft : ¬ (report.isOk = false ∧ w.context api.slot = 0))
    (hover : G.meter.capacity < (w.context api.slot).toNat * G.meter.multiplier.toInt + rest.toInt) :
    ∃ t, reconcile G api rest report w = .error (.error (.gasOverflow t)) w := by
  have hnn : 0 ≤ (w.context api.slot).toNat * G.meter.multiplier.toInt :=
    Int.mul_nonneg (by omega) (by omega)
  have hstep := reconcile_eq G api rest report w
  rw [if_neg hleft] at hstep
  cases hg : reconciled? G.meter.multiplier rest (w.context api.slot) with
  | none =>
    simp only [hg] at hstep
    exact ⟨_, hstep⟩
  | some g =>
    have hgi := (reconciled?_eq_some_iff hm hr).mp hg
    have hset := GasMeter.set_of_lt (m := G.meter) (s := w.guest) (g := g) hm (by omega) (by omega)
    simp only [hg] at hstep
    exact ⟨_, hstep.trans (metered_of_error hset)⟩

/-! Once the function has run, only the name and the place of a host function matter. -/

section

variable {G : Guest γ} {api api' : LinkedApi} (hname : api'.name = api.name)
  (hslot : api'.slot = api.slot)

include hname hslot

theorem reconcile_congr : reconcile G api' = reconcile G api := by
  funext rest report w
  rw [reconcile_eq, reconcile_eq, hname, hslot]

theorem finish_congr : finish G api' = finish G api := by
  unfold finish
  rw [reconcile_congr hname hslot, hname]

theorem conclude_congr : conclude G api' = conclude G api := by
  unfold conclude
  rw [finish_congr hname hslot, hslot]

end

namespace Guest.Lawful

variable {G : Guest γ} {content : γ → Except MemoryError Bytes} {w : World γ} {c : Int64}

/-- A failure that left nothing exhausts the meter. -/
theorem reconcile_of_spent (hG : G.Lawful content) (api : LinkedApi) (rest : Int64) {report : Report}
    (hc : G.meter.counter w.guest = .ok c)
    (hspent : report.isOk = false ∧ w.context api.slot = 0) :
    ∃ s, reconcile G api rest report w =
        .error (.error .outOfGas) { w.record (.hostCallOutOfGas api.name) with guest := s } ∧
      G.Recounted content GasMeter.exhausted w.guest s := by
  have hstep := reconcile_eq G api rest report w
  rw [if_pos hspent] at hstep
  obtain ⟨s, hs, hrec⟩ := hG.put hc GasMeter.exhausted (by decide)
  have hset : G.meter.set GasMeter.exhausted (w.record (.hostCallOutOfGas api.name)).guest =
      .ok () s := GasMeter.set_exhausted.trans hs
  exact ⟨s, hstep.trans (Act.bind_of_ok (metered_of_ok hset) _), hrec⟩

section

variable (hG : G.Lawful content) {api : LinkedApi} {rest : Int64} {report : Report}
  (hr : 0 ≤ rest.toInt) (hleft : ¬ (report.isOk = false ∧ w.context api.slot = 0))

include hG hr hleft

/-- The outer units that are left and the rest go back to the counter, if the meter takes that much. -/
theorem reconcile_of_le (hc : G.meter.counter w.guest = .ok c)
    (hcap : (w.context api.slot).toNat * G.meter.multiplier.toInt + rest.toInt ≤ G.meter.capacity) :
    ∃ g s, g.toInt = (w.context api.slot).toNat * G.meter.multiplier.toInt + rest.toInt ∧
      reconcile G api rest report w = .ok () { w with guest := s } ∧
      G.meter.put g w.guest = .ok () s ∧ G.Recounted content g w.guest s := by
  have hm := hG.multiplier_pos
  have hnn : 0 ≤ (w.context api.slot).toNat * G.meter.multiplier.toInt :=
    Int.mul_nonneg (by omega) (by omega)
  have hmax := GasMeter.capacity_le_max hm
  obtain ⟨g, hgi⟩ := Word.exists_toInt_eq (Int.add_nonneg hnn hr) (by omega)
  obtain ⟨s, hs, hrec⟩ := hG.put hc g (by omega)
  have hset : G.meter.set g w.guest = .ok () s :=
    (GasMeter.set_of_le hm (by omega) (by omega)).trans hs
  have hg := (reconciled?_eq_some_iff hm hr).mpr hgi
  have hstep := reconcile_eq G api rest report w
  rw [if_neg hleft] at hstep
  simp only [hg] at hstep
  exact ⟨g, s, hgi, hstep.trans (metered_of_ok hset), hs, hrec⟩

/-- More than the meter takes is an overflow, and the guest is left alone. -/
theorem reconcile_of_lt
    (hover : G.meter.capacity < (w.context api.slot).toNat * G.meter.multiplier.toInt + rest.toInt) :
    ∃ t, reconcile G api rest report w = .error (.error (.gasOverflow t)) w :=
  reconcile_of_over hG.multiplier_pos hr hleft hover

end

end Guest.Lawful
end AspectHost
