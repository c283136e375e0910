import AspectHost.Proofs.Gas.Draining
import AspectHost.Proofs.Host.Course
import AspectHost.Proofs.Host.Manners

/-! # What a host call does to the meter

A host call runs guest code only at its very end, when the allocator makes room for the result. Up to there
it is served: the function has run and its budget is settled. Serving never lets the meter show more than
before, and fails for lack of gas only if the meter is exhausted (`serve_settles`). -/

namespace AspectHost

variable {γ : Type}

/-- Settles the budget of a function that reported. -/
def settle (G : Guest γ) (api : LinkedApi) (payload rest : Int64) (report : Report) :
    HostM γ (Option Value × Int64) := do
  reconcile G api rest report
  match report with
  | .error e => Act.fail e
  | .ok v => return (v, payload)

/-- What serving makes of the end of the function. -/
def answer (G : Guest γ) (api : LinkedApi) (payload rest : Int64) (w : World γ) :
    EStateM.Result (Stop HostError) Quota (Option Value) →
      EStateM.Result (Stop HostError) (World γ) (Option Value × Int64)
  | .ok v left => settle G api payload rest (.ok v) (w.setContext api.slot left)
  | .error (.error e) left => settle G api payload rest (.error e) (w.setContext api.slot left)
  | .error .panic left => .error .panic (w.setContext api.slot left)
  | .error .unanswered left => .error .unanswered (w.setContext api.slot left)

/-- A host call up to its settled budget: the value that the function returned, and the payload. -/
def serve (G : Guest γ) (api : LinkedApi) (ps : List Pointer) : HostM γ (Option Value × Int64) := fun w =>
  match G.memory.readValues w.guest ps with
  | .error e => .error (.error e) w
  | .ok vs =>
    let payload := payloadOf (totalBody vs)
    match api.collect G.meter payload w.guest with
    | .error e g => .error (.error (.ofGas e)) { w with guest := g }
    | .ok () g =>
      match G.meter.remaining g with
      | .error e => .error (.error (.ofGas e)) { w with guest := g }
      | .ok left =>
        let loaded := World.setContext api.slot (left / G.meter.multiplier).toUInt64 { w with guest := g }
        let rest := left % G.meter.multiplier
        answer G api payload rest loaded
          (api.function.call (vs.map Prod.fst) (loaded.context api.slot))

/-- Hands back what a served host call returned. -/
def handBack (G : Guest γ) (api : LinkedApi) :
    EStateM.Result (Stop HostError) (World γ) (Option Value × Int64) →
      EStateM.Result (Stop HostError) (World γ) (Option Pointer)
  | .ok (v, payload) w => deliver G api payload w (.ok v)
  | .error e w => .error e w

theorem finish_eq_settle (G : Guest γ) (api : LinkedApi) (payload rest : Int64) (report : Report)
    (w : World γ) :
    finish G api payload rest report w = handBack G api (settle G api payload rest report w) := by
  unfold settle
  cases hr : reconcile G api rest report w with
  | error e w' =>
    rw [finish_of_unsettled hr, Act.bind_of_error hr]
    rfl
  | ok u w' =>
    rw [finish_of_settled hr, Act.bind_of_ok hr]
    cases report <;> rfl

theorem conclude_eq_answer (G : Guest γ) (api : LinkedApi) (payload rest : Int64) (w : World γ)
    (r : EStateM.Result (Stop HostError) Quota (Option Value)) :
    conclude G api payload rest w r = handBack G api (answer G api payload rest w r) := by
  cases r with
  | ok v left => simp only [conclude, answer, finish_eq_settle]
  | error e left =>
    cases e with
    | error e => simp only [conclude, answer, finish_eq_settle]
    | panic => rfl
    | unanswered => rfl

/-- A host call is served, and then hands back. -/
theorem dispatch_eq_serve (G : Guest γ) (api : LinkedApi) (ps : List Pointer) (w : World γ) :
    dispatch G api ps w = handBack G api (serve G api ps w) := by
  rw [dispatch_eq]
  unfold serve
  cases G.memory.readValues w.guest ps with
  | error e => rfl
  | ok vs =>
    dsimp only
    cases api.collect G.meter (payloadOf (totalBody vs)) w.guest with
    | error e g => rfl
    | ok u g =>
      dsimp only
      rw [runCharged_eq]
      cases G.meter.remaining g with
      | error e => rfl
      | ok left => exact conclude_eq_answer _ _ _ _ _ _

/-- Up to its settled budget a host call meets no more of the guest than its memory and its meter. -/
theorem serve_congr {G G' : Guest γ} (hmemory : G'.memory = G.memory) (hmeter : G'.meter = G.meter) :
    serve G' = serve G := by
  have hreconcile : reconcile G' = reconcile G := by
    funext api rest report w
    rw [reconcile_eq, reconcile_eq, hmeter]
  have hanswer : answer G' = answer G := by
    unfold answer settle
    rw [hreconcile]
  unfold serve
  rw [hanswer, hmemory, hmeter]

/-! ## The meter while a host call is served -/

theorem HostError.outOfGas_of_ofGas {e : GasError} (h : HostError.ofGas e = .outOfGas) : e = .outOfGas := by
  cases e with
  | outOfGas => rfl
  | overflow a m => cases h
  | counterUnavailable r => cases h

theorem HostError.Reported.ne_outOfGas {e : HostError} (h : e.Reported) : e ≠ .outOfGas := by
  rintro rfl
  cases h

theorem GuestMemory.readValue_ne (m : GuestMemory γ) (p : Pointer) (s : γ) :
    m.readValue p s ≠ .error .outOfGas := by
  intro h
  obtain ⟨n, c, -, he⟩ | ⟨q, n, k, he⟩ | ⟨c, he⟩ := readValue_eq_error h <;> cases he

theorem GuestMemory.readValues_ne (m : GuestMemory γ) (s : γ) (ps : List Pointer) :
    m.readValues s ps ≠ .error .outOfGas := by
  intro h
  obtain ⟨p, -, hp⟩ := readValues_eq_error h
  exact m.readValue_ne p s hp

/-- A budget never holds more than was put there. -/
theorem World.context_setContext_le (w : World γ) (slot : Nat) (gas : UInt64) :
    ((w.setContext slot gas).context slot).toNat ≤ gas.toNat := by
  by_cases h : slot < w.contexts.size
  · rw [w.context_setContext h]
  · have hzero : (w.setContext slot gas).context slot = 0 := by
      simp [setContext, context, h]
    rw [hzero]
    exact Nat.zero_le _

/-- What serving a host call leaves, however it ends: the counter shows no more than before, if the function
does not add to its budget. -/
structure Served (G : Guest γ) (sound : γ → Prop) (api : LinkedApi) (s : γ) (w : World γ) : Prop where
  sound : sound w.guest
  drops : api.function.Spends → G.meter.Drops s w.guest

/-- How serving fails: for lack of gas only if the meter is exhausted. -/
structure Unserved (G : Guest γ) (sound : γ → Prop) (api : LinkedApi) (s : γ) (e : Stop HostError)
    (w : World γ) : Prop extends Served G sound api s w where
  spent : api.function.Reports → e = .error .outOfGas → G.meter.Spent w.guest

section

variable {G : Guest γ} {sound : γ → Prop} {api : LinkedApi} {s : γ} {w : World γ}

theorem Unserved.of_fails {e : GasError} {g : γ} (h : G.meter.Fails sound s e g)
    (hw : w.guest = g) : Unserved G sound api s (.error (.ofGas e)) w := by
  subst hw
  refine ⟨⟨h.sound, fun _ => h.drops⟩, ?_⟩
  intro _ he
  exact h.spent (HostError.outOfGas_of_ofGas (Stop.error.inj he))

theorem Unserved.of_ne {e : Stop HostError} (h : Served G sound api s w)
    (he : api.function.Reports → e ≠ .error .outOfGas) : Unserved G sound api s e w :=
  ⟨h, fun hr heq => absurd heq (he hr)⟩

theorem Served.after {s' : γ} (h : Served G sound api s' w) (hdrops : G.meter.Drops s s') :
    Served G sound api s w :=
  ⟨h.sound, fun hspends => hdrops.trans (h.drops hspends)⟩

theorem Unserved.after {s' : γ} {e : Stop HostError} (h : Unserved G sound api s' e w)
    (hdrops : G.meter.Drops s s') : Unserved G sound api s e w :=
  ⟨h.toServed.after hdrops, h.spent⟩

variable (hG : G.meter.Sturdy sound)

include hG

theorem settle_settles {c : Int64} (hs : sound w.guest) (hc : G.meter.counter w.guest = .ok c)
    (hnonneg : 0 ≤ c.toInt) (payload : Int64) {report : Report}
    (hleft : api.function.Spends →
      ((w.context api.slot).toNat : Int) ≤ c.toInt / G.meter.multiplier.toInt)
    (hreport : ∀ e, report = .error e → api.function.Reports → e ≠ .outOfGas) :
    Act.Ends (fun _ => Served G sound api w.guest) (Unserved G sound api w.guest)
      (settle G api payload (c % G.meter.multiplier) report w) := by
  have hpos := hG.multiplier_pos
  have hrest := Word.mod_nonneg hnonneg hpos
  unfold settle
  have hreconcile : Act.Ends (fun _ => Served G sound api w.guest) (Unserved G sound api w.guest)
      (reconcile G api (c % G.meter.multiplier) report w) := by
    rw [reconcile_eq]
    split
    · -- A failed function that left nothing.
      refine Act.Ends.bind (P := fun _ w' => sound w'.guest ∧
        G.meter.counter w'.guest = .ok GasMeter.exhausted) ?_ ?_
      · have hput := hG.put hs (g := GasMeter.exhausted) (by decide)
        rw [← GasMeter.set_exhausted] at hput
        refine Act.Ends.metered (w := w.record _) hput (fun _ _ h => h) ?_
        exact fun e g h => .of_fails h rfl
      · rintro u w' ⟨hs', hc'⟩
        exact .error ⟨⟨hs', fun _ => .of_exhausted hc'⟩, fun _ _ => .of_exhausted hc'⟩
    · split
      · exact .error (.of_ne ⟨hs, fun _ => .refl _ _⟩ nofun)
      · rename_i gas hgas
        have hgas := (reconciled?_eq_some_iff hpos hrest).mp hgas
        have hleft0 : 0 ≤ ((w.context api.slot).toNat : Int) * G.meter.multiplier.toInt :=
          Int.mul_nonneg (by omega) (by omega)
        refine (hG.set hs (g := gas) (by omega)).metered ?_ ?_
        · rintro u g ⟨hs', hc'⟩
          refine ⟨hs', fun hspends => .of_le hc hc' ?_⟩
          have hmul := Int.mul_le_mul_of_nonneg_right (hleft hspends) (Int.le_of_lt hpos)
          have hsplit := Int.ediv_mul_add_emod c.toInt G.meter.multiplier.toInt
          rw [hgas, Word.toInt_mod hnonneg]
          omega
        · exact fun e g h => .of_fails h rfl
  refine hreconcile.bind ?_
  intro u w' hserved
  cases report with
  | ok v => exact .ok hserved
  | error e => exact .error (.of_ne hserved fun hr he => hreport e rfl hr (Stop.error.inj he))

/-- The function runs over at most the whole outer units of a counter that was drained before. -/
theorem answer_settles {c : Int64} (hdrops : G.meter.Drops s w.guest) (hs : sound w.guest)
    (hc : G.meter.counter w.guest = .ok c) (hnonneg : 0 ≤ c.toInt) (payload : Int64)
    {r : EStateM.Result (Stop HostError) Quota (Option Value)}
    (hspends : api.function.Spends →
      ((Act.finalState r).toNat : Int) ≤ c.toInt / G.meter.multiplier.toInt)
    (hreports : ∀ e q, r = .error (.error e) q → api.function.Reports → e ≠ .outOfGas) :
    Act.Ends (fun _ => Served G sound api s) (Unserved G sound api s)
      (answer G api payload (c % G.meter.multiplier) w r) := by
  have hleft : ∀ q : Quota, Act.finalState r = q → api.function.Spends →
      (((w.setContext api.slot q).context api.slot).toNat : Int) ≤
        c.toInt / G.meter.multiplier.toInt := by
    rintro q rfl h
    have hset := w.context_setContext_le api.slot (Act.finalState r)
    have hq := hspends h
    omega
  have hafter : ∀ {q : Quota} (report : Report), (∀ e, report = .error e → api.function.Reports →
      e ≠ .outOfGas) → Act.finalState r = q →
      Act.Ends (fun _ => Served G sound api s) (Unserved G sound api s)
        (settle G api payload (c % G.meter.multiplier) report (w.setContext api.slot q)) := by
    intro q report hreport hq
    have hend := settle_settles (w := w.setContext api.slot q) hG hs hc hnonneg payload (hleft q hq)
      hreport
    exact hend.imp (fun _ _ h => h.after hdrops) fun _ _ h => h.after hdrops
  cases r with
  | ok v q => exact hafter (.ok v) nofun rfl
  | error e q =>
    have hstopped : Served G sound api s (w.setContext api.slot q) := ⟨hs, fun _ => hdrops⟩
    cases e with
    | error e =>
      refine hafter (.error e) ?_ rfl
      intro e' he' hr
      cases he'
      exact hreports e q rfl hr
    | panic => exact .error (.of_ne hstopped fun _ => nofun)
    | unanswered => exact .error (.of_ne hstopped fun _ => nofun)

theorem collect_settles (api : LinkedApi) (hs : sound s) (payload : Int64) :
    Act.Ends (fun _ s' => sound s' ∧ G.meter.Drops s s') (G.meter.Fails sound s)
      (api.collect G.meter payload s) := by
  unfold LinkedApi.collect
  split
  · exact hG.charge hs api.rule payload
  · exact .ok ⟨hs, .refl _ _⟩

/-- **Serving a host call drains the meter at most.** The counter shows no more than before if the function
does not add to its budget, and gas runs out only on an exhausted meter. -/
theorem serve_settles (hs : sound w.guest) (ps : List Pointer) :
    Act.Ends (fun _ => Served G sound api w.guest) (Unserved G sound api w.guest)
      (serve G api ps w) := by
  unfold serve
  cases hvs : G.memory.readValues w.guest ps with
  | error e =>
    refine .error (.of_ne ⟨hs, fun _ => .refl _ _⟩ fun _ he => ?_)
    exact G.memory.readValues_ne w.guest ps ((Stop.error.inj he) ▸ hvs)
  | ok vs =>
    dsimp only
    generalize payloadOf (totalBody vs) = payload
    have hcollect := collect_settles hG api hs payload
    cases hr : api.collect G.meter payload w.guest with
    | error e g =>
      rw [hr] at hcollect
      exact .error (.of_fails hcollect.of_error rfl)
    | ok u g =>
      rw [hr] at hcollect
      obtain ⟨hg, hdrops⟩ := hcollect.of_ok
      dsimp only
      cases hleft : G.meter.remaining g with
      | error e =>
        have hfails : G.meter.Fails sound w.guest e g := by
          refine ⟨hg, hdrops, fun he => ?_⟩
          obtain hc | ⟨-, hspent⟩ := GasMeter.remaining_eq_error hleft
          · exact absurd (he ▸ hc) (hG.counter_ne g)
          · exact hspent
        exact .error (.of_fails hfails rfl)
      | ok left =>
        obtain ⟨hc, hnonneg⟩ := GasMeter.remaining_eq_ok hleft
        refine answer_settles (w := World.setContext api.slot _ { w with guest := g }) hG hdrops hg hc
          hnonneg payload ?_ ?_
        · intro hspends
          rw [← Word.toNat_div hnonneg hG.multiplier_pos]
          exact_mod_cast (hspends _ _).trans (World.context_setContext_le _ _ _)
        · intro e q he hreports
          exact ((he ▸ hreports _ _).of_error e rfl).ne_outOfGas

end

/-! ## Handing back -/

/-- The size that the allocator is asked for to write a value; nothing if that is refused before. -/
def Value.room? (v : Value) : Option Int32 :=
  match v.encode? with
  | none => none
  | some b => if maxLength < b.length then none else some (Int32.ofNat b.length)

namespace Guest

variable {G : Guest γ} {w w' : World γ} {v : Value} {size : Int32}

theorem writeValue_of_refused {e : Stop MemoryError} (hv : v.room? = some size)
    (h : G.allocate size w = .error e w') : G.writeValue v w = .error (e.map .memory) w' := by
  unfold Value.room? at hv
  rw [writeValue_eq]
  cases hb : v.encode? with
  | none =>
    rw [hb] at hv
    cases hv
  | some b =>
    rw [hb] at hv
    dsimp only at hv ⊢
    split at hv
    · cases hv
    · rename_i hfits
      cases hv
      rw [if_neg hfits, h]

/-- Writing a value runs the allocator and then writes; it has no failure of its own that is about gas. -/
theorem writeValue_ends {keeps : γ → Prop} (hs : keeps w.guest)
    (hallocate : ∀ size, v.room? = some size →
      Act.Ends (fun _ w' => keeps w'.guest) (fun _ w' => keeps w'.guest) (G.allocate size w))
    (hwrite : ∀ p b s s', keeps s → G.memory.write p b s = .ok s' → keeps s') :
    Act.Ends (fun _ w' => keeps w'.guest)
      (fun e w' => keeps w'.guest ∧ ∀ cause, e = .error cause → ∃ c, cause = .memory c)
      (G.writeValue v w) := by
  rw [writeValue_eq]
  cases hb : v.encode? with
  | none => exact .error ⟨hs, nofun⟩
  | some b =>
    dsimp only
    split
    · exact .error ⟨hs, fun _ h => ⟨_, (Stop.error.inj h).symm⟩⟩
    · rename_i hfits
      have hroom : v.room? = some (Int32.ofNat b.length) := by
        simp only [Value.room?, hb, if_neg hfits]
      have hend := hallocate _ hroom
      cases ha : G.allocate (Int32.ofNat b.length) w with
      | error e w' =>
        rw [ha] at hend
        refine .error ⟨hend.of_error, ?_⟩
        intro cause hcause
        cases e with
        | error c => exact ⟨c, (Stop.error.inj hcause).symm⟩
        | panic => cases hcause
        | unanswered => cases hcause
      | ok p w' =>
        rw [ha] at hend
        dsimp only
        cases hm : G.memory.write p b w'.guest with
        | error e => exact .error ⟨hend.of_ok, fun _ h => ⟨_, (Stop.error.inj h).symm⟩⟩
        | ok s => exact .ok (hwrite p b w'.guest s hend.of_ok hm)

/-- The host call is served in the world `w'`, and asks the allocator for that much. -/
def Asks (G : Guest γ) (api : LinkedApi) (ps : List Pointer) (w : World γ) (size : Int32)
    (w' : World γ) : Prop :=
  ∃ v payload, serve G api ps w = .ok (some v, payload) w' ∧ v.room? = some size

variable {api : LinkedApi} {ps : List Pointer}

/-- An allocator that fails ends the host call. -/
theorem Asks.dispatch_of_refused (h : G.Asks api ps w size w') {e : Stop MemoryError} {w'' : World γ}
    (ha : G.allocate size w' = .error e w'') :
    dispatch G api ps w = .error (e.map .memory) w'' := by
  obtain ⟨v, payload, hserve, hroom⟩ := h
  rw [dispatch_eq_serve, hserve]
  simp only [handBack, deliver, writeValue_of_refused hroom ha]

/-- What serving keeps, and the allocator, and writing, a host call keeps. -/
theorem dispatch_ends {keeps spent : γ → Prop}
    (hserve : Act.Ends (fun _ w' => keeps w'.guest)
      (fun e w' => keeps w'.guest ∧ (e = .error .outOfGas → spent w'.guest)) (serve G api ps w))
    (hallocate : ∀ size w', G.Asks api ps w size w' → keeps w'.guest →
      Act.Ends (fun _ w'' => keeps w''.guest) (fun _ w'' => keeps w''.guest) (G.allocate size w'))
    (hwrite : ∀ p b s s', keeps s → G.memory.write p b s = .ok s' → keeps s') :
    Act.Ends (fun _ w' => keeps w'.guest)
      (fun e w' => keeps w'.guest ∧ (e = .error .outOfGas → spent w'.guest)) (dispatch G api ps w) := by
  rw [dispatch_eq_serve]
  cases hr : serve G api ps w with
  | error e w' =>
    rw [hr] at hserve
    exact .error hserve.of_error
  | ok x w' =>
    rw [hr] at hserve
    have hs := hserve.of_ok
    obtain ⟨v, payload⟩ := x
    cases v with
    | none => exact .ok hs
    | some v =>
      have hend := writeValue_ends hs (fun size hv => hallocate size w' ⟨v, payload, hr, hv⟩ hs) hwrite
      simp only [handBack, deliver]
      cases hw : G.writeValue v w' with
      | ok p w'' =>
        rw [hw] at hend
        exact .ok hend.of_ok
      | error e w'' =>
        rw [hw] at hend
        obtain ⟨hs', hmemory⟩ := hend.of_error
        refine .error ⟨hs', fun he => ?_⟩
        obtain ⟨c, hc⟩ := hmemory _ he
        cases hc

end Guest
end AspectHost
