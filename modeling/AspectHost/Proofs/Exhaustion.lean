import AspectHost.Proofs.Standing

/-! # Gas that runs out

Gas runs out where the engine stops for lack of fuel, where a host call says so, or where guest code traps on
an exhausted counter. At each of these moments the meter is exhausted (`Linked.RunsOut.starves`). What
unwinds from there runs no guest code, so the meter stays as it is, through an allocator and the host call
around it as well (`Linked.Leads.starves`); and the failure that arrives is sorted by the meter. -/

namespace AspectHost

/-! ## Sorting -/

/-- Wherever the meter is exhausted, the failure is sorted as out of gas. -/
def Failure.Yields (e : Failure) : Prop :=
  ∀ {γ : Type} (I : Instance γ) (g : γ), I.meter.Spent g → I.classify g e = .outOfGas

namespace Failure

theorem yields_trap (cause : Wasm.Trap) : Yields (.trap cause) := by
  intro γ I g hspent
  obtain ⟨c, hc, hneg⟩ := hspent
  have hneg : c < 0 := Word.neg_iff.mpr hneg
  cases cause <;> simp only [Instance.classify, hc, if_pos hneg]

theorem yields_outOfGas : Yields (.host .outOfGas) := fun _ _ _ => rfl

theorem yields_memory (c : MemoryError) : Yields (.host (.memory c)) := by
  intro γ I g hspent
  simp only [Instance.classify, hspent.remaining]

end Failure

theorem Instance.call_of_exhausted {γ : Type} {I : Instance γ} {hook name : String} {gas : Int64}
    {args : List Value} {w w' : World γ} {e : Failure}
    (hrun : I.run hook name gas args w = .error (.error e) w') (he : e.Yields)
    (hspent : I.meter.Spent (I.noteTrap (.error e) w'.guest)) :
    I.call hook name gas args w =
      .error (.error ⟨.outOfGas, 0⟩) { w' with guest := I.noteTrap (.error e) w'.guest } := by
  rw [call_of_error hrun]
  simp only [Stop.map, Instance.callError, he I _ hspent, Instance.leftover]

namespace Linked

section

variable [Wasm.Engine] {L : Linked}

/-! ## The moment and what unwinds from it -/

/-- Gas runs out at this moment. -/
inductive RunsOut (L : Linked) : Moment → Prop
  /-- The engine stops for lack of fuel. -/
  | fuel (n : Nat) (s : Wasm.Store) (contexts : Array UInt64) (events : Array Event) :
    RunsOut L ⟨n, .trap .outOfFuel s, contexts, events⟩
  /-- A host call ends so. -/
  | host {n i : Nat} {args : List Wasm.Val} {t : Wasm.Engine.Thread} {s : Wasm.Store}
    {contexts : Array UInt64} {events : Array Event} {api : LinkedApi} {w : World Wasm.Store}
    (found : L.imports[i]? = some (.api api))
    (call : dispatch (L.guest (L.below n t)) api (pointers args) ⟨s, contexts, events⟩ =
      .error (.error .outOfGas) w) :
    RunsOut L ⟨n + 1, .callOut i args t s, contexts, events⟩
  /-- Guest code traps on an exhausted counter. -/
  | trap (n : Nat) (cause : Wasm.Trap) {s : Wasm.Store} (contexts : Array UInt64) (events : Array Event)
    (spent : L.meter.Spent s) : RunsOut L ⟨n, .trap cause s, contexts, events⟩

/-- The run fails with a failure that is sorted by the meter, and that is exhausted once it is noted how
the run failed. -/
def Starves (L : Linked) (m : Moment) : Prop :=
  ∃ e w, L.ending m = .error (.error e) w ∧ e.Yields ∧ L.meter.Spent (noteTrap (.error e) w.guest)

theorem ending_of_trap (n : Nat) (cause : Wasm.Trap) (s : Wasm.Store) (contexts : Array UInt64)
    (events : Array Event) :
    L.ending ⟨n, .trap cause s, contexts, events⟩ =
      .error (.error (.trap cause)) ⟨s, contexts, events⟩ := by
  cases n <;> rfl

theorem RunsOut.starves (hL : L.Fit) (hr : L.Reporting) {m : Moment} (h : L.RunsOut m)
    (hm : Keeping L.Sound (fun s => L.Reporting → L.meter.Spent s) m.step) : L.Starves m := by
  cases h with
  | fuel n s contexts events =>
    exact ⟨_, _, ending_of_trap .., Failure.yields_trap _, hm.dry s rfl hr⟩
  | @host n i args t s contexts events api w found call =>
    have hcall : L.callOffer (L.below n t) (.api api) (pointers args) ⟨s, contexts, events⟩ =
        .error (.error .outOfGas) w :=
      Act.bind_of_error call _
    have hend := callOffer_below_ends (upholds_sound hL)
      (fun t s hs => keeping_of_follows hL hs (Wasm.Engine.follows_step L.program t s))
      (List.mem_of_getElem? found) n t (pointers args) (w := ⟨s, contexts, events⟩) hm.store
    rw [hcall] at hend
    exact ⟨_, w, ending_of_failed found hcall, Failure.yields_outOfGas, hend.of_error.2 rfl hr⟩
  | trap n cause contexts events spent =>
    exact ⟨_, _, ending_of_trap .., Failure.yields_trap _, spent_noteTrap _ spent⟩

/-- A run fails with the runs that it leads to; an allocator that starves ends the host call around it for
want of memory. -/
theorem Leads.starves {m m' : Moment} (hlead : L.Leads m m') (h : L.Starves m') : L.Starves m := by
  obtain ⟨e, w', hend, he, hspent⟩ := h
  cases hlead with
  | step n t s contexts events => exact ⟨e, w', hend, he, hspent⟩
  | allocate found asks allocator =>
    have hcall := asks.dispatch_of_refused (allocate_of_stopped allocator hend)
    exact ⟨_, _, ending_of_failed found (Act.bind_of_error hcall _), Failure.yields_memory _, hspent⟩
  | back found call => exact ⟨e, w', (ending_of_back found call).trans hend, he, hspent⟩

theorem Reaches.starves {m m' : Moment} (hreaches : L.Reaches m m') (h : L.Starves m') :
    L.Starves m := by
  -- From the moment back to where the run began: each caller fails with what it called.
  induction hreaches using Relation.ReflTransGen.head_induction_on with
  | refl => exact h
  | head hlead _ ih => exact hlead.starves ih

/-! ## The call -/

variable {hook name : String} {args : List Value} {gas : Int64} {w : World Wasm.Store}

theorem Enters.starves {m : Moment} (henters : L.Enters hook name args w m) (h : L.Starves m) :
    ∃ e w', L.toInstance.perform hook name args w = .error (.error e) w' ∧ e.Yields ∧
      L.meter.Spent (noteTrap (.error e) w'.guest) := by
  obtain ⟨e, w', hend, he, hspent⟩ := h
  cases henters with
  | hook found params =>
    refine ⟨e, w', Act.bind_of_error ?_ _, he, hspent⟩
    rw [Instance.runHook_of_found found params]
    exact Act.bind_of_error hend _
  | @argument before after v ps size f g w₁ w₂ prepared method split written room allocator =>
    have hwrite := Guest.writeValue_of_refused (G := L.toInstance.toGuest) room
      (allocate_of_stopped allocator hend)
    have hargs := Instance.writeArguments_of_refused written hwrite after
    refine ⟨.host (.memory (.engine e.message)), { w' with guest := noteTrap (.error e) w'.guest },
      (Act.bind_of_ok prepared _).trans ?_, Failure.yields_memory _, hspent⟩
    rw [method, split]
    exact (Act.bind_of_ok rfl _).trans (Act.bind_of_error (Act.mapError_of_error hargs _) _)
  | @method ps f w₁ w₂ prepared method written =>
    refine ⟨e, w', (Act.bind_of_ok prepared _).trans ?_, he, hspent⟩
    rw [method]
    refine (Act.bind_of_ok rfl _).trans ?_
    exact (Act.bind_of_ok (Act.mapError_of_ok written _) _).trans (Act.bind_of_error hend _)

/-- A call during which gas runs out fails for that, gives back nothing and leaves the meter exhausted. -/
theorem During.call_fails (hL : L.Fit) (hr : L.Reporting) (hs : L.Sound w.guest) {m : Moment}
    (hm : L.During hook name gas args w m) (hout : L.RunsOut m) :
    ∃ w', L.toInstance.call hook name gas args w = .error (.error ⟨.outOfGas, 0⟩) w' ∧
      L.meter.Spent w'.guest := by
  obtain ⟨s, m₀, hfund, henters, hreaches⟩ := hm
  have hsound := hfund ▸ (sturdy hL.multiplier_pos).fund hs gas
  have hstep := fun t s hs => keeping_of_follows hL hs (Wasm.Engine.follows_step L.program t s)
  have hm₀ := henters.keeping (upholds_sound hL) hsound.of_ok.1 hstep
  have hstarves := hreaches.starves
    (hout.starves hL hr (hreaches.keeping (upholds_sound hL) hstep hm₀))
  obtain ⟨e, w', hperform, he, hspent⟩ := henters.starves hstarves
  exact ⟨_, Instance.call_of_exhausted ((run_of_funded hfund).trans hperform) he hspent, hspent⟩

end

end Linked

namespace Instance

variable {γ : Type} {I : Instance γ} {hook name : String} {gas : Int64} {args : List Value}
  {w w' : World γ}

/-- No call succeeds that leaves the meter exhausted. -/
theorem call_ne_ok {output : CallOutput} (hspent : I.meter.Spent w'.guest) :
    I.call hook name gas args w ≠ .ok output w' := by
  intro h
  have hleft := (call_eq_ok h).2
  rw [hspent.remainingOuter] at hleft
  cases hleft

/-- What is sorted as out of gas said so itself, or met a meter that is exhausted or cannot be read. -/
theorem classify_eq_outOfGas {g : γ} {e : Failure} (h : I.classify g e = .outOfGas) :
    Linked.Dry (.error e) ∨ I.meter.Spent g ∨ ∃ cause, I.meter.counter g = .error cause := by
  unfold classify at h
  split at h
  · exact .inl .fuel
  · exact .inl .host
  · cases h
  · cases h
  · cases h
  · cases h
  · split at h
    · cases h
    · rename_i hleft
      obtain hc | ⟨-, hspent⟩ := GasMeter.remaining_eq_error hleft
      · exact .inr (.inr ⟨_, hc⟩)
      · exact .inr (.inl hspent)
  · split at h
    · rename_i c hc
      split at h
      · rename_i hneg
        exact .inr (.inl ⟨c, hc, Word.neg_iff.mp hneg⟩)
      · cases h
    · cases h

end Instance

/-- A call fails for lack of gas only if it leaves the meter exhausted, or the meter cannot be read. -/
theorem Linked.call_eq_outOfGas [Wasm.Engine] {L : Linked} {hook name : String} {args : List Value}
    {gas left : Int64}
    {w w' : World Wasm.Store} (hL : L.Fit) (hr : L.Reporting) (hs : L.Sound w.guest)
    (h : L.toInstance.call hook name gas args w = .error (.error ⟨.outOfGas, left⟩) w') :
    L.meter.Spent w'.guest ∨ ∃ reason, L.meter.counter w'.guest = .error (.counterUnavailable reason) := by
  have hend := run_ends hook name gas args hL hs
  obtain ⟨value, cause, -, hleft, he⟩ | ⟨failure, hrun, he⟩ := Instance.call_eq_error h
  · simp only [CallError.mk.injEq] at he
    cases HostError.outOfGas_of_ofGas he.1.symm
    obtain hc | ⟨-, hspent⟩ :=
      GasMeter.remaining_eq_error (GasMeter.remainingOuter_eq_error hleft)
    · exact absurd hc ((sturdy hL.multiplier_pos).counter_ne _)
    · exact .inl hspent
  · rw [hrun] at hend
    simp only [Instance.callError, CallError.mk.injEq] at he
    obtain hdry | hspent | ⟨cause, hc⟩ := Instance.classify_eq_outOfGas he.1.symm
    · exact .inl (hend.of_error.2 hdry hr)
    · exact .inl hspent
    · obtain ⟨reason, rfl⟩ := counter_error hc
      exact .inr ⟨reason, hc⟩

/-! ## Aspects -/

namespace Aspect

variable {code : Bytes} {apis : Registry} {config : Config} {a : Aspect} {l : Live}

section

variable [Wasm.Engine]

def Request.use (r : Request) : Use := .call r.method r.gas r.args

/-- Calls none of which takes its budget leave the store alone. -/
theorem live_after_refused (hl : a.live = some l) {requests : List Request}
    (h : ∀ r ∈ requests, ∀ s, l.linked.meter.fund r.gas l.store ≠ .ok () s) :
    ∃ contexts, (a.after (requests.map Request.use)).live = some ⟨l.linked, l.store, contexts⟩ := by
  induction requests generalizing a l with
  | nil => exact ⟨l.contexts, hl⟩
  | cons r rs ih =>
    have hone : ∃ contexts, (a.use r.use).live = some ⟨l.linked, l.store, contexts⟩ := by
      unfold Request.use use
      cases hcallable : a.callable with
      | error e =>
        simp only [Aspect.call, hcallable]
        exact ⟨l.contexts, hl⟩
      | ok l' =>
        cases hl.symm.trans (live_of_callable hcallable).1
        obtain ⟨-, -, hlive⟩ :=
          state_call hcallable r.method r.gas r.args
        dsimp only
        rw [hlive, guestCall]
        cases hfund : l.linked.meter.fund r.gas l.store with
        | ok u s => exact absurd hfund (h r (.head _) s)
        | error e s =>
          rw [Linked.call_of_refused hfund]
          exact ⟨_, rfl⟩
    obtain ⟨contexts, hone⟩ := hone
    obtain ⟨contexts', hlive⟩ :=
      ih (l := ⟨l.linked, l.store, contexts⟩) hone fun r hr => h r (.tail _ hr)
    exact ⟨contexts', hlive⟩

omit [Wasm.Engine] in
theorem reports_oneFunction : ∀ e ∈ oneFunction.entries, e.2.function.Reports := by
  intro e he
  cases List.mem_singleton.mp he
  exact HostFunction.lower_reports _

/-- **Gas that runs out surfaces as out of gas**, from whatever depth: the call gives back nothing, and the
meter is exhausted, and stays so over calls that do not fund it. And no call succeeds that leaves the meter
exhausted. -/
theorem call_runs_out (h : (build code apis config).1 = .ok a) (history : List Use)
    (hready : (a.after history).state = .ready) (hl : (a.after history).live = some l) {c : Compiled}
    (hc : (a.after history).compiled = some c)
    (hreports : ∀ e ∈ c.apis.entries, e.2.function.Reports) (method : String) (gas : Int64)
    (args : List Value) :
    let x := (a.after history).call method gas args
    (∀ m, l.linked.During config.initExport method gas args ⟨l.store, l.contexts, #[]⟩ m →
      l.linked.RunsOut m →
        x.result = .error (.error ⟨.outOfGas, 0⟩) ∧
        ∃ l', x.state.live = some l' ∧ ∀ requests : List Request,
          (∀ r ∈ requests, ∀ s, l.linked.meter.fund r.gas l'.store ≠ .ok () s) →
          ∃ l'', (x.state.after (requests.map Request.use)).live = some l'' ∧
            l''.linked = l.linked ∧ l.linked.Exhausted l''.store) ∧
      ∀ l', x.state.live = some l' → l.linked.Exhausted l'.store → ∀ output, x.result ≠ .ok output := by
  have hstands := stands_after h history
  obtain ⟨hcallable, hjoins, hinstance, hsound⟩ := hstands.of_ready hready hl hc
  have hsound' := hstands.sound_call hl method gas args
  obtain ⟨-, -, hlive⟩ := state_call hcallable method gas args
  refine ⟨?_, ?_⟩
  · intro m hduring hout
    obtain ⟨w', hcall, hspent⟩ :=
      hduring.call_fails (hjoins.fit hstands.checked) (hjoins.reporting hreports) hsound hout
    have hguest : (a.after history).guestCall l method gas args = .error (.error ⟨.outOfGas, 0⟩) w' := by
      unfold guestCall
      rw [hstands.config, hcall]
    rw [hguest] at hlive hsound'
    refine ⟨result_of_error hcallable hguest, _, hlive, ?_⟩
    intro requests hrequests
    obtain ⟨contexts, hafter⟩ := live_after_refused hlive hrequests
    exact ⟨_, hafter, rfl, (Linked.spent_iff hinstance hsound').mp hspent⟩
  · intro l' hl' hexhausted output hresult
    cases hlive.symm.trans hl'
    have hspent := (Linked.spent_iff hinstance hsound').mpr hexhausted
    cases hguest : (a.after history).guestCall l method gas args with
    | ok output' w' =>
      rw [hguest] at hspent
      exact Instance.call_ne_ok hspent hguest
    | error e w' =>
      rw [result_of_error hcallable hguest] at hresult
      cases hresult

end

/-- The store on which the step stops for lack of fuel, if it does. -/
def dry? {Thread : Type} : Wasm.Step Thread → Option Wasm.Store
  | .trap .outOfFuel s => some s
  | _ => none

theorem eq_of_dry {Thread : Type} {x : Wasm.Step Thread} {s : Wasm.Store} (h : dry? x = some s) :
    x = .trap .outOfFuel s := by
  unfold dry? at h
  split at h
  · cases h
    rfl
  · cases h

/-- Calls without a budget of an aspect that is metered by fuel. -/
theorem call_runs_out_idle :
    ∃ l m, idle.live = some l ∧
      l.linked.During fuelled.initExport "f" 0 [] ⟨l.store, l.contexts, #[]⟩ m ∧ l.linked.RunsOut m ∧
      (idle.call "f" 0 []).result = .error (.error ⟨.outOfGas, 0⟩) := by
  obtain ⟨hready, l, c, hl, hc, hapis, -⟩ := idle_stands
  have hreports : ∀ e ∈ c.apis.entries, e.2.function.Reports := hapis ▸ reports_oneFunction
  have hmethod : (idle.live.map fun l => l.linked.toInstance.method "f" 0) = some (.ok 0) := by
    decide +kernel
  -- The method is entered without fuel.
  have hdry : (idle.live.bind fun l =>
      (Act.success? (l.linked.meter.fund 0 l.store)).bind fun x =>
        (Act.success? (l.linked.toInstance.runHook fuelled.initExport ⟨x.2, l.contexts, #[]⟩)).bind
          fun y => dry? (Wasm.Engine.start l.linked.program none 0 [] y.2.guest)).isSome = true := by
    decide +kernel
  obtain ⟨s', hdry⟩ := Option.isSome_iff_exists.mp hdry
  simp only [hl, Option.map_some, Option.some.injEq] at hmethod
  simp only [hl, Option.bind_some, Option.bind_eq_some_iff] at hdry
  obtain ⟨⟨u, s⟩, hfund, ⟨u', w⟩, hprepared, hstart⟩ := hdry
  have hfund := Act.success?_eq_some.mp hfund
  have hprepared := Act.success?_eq_some.mp hprepared
  have hduring : l.linked.During fuelled.initExport "f" 0 [] ⟨l.store, l.contexts, #[]⟩
      (l.linked.opening 0 [] w) :=
    ⟨s, _, hfund, .method hprepared hmethod rfl, .refl⟩
  have hout : l.linked.RunsOut (l.linked.opening 0 [] w) := by
    unfold Linked.opening Linked.entry
    rw [eq_of_dry hstart]
    exact .fuel _ _ _ _
  exact ⟨l, _, hl, hduring, hout,
    ((call_runs_out build_idle [] hready hl hc hreports "f" 0 []).1 _ hduring hout).1⟩

/-- **Out of gas is reported of an exhausted meter, or of one that cannot be read.** -/
theorem outOfGas_exhausted [Wasm.Engine] (h : (build code apis config).1 = .ok a) (history : List Use)
    (hready : (a.after history).state = .ready) (hl : (a.after history).live = some l) {c : Compiled}
    (hc : (a.after history).compiled = some c)
    (hreports : ∀ e ∈ c.apis.entries, e.2.function.Reports) (method : String) (gas : Int64)
    (args : List Value) {left : Int64}
    (hresult : ((a.after history).call method gas args).result = .error (.error ⟨.outOfGas, left⟩)) :
    ∃ l', ((a.after history).call method gas args).state.live = some l' ∧ l'.linked = l.linked ∧
      (l.linked.Exhausted l'.store ∨
        ∃ reason, l.linked.meter.counter l'.store = .error (.counterUnavailable reason)) := by
  have hstands := stands_after h history
  obtain ⟨hcallable, hjoins, hinstance, hsound⟩ := hstands.of_ready hready hl hc
  have hsound' := hstands.sound_call hl method gas args
  obtain ⟨-, -, hlive⟩ := state_call hcallable method gas args
  refine ⟨_, hlive, rfl, ?_⟩
  cases hguest : (a.after history).guestCall l method gas args with
  | ok output w' =>
    rw [result_of_ok hcallable hguest] at hresult
    cases hresult
  | error e w' =>
    rw [result_of_error hcallable hguest] at hresult
    rw [hguest] at hsound'
    cases hresult
    obtain hspent | hunread := Linked.call_eq_outOfGas (hjoins.fit hstands.checked)
      (hjoins.reporting hreports) hsound hguest
    · exact .inl ((Linked.spent_iff hinstance hsound').mp hspent)
    · exact .inr hunread

theorem outOfGas_exhausted_idle :
    (idle.call "f" 0 []).result = .error (.error ⟨.outOfGas, 0⟩) ∧
      ∃ l l', idle.live = some l ∧ (idle.call "f" 0 []).state.live = some l' ∧
        l'.linked = l.linked ∧ (l.linked.Exhausted l'.store ∨
          ∃ reason, l.linked.meter.counter l'.store = .error (.counterUnavailable reason)) := by
  obtain ⟨hready, l, c, hl, hc, hapis, -⟩ := idle_stands
  have hreports : ∀ e ∈ c.apis.entries, e.2.function.Reports := hapis ▸ reports_oneFunction
  have hresult : (idle.call "f" 0 []).result = .error (.error ⟨.outOfGas, 0⟩) := by decide +kernel
  obtain ⟨l', hlive, hlinked, hmeter⟩ :=
    outOfGas_exhausted build_idle [] hready hl hc hreports "f" 0 [] hresult
  exact ⟨hresult, l, l', hl, hlive, hlinked, hmeter⟩

/-- The same module where a global is to count gas. It exports none. -/
def uncounted : Aspect :=
  match (build idleCode oneFunction {}).1 with
  | .ok a => a
  | .error _ => ⟨{}, none, none, false⟩

theorem outOfGas_uncounted :
    (build idleCode oneFunction {}).1.isOk = true ∧ uncounted.state = .ready ∧
      (uncounted.call "f" 10 []).result = .error (.error ⟨.outOfGas, 0⟩) ∧
      ((uncounted.call "f" 10 []).state.live.map fun l => l.linked.meter.counter l.store) =
        some (.error (.counterUnavailable "guest does not export global '__gas_counter__'")) := by
  decide +kernel

end Aspect
end AspectHost
