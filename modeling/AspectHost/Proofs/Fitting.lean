import AspectHost.Proofs.Exports
import AspectHost.Proofs.Missing
import AspectHost.Proofs.Standing

/-! # Validated code fits the host

Once code is complete, no access to its memory and no allocation fails for want of an export, at whatever
depth, and so nothing that a call reports tells of a missing export, unless a host function fails with such a
text itself (`Linked.Complete.equipped`). Linking makes complete instances of validated code, whatever the
host functions are, and no use of an aspect changes its code (`validated_fits`). -/

namespace AspectHost

variable {F : Prop}

/-! ## Failures that tell of a missing export only if `F` -/

def HostError.Spares (F : Prop) (e : HostError) : Prop := TellsMissing e.message → F

def MemoryError.Spares (F : Prop) (c : MemoryError) : Prop := (HostError.memory c).Spares F

def Failure.Spares (F : Prop) (f : Failure) : Prop := TellsMissing f.message → F

theorem HostError.spares_of_ne {e : HostError} (hm : ∀ c, e ≠ .memory c) (ht : ∀ t, e ≠ .hostFunction t) :
    e.Spares F := by
  intro h
  obtain ⟨c, hc⟩ | ⟨t, h⟩ := HostError.of_tells h
  · exact absurd hc (hm c)
  · exact absurd h (ht t)

theorem HostError.spares_ofGas (e : GasError) : (HostError.ofGas e).Spares F := by
  cases e <;> exact HostError.spares_of_ne nofun nofun

theorem MemoryError.spares_of_ne {c : MemoryError} (hm : ∀ n, c ≠ .noMemoryExport n)
    (ha : ∀ n, c ≠ .noAllocator n) (he : ∀ t, c = .engine t → TellsMissing t → F) : c.Spares F := by
  intro h
  obtain ⟨n, hn⟩ | ⟨n, hn⟩ | ⟨t, ht, htells⟩ := MemoryError.of_tells h
  · exact absurd hn (hm n)
  · exact absurd hn (ha n)
  · exact he t ht htells

theorem spares_notReady : (MemoryError.engine Linked.notReady).Spares F := by
  refine MemoryError.spares_of_ne nofun nofun ?_
  rintro t ht h
  cases ht
  exact absurd h.letter_first (Departs.ne rfl)

theorem spares_trap (cause : Wasm.Trap) : (Failure.trap cause).Spares F :=
  fun h => absurd h.letter_first cause.departs.ne

/-- The text of a hook that takes something. -/
theorem spares_arity (n : Nat) : (Failure.misuse s!"expected {n} arguments, got 0").Spares F := by
  have hexpected : Departs "expected " 0 'R' := by rfl
  exact fun h => absurd h.letter_first ((hexpected.append _).append _).ne

theorem checkBounds_spares {p n : Int64} {size : Nat} {c : MemoryError}
    (h : checkBounds p n size = .error c) : c.Spares F := by
  unfold checkBounds at h
  repeat' split at h
  all_goals
    cases h
    try exact MemoryError.spares_of_ne nofun nofun nofun

namespace Linked.Complete

variable {L : Linked} (h : L.Complete)

include h

/-! ## Memory and allocator -/

theorem content_spares {s : Wasm.Store} {c : MemoryError} (hc : L.content s = .error c) : c.Spares F := by
  rw [h.content_eq] at hc
  split at hc <;> cases hc
  exact spares_notReady

theorem read_spares {p : Pointer} {n : Int32} {s : Wasm.Store} {c : MemoryError}
    (hc : L.memory.read p n s = .error c) : c.Spares F := by
  obtain hc | ⟨m, -, hc⟩ := bind_eq_error.mp hc
  · exact h.content_spares hc
  · obtain hc | ⟨start, -, hc⟩ := bind_eq_error.mp hc
    · exact checkBounds_spares hc
    · cases hc

theorem write_spares {p : Pointer} {b : Bytes} {s : Wasm.Store} {c : MemoryError}
    (hc : L.memory.write p b s = .error c) : c.Spares F := by
  obtain hc | ⟨n, -, hc⟩ := bind_eq_error.mp hc
  · cases hcontent : L.content s with
    | error c' =>
      rw [hcontent] at hc
      cases hc
      exact h.content_spares hcontent
    | ok m =>
      rw [hcontent] at hc
      cases hc
  · obtain hc | ⟨start, -, hc⟩ := bind_eq_error.mp hc
    · exact checkBounds_spares hc
    · cases hc

theorem readValue_spares {p : Pointer} {s : Wasm.Store} {e : HostError}
    (he : L.memory.readValue p s = .error e) : e.Spares F := by
  obtain ⟨n, c, hc, rfl⟩ | ⟨q, n, k, rfl⟩ | ⟨c, rfl⟩ := GuestMemory.readValue_eq_error he
  · exact h.read_spares hc
  · exact MemoryError.spares_of_ne nofun nofun nofun
  · exact HostError.spares_of_ne nofun nofun

variable {invoke : Invocation} (hinvoke : ∀ f vs, Act.FailsOnly (Failure.Spares F) (invoke f vs))

include hinvoke

theorem allocate_spares (size : Int32) : Act.FailsOnly (MemoryError.Spares F) (L.allocate invoke size) := by
  obtain ⟨f, hf⟩ := h.allocator_eq
  unfold Linked.allocate
  refine (Act.FailsOnly.ofExcept ?_).bind fun g => ?_
  · intro c hc
    rw [hf] at hc
    split at hc <;> cases hc
    exact spares_notReady
  · refine ((((hinvoke g _).noting noteTrap).imp ?_).mapError).bind fun results => ?_
    · intro failure hfailure
      refine MemoryError.spares_of_ne nofun nofun ?_
      rintro t ht htells
      cases ht
      exact hfailure htells
    · split
      · split
        · exact .fail (MemoryError.spares_of_ne nofun nofun nofun)
        · exact .pure _
      · exact .throw nofun

theorem writeValue_spares (v : Value) :
    Act.FailsOnly (HostError.Spares F) ((L.guest invoke).writeValue v) := by
  intro w
  rw [Guest.writeValue_eq]
  split
  · exact .error nofun
  · rename_i b _
    split
    · have hrefused : (HostError.memory (.allocationFailed Int32.maxValue)).Spares F :=
        MemoryError.spares_of_ne nofun nofun nofun
      exact Act.FailsOnly.ends_error hrefused w
    · have hallocate := h.allocate_spares hinvoke (Int32.ofNat b.length) w
      split
      · rename_i e w' he
        have ha : L.allocate invoke (Int32.ofNat b.length) w = .error e w' := he
        rw [ha] at hallocate
        refine .error fun cause hcause => ?_
        obtain ⟨c, rfl, rfl⟩ := Stop.map_eq_error.mp hcause
        exact hallocate.of_error c rfl
      · split
        · rename_i c hc
          have hwrite : (HostError.memory c).Spares F := h.write_spares hc
          exact Act.FailsOnly.ends_error hwrite _
        · exact .ok trivial

end Linked.Complete

/-! ## Host calls -/

section

variable {γ α : Type} {G : Guest γ} {api : LinkedApi}

theorem metered_spares (x : GasM γ α) : Act.FailsOnly (HostError.Spares F) (metered x) := by
  intro w
  unfold metered
  split
  · exact .ok trivial
  · exact Act.FailsOnly.ends_error (HostError.spares_ofGas _) _

theorem hosted_spares {x : HostM γ α} (hx : Act.FailsOnly (HostError.Spares F) x) :
    Act.FailsOnly (Failure.Spares F) (Instance.hosted x) := by
  have hhost : Act.FailsOnly (fun e => (Failure.host e).Spares F) x := hx
  exact hhost.mapError

theorem reconcile_spares (G : Guest γ) (api : LinkedApi) (rest : Int64) (report : Report) :
    Act.FailsOnly (HostError.Spares F) (reconcile G api rest report) := by
  intro w
  rw [reconcile_eq]
  split
  · have hout : Act.FailsOnly (HostError.Spares F) (Act.fail .outOfGas : HostM γ Unit) :=
      .fail (HostError.spares_of_ne nofun nofun)
    exact (metered_spares _).bind (fun _ => hout) _
  · split
    · exact Act.FailsOnly.ends_error (HostError.spares_ofGas _) w
    · exact metered_spares _ w

/-- A host call whose function is done fails with the function's failure, or for one of its own reasons. -/
theorem finish_spares (hwrite : ∀ v, Act.FailsOnly (HostError.Spares F) (G.writeValue v))
    (payload rest : Int64) (report : Report) (hreport : ∀ e, report = .error e → e.Spares F) :
    Act.FailsOnly (HostError.Spares F) (finish G api payload rest report) := by
  have hdone : ∀ p : Option Pointer, Act.FailsOnly (HostError.Spares F)
      (do modify (·.record (.hostCallDone api.name payload)); return p : HostM γ (Option Pointer)) :=
    fun _ _ => .ok trivial
  unfold finish
  refine (reconcile_spares G api rest report).bind fun _ => ?_
  cases report with
  | error e => exact (Act.FailsOnly.fail (hreport e rfl)).bind hdone
  | ok r =>
    cases r with
    | none => exact hdone none
    | some v => exact ((hwrite v).map some).bind hdone

theorem conclude_spares (hwrite : ∀ v, Act.FailsOnly (HostError.Spares F) (G.writeValue v))
    (payload rest : Int64) (w : World γ) {r : EStateM.Result (Stop HostError) Quota (Option Value)}
    (hr : ∀ e q, r = .error (.error e) q → e.Spares F) :
    Act.Ends (fun _ _ => True) (fun e _ => ∀ cause, e = .error cause → cause.Spares F)
      (conclude G api payload rest w r) := by
  cases r with
  | ok v q => exact finish_spares hwrite payload rest (.ok v) nofun (w.setContext api.slot q)
  | error e q =>
    cases e with
    | error e =>
      have hreport : ∀ e', (.error e : Report) = .error e' → e'.Spares F := by
        rintro e' he'
        cases he'
        exact hr e q rfl
      exact finish_spares hwrite payload rest (.error e) hreport (w.setContext api.slot q)
    | panic => exact .error nofun
    | unanswered => exact .error nofun

theorem dispatch_spares (hwrite : ∀ v, Act.FailsOnly (HostError.Spares F) (G.writeValue v))
    (hread : ∀ p s e, G.memory.readValue p s = .error e → e.Spares F)
    (hapi : ∀ args q e q', api.function.call args q = .error (.error e) q' → e.Spares F)
    (ps : List Pointer) : Act.FailsOnly (HostError.Spares F) (dispatch G api ps) := by
  intro w
  rw [dispatch_eq]
  split
  · rename_i e he
    obtain ⟨p, -, hp⟩ := GuestMemory.readValues_eq_error he
    exact Act.FailsOnly.ends_error (hread p w.guest e hp) w
  · split
    · exact Act.FailsOnly.ends_error (HostError.spares_ofGas _) _
    · rw [runCharged_eq]
      split
      · exact Act.FailsOnly.ends_error (HostError.spares_ofGas _) _
      · exact conclude_spares hwrite _ _ _ fun e q he => hapi _ _ e q he

end

namespace Linked

variable {L : Linked}

/-- The functions behind the imports fail with such texts only if `F`. -/
def Discreet (L : Linked) (F : Prop) : Prop :=
  ∀ api, .api api ∈ L.imports → ∀ args q e q', api.function.call args q = .error (.error e) q' → e.Spares F

theorem method_spares [Wasm.Engine] {name : String} {count : Nat} {e : HostError}
    (he : L.toInstance.method name count = .error e) : e.Spares F := by
  unfold Instance.method at he
  split at he
  · cases he
    exact HostError.spares_of_ne nofun nofun
  · split at he
    · cases he
      exact HostError.spares_of_ne nofun nofun
    · split at he <;> cases he
      exact HostError.spares_of_ne nofun nofun

namespace Complete

variable (h : L.Complete)

include h

theorem callOffer_spares (hL : L.Discreet F) {invoke : Invocation}
    (hinvoke : ∀ f vs, Act.FailsOnly (Failure.Spares F) (invoke f vs)) {offer : Offer}
    (hoffer : offer ∈ L.imports) (ps : List Pointer) :
    Act.FailsOnly (HostError.Spares F) (L.callOffer invoke offer ps) := by
  unfold callOffer
  split
  · rename_i api
    refine (dispatch_spares (h.writeValue_spares hinvoke) ?_ (hL api hoffer) ps).bind fun p => .pure _
    exact fun p s e he => h.readValue_spares he
  · exact fun w => .ok trivial
  · exact .throw nofun

variable [Wasm.Engine]

/-- **A run fails with nothing that tells of a missing export**, with all that it calls back. -/
theorem run_spares (hL : L.Discreet F) (n : Nat) (x : Wasm.Step Wasm.Engine.Thread) (contexts : Array UInt64)
    (events : Array Event) :
    Act.Ends (fun _ _ => True) (fun e _ => ∀ f, e = .error f → f.Spares F) (L.run n x contexts events) := by
  -- On the budget: the thread goes on with one step less, and so does what it calls back.
  induction n generalizing x contexts events with
  | zero =>
    cases x with
    | done results s => exact .ok trivial
    | trap cause s => exact Act.FailsOnly.ends_error (spares_trap cause) _
    | stuck s => exact .error nofun
    | next t s => exact .error nofun
    | callOut i args t s => exact .error nofun
  | succ n ih =>
    cases x with
    | done results s => exact .ok trivial
    | trap cause s => exact Act.FailsOnly.ends_error (spares_trap cause) _
    | stuck s => exact .error nofun
    | next t s => exact ih _ _ _
    | callOut i args t s =>
      change Act.Ends _ _ (L.ending ⟨n + 1, .callOut i args t s, contexts, events⟩)
      cases hfound : L.imports[i]? with
      | none =>
        have hend : L.ending ⟨n + 1, .callOut i args t s, contexts, events⟩ =
            .error .unanswered ⟨s, contexts, events⟩ := by
          simp only [ending, run, hfound]
        rw [hend]
        exact .error nofun
      | some offer =>
        have hinvoke : ∀ f vs, Act.FailsOnly (Failure.Spares F) (L.below n t f vs) :=
          fun f vs w => ih _ _ _
        have hcall := h.callOffer_spares hL hinvoke (List.mem_of_getElem? hfound) (pointers args)
          ⟨s, contexts, events⟩
        cases hr : L.callOffer (L.below n t) offer (pointers args) ⟨s, contexts, events⟩ with
        | ok results w =>
          rw [ending_of_back hfound hr]
          exact ih _ _ _
        | error e w =>
          rw [hr] at hcall
          rw [ending_of_failed hfound hr]
          refine .error fun f hf => ?_
          obtain ⟨c, rfl, rfl⟩ := Stop.map_eq_error.mp hf
          exact hcall.of_error c rfl

theorem invoke_spares (hL : L.Discreet F) (f : Nat) (vs : List Wasm.Val) :
    Act.FailsOnly (Failure.Spares F) (L.invoke f vs) :=
  fun _ => h.run_spares hL _ _ _ _

theorem below_spares (hL : L.Discreet F) (n : Nat) (t : Wasm.Engine.Thread) (f : Nat) (vs : List Wasm.Val) :
    Act.FailsOnly (Failure.Spares F) (L.below n t f vs) :=
  fun _ => h.run_spares hL _ _ _ _

/-! ## Calls -/

theorem writeArguments_spares (hL : L.Discreet F) (args : List Value) :
    Act.FailsOnly (HostError.Spares F) (L.toInstance.writeArguments args) := by
  induction args with
  | nil => exact .pure []
  | cons v vs ih =>
    exact (h.writeValue_spares (h.invoke_spares hL) v).bind fun p => ih.bind fun ps => .pure (p :: ps)

theorem readResult_spares (results : List Wasm.Val) :
    Act.FailsOnly (HostError.Spares F) (L.toInstance.readResult results) := by
  have hread : ∀ p, Act.FailsOnly (HostError.Spares F) (L.toInstance.readValue p) := by
    intro p w
    unfold Guest.readValue Act.query
    split
    · exact .ok trivial
    · rename_i e he
      exact Act.FailsOnly.ends_error (h.readValue_spares he) w
  unfold Instance.readResult
  split
  · split
    · exact .pure none
    · exact (hread _).map _
  · exact .pure none

theorem runHook_spares (hL : L.Discreet F) (hook : String) :
    Act.FailsOnly (Failure.Spares F) (L.toInstance.runHook hook) := by
  intro w
  cases hfound : L.toInstance.function? hook with
  | none =>
    unfold Instance.runHook
    rw [hfound]
    exact .ok trivial
  | some e =>
    obtain ⟨t, f⟩ := e
    by_cases hparams : t.params = []
    · rw [Instance.runHook_of_found hfound hparams]
      exact (h.invoke_spares hL f []).bind (fun _ => .pure ()) w
    · unfold Instance.runHook
      rw [hfound]
      dsimp only
      rw [if_pos hparams]
      exact Act.FailsOnly.ends_error (spares_arity t.params.length) w

theorem run_call_spares (hL : L.Discreet F) (hook name : String) (gas : Int64) (args : List Value) :
    Act.FailsOnly (Failure.Spares F) (L.toInstance.run hook name gas args) := by
  unfold Instance.run Instance.perform
  refine (hosted_spares (metered_spares _)).bind fun _ => ?_
  refine (h.runHook_spares hL hook).bind fun _ => ?_
  refine (hosted_spares (.ofExcept fun e he => method_spares he)).bind fun f => ?_
  refine (hosted_spares (h.writeArguments_spares hL args)).bind fun ps => ?_
  exact (h.invoke_spares hL f _).bind fun results => hosted_spares (h.readResult_spares results)

end Complete

end Linked

/-! ## What calls report -/

/-- The error reports that an export is missing, itself or as the cause of a trap. -/
def HostError.Blames (e : HostError) : Prop :=
  TellsMissing e.message ∨ ∃ t, e = .executionTrap t ∧ TellsMissing t

theorem HostError.Blames.of_ne {e : HostError} (h : e.Blames) (hm : ∀ c, e ≠ .memory c)
    (ht : ∀ t, e ≠ .hostFunction t) : ∃ t, e = .executionTrap t ∧ TellsMissing t := by
  obtain h | h := h
  · exact absurd h (HostError.spares_of_ne hm ht)
  · exact h

theorem HostError.not_blames_ofGas (e : GasError) : ¬ (HostError.ofGas e).Blames := by
  intro h
  cases e <;> obtain ⟨t, ht, -⟩ := h.of_ne nofun nofun <;> cases ht

theorem Instance.classify_spares {γ : Type} (I : Instance γ) (g : γ) {f : Failure} (h : f.Spares F)
    (hblames : (I.classify g f).Blames) : F := by
  have htrap : (HostError.executionTrap f.message).Blames → F := by
    intro hb
    obtain ⟨t, ht, htells⟩ := hb.of_ne nofun nofun
    cases ht
    exact h htells
  have hother : ∀ e : HostError, e.Blames → (∀ c, e ≠ .memory c) → (∀ t, e ≠ .hostFunction t) →
      (∀ t, e ≠ .executionTrap t) → F := by
    intro e hb hm hf ht
    obtain ⟨t, he, -⟩ := hb.of_ne hm hf
    exact absurd he (ht t)
  unfold Instance.classify at hblames
  repeat' split at hblames
  all_goals first
    | exact htrap hblames
    | exact hother _ hblames nofun nofun nofun

namespace Linked

/-- What a call reports tells of a missing export only if a host function does. -/
theorem Complete.call_spares [Wasm.Engine] {L : Linked} (h : L.Complete) (hL : L.Discreet F)
    (hook name : String) (gas : Int64) (args : List Value) :
    Act.FailsOnly (fun e => e.error.Blames → F) (L.toInstance.call hook name gas args) := by
  intro w
  have hrun := h.run_call_spares hL hook name gas args w
  cases hr : L.toInstance.run hook name gas args w with
  | ok value w' =>
    rw [Instance.call_of_ok hr]
    split
    · exact .ok trivial
    · refine .error fun cause hcause hblames => ?_
      cases hcause
      exact absurd hblames (HostError.not_blames_ofGas _)
  | error e w' =>
    rw [hr] at hrun
    rw [Instance.call_of_error hr]
    refine .error fun cause hcause => ?_
    obtain ⟨failure, rfl, rfl⟩ := Stop.map_eq_error.mp hcause
    exact L.toInstance.classify_spares _ (hrun.of_error failure rfl)

end Linked

/-- A host function fails with a text that tells of a missing export. -/
def Registry.Forges (r : Registry) : Prop :=
  ∃ e ∈ r.entries, ∃ args q cause q', e.2.function.call args q = .error (.error cause) q' ∧
    TellsMissing cause.message

/-- What the host looks up in linked guest code is there, and nothing that the host does with it reports a
missing export, unless a host function forges that. -/
structure Linked.Equipped [Wasm.Engine] (L : Linked) (r : Registry) : Prop where
  content : L.ready = true → ∀ s, L.content s = .ok s.memory
  allocator : L.ready = true → ∃ f, L.allocator = .ok f
  write : ∀ args, Act.FailsOnly (HostError.Spares r.Forges) (L.toInstance.writeArguments args)
  read : ∀ results, Act.FailsOnly (HostError.Spares r.Forges) (L.toInstance.readResult results)
  /-- From within a run, at any depth. -/
  dispatch : ∀ n t api, .api api ∈ L.imports → ∀ ps,
    Act.FailsOnly (HostError.Spares r.Forges) (dispatch (L.guest (L.below n t)) api ps)
  call : ∀ hook name gas args,
    Act.FailsOnly (fun e => e.error.Blames → r.Forges) (L.toInstance.call hook name gas args)

namespace Linked

variable {L : Linked} {c : Compiled} {config : Config}

theorem Joins.discreet (h : L.Joins c config) : L.Discreet c.apis.Forges := by
  intro api hapi args q e q' hcall htells
  obtain ⟨entry, hentry, hfunction⟩ := h.backed _ hapi api rfl
  exact ⟨entry, hentry, args, q, e, q', hfunction ▸ hcall, htells⟩

/-- **Complete code is equipped** for whatever host functions it is linked to. -/
theorem Complete.equipped [Wasm.Engine] (h : L.Complete) {r : Registry} (hL : L.Discreet r.Forges) :
    L.Equipped r where
  content hready s := by rw [h.content_eq, if_pos hready]
  allocator hready := by
    obtain ⟨f, hf⟩ := h.allocator_eq
    exact ⟨f, by rw [hf, if_pos hready]⟩
  write := h.writeArguments_spares hL
  read := h.readResult_spares
  dispatch n t api hapi ps := dispatch_spares (h.writeValue_spares (h.below_spares hL n t))
    (fun _ _ _ he => h.readValue_spares he) (hL api hapi) ps
  call := h.call_spares hL

end Linked

namespace Aspect

section

variable [Wasm.Engine] {config : Config} {a : Aspect} {module : Wasm.Module}

/-- No use of an aspect changes its code. -/
theorem module_use (h : ∀ c, a.compiled = some c → c.module = module) (u : Use) :
    ∀ c, (a.use u).compiled = some c → c.module = module := by
  cases u with
  | call method gas args =>
    cases hcallable : a.callable with
    | error e =>
      simp only [use, Aspect.call, hcallable]
      exact h
    | ok l =>
      intro c hc
      exact h c ((state_call hcallable method gas args).2.1 ▸ hc)
  | reset apis =>
    change ∀ c, (a.reset apis).state.compiled = some c → c.module = module
    unfold Aspect.reset
    split
    · exact h
    · cases hc : a.compiled with
      | none => simp [hc]
      | some c =>
        have hmodule := h c hc
        dsimp only
        split <;>
        · intro c' hc'
          cases hc'
          exact hmodule
  | release => exact h

theorem module_after (h : ∀ c, a.compiled = some c → c.module = module) (history : List Use) :
    ∀ c, (a.after history).compiled = some c → c.module = module := by
  induction history generalizing a with
  | nil => exact h
  | cons u us ih => exact ih (module_use h u)

theorem module_of_build {code : Bytes} {apis : Registry} (hread : Wasm.Engine.read code = .ok module)
    (h : (build code apis config).1 = .ok a) : ∀ c, a.compiled = some c → c.module = module := by
  obtain ⟨-, module', hcompile, hkeeps⟩ := Keeps.of_build h
  cases hread.symm.trans (read_of_compile hcompile)
  obtain ⟨r, hr⟩ := hkeeps.compiled
  intro c hc
  cases hr.symm.trans hc
  rfl

omit [Wasm.Engine] in
/-- Where there is nothing to call, no export is missed. -/
theorem not_blames_of_callable {e : HostError} (h : a.callable = .error e) : ¬ e.Blames := by
  have hstate : e = .failedLockEngine ∨ e = .destroyed ∨ e = .notInstantiated := by
    unfold callable at h
    repeat' split at h
    all_goals
      cases h
      try decide
  intro hblames
  obtain rfl | rfl | rfl := hstate <;> obtain ⟨t, ht, -⟩ := hblames.of_ne nofun nofun <;> cases ht

end

end Aspect

/-- **Validated code fits the host.** Whatever it is linked to, and whatever was done with an aspect that was
built from it, the host finds the memory and the allocator, and no call, no argument that is written, no
result that is read and no host call reports that one of them is missing, not even within the text of a trap.
Only a host function that fails with such a text can make it look so. -/
theorem validated_fits [Wasm.Engine] {code : Bytes} {config : Config}
    (hvalid : (⟨config⟩ : Validator).validate code = .ok ()) :
    (∀ module r (L : Linked), Wasm.Engine.read code = .ok module → L.Joins ⟨module, r⟩ config →
      L.Equipped r) ∧
    ∀ apis a, (Aspect.build code apis config).1 = .ok a → ∀ history,
      (∀ l, (a.after history).live = some l → l.linked.ready = true ∧
        ∃ c, (a.after history).compiled = some c ∧ l.linked.Equipped c.apis) ∧
      ∀ method gas args e, ((a.after history).call method gas args).result = .error (.error e) →
        e.error.Blames → ∃ c, (a.after history).compiled = some c ∧ c.apis.Forges := by
  obtain ⟨module, hread, hdefect⟩ := Validator.validate_eq_ok hvalid
  have hequipped : ∀ r (L : Linked), L.Joins ⟨module, r⟩ config → L.Equipped r := fun r L hjoins =>
    (hjoins.complete (Wasm.Engine.valid_of_read hread) hdefect).equipped hjoins.discreet
  refine ⟨?_, ?_⟩
  · intro module' r L hread' hjoins
    cases hread.symm.trans hread'
    exact hequipped r L hjoins
  · intro apis a hbuild history
    have hstands := Aspect.stands_after hbuild history
    have hcode := Aspect.module_after (Aspect.module_of_build hread hbuild) history
    have hlive : ∀ l, (a.after history).live = some l → l.linked.ready = true ∧
        ∃ c, (a.after history).compiled = some c ∧ l.linked.Equipped c.apis := by
      intro l hl
      obtain ⟨c, hc, hjoins, hready, -⟩ := hstands.live l hl
      have hmodule := hcode c hc
      subst hmodule
      exact ⟨hready, c, hc, hequipped c.apis l.linked hjoins⟩
    refine ⟨hlive, ?_⟩
    intro method gas args e he hblames
    cases hcallable : (a.after history).callable with
    | error cause =>
      simp only [Aspect.call, hcallable] at he
      cases he
      exact absurd hblames (Aspect.not_blames_of_callable hcallable)
    | ok l =>
      obtain ⟨-, c, hc, hfits⟩ := hlive l (Aspect.live_of_callable hcallable).1
      refine ⟨c, hc, ?_⟩
      cases hg : (a.after history).guestCall l method gas args with
      | ok output w =>
        rw [Aspect.result_of_ok hcallable hg] at he
        cases he
      | error stop w =>
        rw [Aspect.result_of_error hcallable hg] at he
        cases he
        exact (hfits.call _ _ _ _).of_error hg hblames

/-- A module that exports a memory, an allocator that hands out what it is asked for, and one function that
does nothing. -/
def fittingCode : Bytes :=
  [0x00, 0x61, 0x73, 0x6d, 0x01, 0x00, 0x00, 0x00, 0x01, 0x09, 0x02, 0x60, 0x01, 0x7f, 0x01, 0x7f,
    0x60, 0x00, 0x00, 0x03, 0x03, 0x02, 0x00, 0x01, 0x05, 0x03, 0x01, 0x00, 0x01, 0x07, 0x19, 0x03,
    0x06, 0x6d, 0x65, 0x6d, 0x6f, 0x72, 0x79, 0x02, 0x00, 0x08, 0x61, 0x6c, 0x6c, 0x6f, 0x63, 0x61,
    0x74, 0x65, 0x00, 0x00, 0x01, 0x66, 0x00, 0x01, 0x0a, 0x09, 0x02, 0x04, 0x00, 0x20, 0x00, 0x0b,
    0x02, 0x00, 0x0b]

def fittingModule : Wasm.Module where
  types := [⟨[.i32], [.i32]⟩, ⟨[], []⟩]
  functions := [0, 1]
  memories := [⟨1, none⟩]
  exports := [⟨"memory", .memory, 0⟩, ⟨"allocate", .func, 0⟩, ⟨"f", .func, 1⟩]
  code := [⟨[], [.localGet 0]⟩, ⟨[], []⟩]

theorem read?_fittingCode : Wasm.Module.read? fittingCode = some fittingModule := by
  have hparsed : Wasm.Module.ofBytes? fittingCode = some fittingModule := by rfl
  have hnames : Wasm.Module.namesDiffer (fittingModule.exports.map Wasm.Export.name) = true := by
    simp [fittingModule, Wasm.Module.namesDiffer, List.mergeSort]
  have hvalid : fittingModule.valid {} = true := by
    unfold Wasm.Module.valid
    rw [hnames]
    decide +kernel
  unfold Wasm.Module.read?
  rw [hparsed]
  exact if_pos hvalid

theorem read_fittingCode : Wasm.Engine.read fittingCode = .ok fittingModule := by
  simp only [Wasm.Engine.read, read?_fittingCode]

theorem validate_fittingCode : (⟨Aspect.fuelled⟩ : Validator).validate fittingCode = .ok () := by
  unfold Validator.validate
  rw [read_fittingCode]
  decide +kernel

theorem build_fittingCode : (Aspect.build fittingCode .empty Aspect.fuelled).1.isOk = true := by
  have hcheck : Aspect.fuelled.check = .ok () := by decide
  have hcompile : compile fittingCode Aspect.fuelled = .ok fittingModule := by
    unfold compile
    rw [read_fittingCode]
    rfl
  rw [Aspect.build_eq hcheck hcompile]
  decide +kernel

/-- Nothing that is called on this code, with no host function at all, can report a missing export. -/
theorem validated_fits_fittingCode :
    (⟨Aspect.fuelled⟩ : Validator).validate fittingCode = .ok () ∧
      ∃ a, (Aspect.build fittingCode .empty Aspect.fuelled).1 = .ok a ∧ ∀ method gas args e,
        (a.call method gas args).result = .error (.error e) → ¬ e.error.Blames := by
  refine ⟨validate_fittingCode, ?_⟩
  have hok := build_fittingCode
  cases hbuild : (Aspect.build fittingCode .empty Aspect.fuelled).1 with
  | error e =>
    rw [hbuild] at hok
    cases hok
  | ok a =>
    refine ⟨a, rfl, ?_⟩
    intro method gas args e he hblames
    obtain ⟨c, hc, entry, hentry, -⟩ :=
      ((validated_fits validate_fittingCode).2 .empty a hbuild []).2 method gas args e he hblames
    rw [Aspect.apis_of_build hbuild hc] at hentry
    cases hentry

end AspectHost
