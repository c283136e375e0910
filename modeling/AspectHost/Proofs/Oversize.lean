import AspectHost.Proofs.Fitting
import AspectHost.Proofs.Host.Lifting

/-! # Oversized values

Two limits stand six bytes apart: the length field has to hold the length of the body, and the size that
is asked of the allocator counts the header too. Beyond the second a value is refused before anything
happens; beyond the first it breaks the host off. Nothing else in the host breaks off, at whatever depth
of calls, so where the length field holds every value that is passed and returned, calls resolve
(`sized_values_resolve`). -/

namespace AspectHost

variable {ε ε' σ α β γ : Type} {U : Prop}

/-! ## Activities that resolve -/

/-- It was not broken off, and there is no answer only if `U`. -/
def Stop.Told (U : Prop) : Stop ε → Prop
  | .error _ => True
  | .panic => False
  | .unanswered => U

theorem Stop.told_map {f : ε → ε'} {e : Stop ε} : (e.map f).Told U ↔ e.Told U := by cases e <;> rfl

namespace Act

/-- Whatever the state, the activity ends with a result or a failure; with neither only if `U`. -/
def Resolves (U : Prop) (x : Act ε σ α) : Prop := ∀ s, Ends (fun _ _ => True) (fun e _ => e.Told U) (x s)

namespace Resolves

variable {x : Act ε σ α}

theorem pure (a : α) : Resolves U (Pure.pure a : Act ε σ α) := fun _ => .ok trivial

theorem fail (e : ε) : Resolves U (Act.fail e : Act ε σ α) := fun _ => .error trivial

theorem unanswered : Resolves True (MonadExcept.throw .unanswered : Act ε σ α) := fun _ => .error trivial

theorem bind (hx : Resolves U x) {f : α → Act ε σ β} (hf : ∀ a, Resolves U (f a)) : Resolves U (x >>= f) :=
  fun s => (hx s).bind fun a s' _ => hf a s'

theorem map (hx : Resolves U x) (f : α → β) : Resolves U (f <$> x) := by
  rw [← bind_pure_comp]
  exact hx.bind fun a => pure (f a)

theorem mapError (hx : Resolves U x) (f : ε → ε') : Resolves U (Act.mapError f x) :=
  fun s => ((hx s).imp (fun _ _ h => h) fun _ _ h => Stop.told_map.mpr h).mapError

theorem ofExcept (y : Except ε α) : Resolves U (Act.ofExcept y : Act ε σ α) := by
  cases y with
  | ok a => exact pure a
  | error e => exact fail e

theorem query (f : σ → Except ε α) : Resolves U (Act.query f) := by
  intro s
  unfold Act.query
  split
  · exact .ok trivial
  · exact .error trivial

theorem metered (x : GasM γ α) : Resolves U (AspectHost.metered x) := by
  intro w
  unfold AspectHost.metered
  split
  · exact .ok trivial
  · exact .error trivial

theorem noting {x : Act Failure (World γ) α} (hx : Resolves U x) (note : Stop Failure → γ → γ) :
    Resolves U (AspectHost.noting note x) :=
  fun w => (hx w).noting fun _ _ h => h

end Resolves
end Act

/-! ## Writing values -/

namespace Guest

variable {G : Guest γ} {v : Value}

theorem writeValue_of_overlong (h : maxLength < v.bodyLength) (w : World γ) :
    G.writeValue v w = .error .panic w := by
  rw [writeValue_eq, Value.encode?_of_long h]

/-- The length field holds the body's length, but the size of the whole is none. -/
theorem writeValue_of_oversized (h : v.bodyLength ≤ maxLength)
    (hsize : maxLength < Header.size + v.bodyLength)
    (w : World γ) : G.writeValue v w = .error (.error (.memory (.allocationFailed Int32.maxValue))) w := by
  rw [writeValue_eq, Value.encode?_eq_some_iff.mpr ⟨h, rfl⟩]
  dsimp only
  rw [if_pos (v.length_encode ▸ hsize)]

theorem resolves_writeValue (hallocate : ∀ n, Act.Resolves U (G.allocate n)) (h : v.bodyLength ≤ maxLength) :
    Act.Resolves U (G.writeValue v) := by
  intro w
  rw [writeValue_eq, Value.encode?_eq_some_iff.mpr ⟨h, rfl⟩]
  dsimp only
  split
  · exact .error trivial
  · have hends := hallocate (Int32.ofNat (v.header.encode ++ v.body).length) w
    split
    · rename_i e w' he
      rw [he] at hends
      exact .error (Stop.told_map.mpr hends.of_error)
    · split
      · exact .error trivial
      · exact .ok trivial

end Guest

/-! ## Host calls -/

/-- The function does not break off, and what it returns the length field holds. -/
def HostFunction.Answers (U : Prop) (f : HostFunction) : Prop :=
  ∀ args q, Act.Ends (fun r _ => ∀ v, r = some v → v.bodyLength ≤ maxLength) (fun e _ => e.Told U)
    (f.call args q)

/-- What is judged before the function runs is no reason to break off. -/
theorem HostFunction.answers_of_body {f : HostFunction}
    (h : ∀ args q, Act.Ends (fun r _ => ∀ v, r = some v → v.bodyLength ≤ maxLength) (fun e _ => e.Told U)
      (f.body args q)) : f.Answers U := by
  intro args q
  unfold HostFunction.call
  split
  · exact .error trivial
  · cases mismatch? args f.signature.params with
    | some e => exact .error trivial
    | none => exact h args q

section

variable {G : Guest γ} {api : LinkedApi}

theorem resolves_reconcile (G : Guest γ) (api : LinkedApi) (rest : Int64) (report : Report) :
    Act.Resolves U (reconcile G api rest report) := by
  intro w
  rw [reconcile_eq]
  split
  · exact (Act.Resolves.metered _).bind (fun _ => .fail _) _
  · split
    · exact .error trivial
    · exact Act.Resolves.metered _ w

variable (hallocate : ∀ n, Act.Resolves U (G.allocate n))

include hallocate

theorem resolves_finish (payload rest : Int64) {report : Report}
    (hreport : ∀ v, report = .ok (some v) → v.bodyLength ≤ maxLength) :
    Act.Resolves U (finish G api payload rest report) := by
  have hdone : ∀ p : Option Pointer, Act.Resolves U
      (do modify (·.record (.hostCallDone api.name payload)); return p : HostM γ (Option Pointer)) :=
    fun _ _ => .ok trivial
  unfold finish
  refine (resolves_reconcile G api rest report).bind fun _ => ?_
  cases report with
  | error e => exact (Act.Resolves.fail e).bind hdone
  | ok r =>
    cases r with
    | none => exact hdone none
    | some v => exact ((Guest.resolves_writeValue hallocate (hreport v rfl)).map some).bind hdone

theorem resolves_conclude (payload rest : Int64) (w : World γ)
    {r : EStateM.Result (Stop HostError) Quota (Option Value)}
    (hr : Act.Ends (fun r _ => ∀ v, r = some v → v.bodyLength ≤ maxLength) (fun e _ => e.Told U) r) :
    Act.Ends (fun _ _ => True) (fun e _ => e.Told U) (conclude G api payload rest w r) := by
  cases hr with
  | ok hv => exact resolves_finish hallocate _ _ (fun v h => hv v (Except.ok.inj h)) _
  | @error e q he =>
    cases e with
    | error e => exact resolves_finish hallocate _ _ (fun _ h => by cases h) _
    | panic => exact he.elim
    | unanswered => exact .error he

theorem resolves_dispatch (hapi : api.function.Answers U) (ps : List Pointer) :
    Act.Resolves U (dispatch G api ps) := by
  intro w
  rw [dispatch_eq]
  split
  · exact .error trivial
  · split
    · exact .error trivial
    · rw [runCharged_eq]
      split
      · exact .error trivial
      · exact resolves_conclude hallocate _ _ _ (hapi _ _)

end

/-! ## Calls -/

namespace Instance

variable {I : Instance γ} (hinvoke : ∀ f vs, Act.Resolves U (I.invoke f vs))
  (hallocate : ∀ n, Act.Resolves U (I.allocate n))

include hallocate in
theorem resolves_writeArguments {args : List Value} (hargs : ∀ v ∈ args, v.bodyLength ≤ maxLength) :
    Act.Resolves U (I.writeArguments args) := by
  induction args with
  | nil => exact .pure []
  | cons v vs ih =>
    obtain ⟨hv, hvs⟩ := List.forall_mem_cons.mp hargs
    exact (Guest.resolves_writeValue hallocate hv).bind fun p => (ih hvs).bind fun ps => .pure (p :: ps)

theorem resolves_readResult (results : List Wasm.Val) : Act.Resolves U (I.readResult results) := by
  unfold readResult
  split
  · split
    · exact .pure none
    · exact (Act.Resolves.query _).map _
  · exact .pure none

include hinvoke in
theorem resolves_runHook (name : String) : Act.Resolves U (I.runHook name) := by
  unfold runHook
  cases I.function? name with
  | none => exact .pure _
  | some e =>
    have hrun : Act.Resolves U do
        let _ ← I.invoke e.2 []
        return PUnit.unit :=
      (hinvoke e.2 []).bind fun _ => .pure _
    dsimp only
    split
    · exact (Act.Resolves.fail _).bind fun _ => hrun
    · exact hrun

include hinvoke hallocate

/-- A call breaks off only in its guest code and on its arguments. -/
theorem resolves_call (hook name : String) (gas : Int64) {args : List Value}
    (hargs : ∀ v ∈ args, v.bodyLength ≤ maxLength) : Act.Resolves U (I.call hook name gas args) := by
  have hrun : Act.Resolves U (I.run hook name gas args) := by
    refine ((Act.Resolves.metered _).mapError _).bind fun _ => ?_
    refine (resolves_runHook hinvoke hook).bind fun _ => ?_
    refine ((Act.Resolves.ofExcept _).mapError _).bind fun f => ?_
    refine ((resolves_writeArguments hallocate hargs).mapError _).bind fun ps => ?_
    exact (hinvoke _ _).bind fun results => (resolves_readResult results).mapError _
  intro w
  have hends := hrun w
  cases hr : I.run hook name gas args w with
  | ok value w' =>
    rw [call_of_ok hr]
    split
    · exact .ok trivial
    · exact .error trivial
  | error e w' =>
    rw [hr] at hends
    rw [call_of_error hr]
    exact .error (Stop.told_map.mpr hends.of_error)

end Instance

/-! ## Linked guest code -/

namespace Linked

variable {L : Linked}

theorem resolves_allocate {invoke : Invocation} (hinvoke : ∀ f vs, Act.Resolves True (invoke f vs))
    (size : Int32) : Act.Resolves True (L.allocate invoke size) := by
  unfold Linked.allocate
  refine (Act.Resolves.ofExcept _).bind fun f => ?_
  refine (((hinvoke f _).noting noteTrap).mapError _).bind fun results => ?_
  split
  · split
    · exact .fail _
    · exact .pure _
  · exact .unanswered

/-- The functions behind the imports answer. -/
def Answering (L : Linked) : Prop := ∀ api, .api api ∈ L.imports → api.function.Answers True

theorem Joins.answering {c : Compiled} {config : Config} (h : L.Joins c config)
    (hc : ∀ e ∈ c.apis.entries, e.2.function.Answers True) : L.Answering := by
  intro api hapi
  obtain ⟨e, he, hfunction⟩ := h.backed _ hapi api rfl
  exact hfunction ▸ hc e he

variable (hL : L.Answering)

include hL

theorem resolves_callOffer {invoke : Invocation} (hinvoke : ∀ f vs, Act.Resolves True (invoke f vs))
    {offer : Offer} (hoffer : offer ∈ L.imports) (ps : List Pointer) :
    Act.Resolves True (L.callOffer invoke offer ps) := by
  unfold callOffer
  split
  · exact (resolves_dispatch (resolves_allocate hinvoke) (hL _ hoffer) ps).bind fun p => .pure _
  · exact fun w => .ok trivial
  · exact .unanswered

variable [Wasm.Engine]

/-- A run does not break off, nor does anything that it calls back. -/
theorem run_resolves (n : Nat) (x : Wasm.Step Wasm.Engine.Thread) (contexts : Array UInt64)
    (events : Array Event) :
    Act.Ends (fun _ _ => True) (fun e _ => e.Told True) (L.run n x contexts events) := by
  -- On the budget: the thread goes on with one step less, and so does what it calls back.
  induction n generalizing x contexts events with
  | zero =>
    cases x with
    | done results s => exact .ok trivial
    | _ => exact .error trivial
  | succ n ih =>
    cases x with
    | done results s => exact .ok trivial
    | trap cause s => exact .error trivial
    | stuck s => exact .error trivial
    | next t s => exact ih _ _ _
    | callOut i args t s =>
      change Act.Ends _ _ (L.ending ⟨n + 1, .callOut i args t s, contexts, events⟩)
      cases hfound : L.imports[i]? with
      | none =>
        have hend : L.ending ⟨n + 1, .callOut i args t s, contexts, events⟩ =
            .error .unanswered ⟨s, contexts, events⟩ := by
          simp only [ending, run, hfound]
        rw [hend]
        exact .error trivial
      | some offer =>
        have hinvoke : ∀ f vs, Act.Resolves True (L.below n t f vs) := fun f vs w => ih _ _ _
        have hcall := resolves_callOffer hL hinvoke (List.mem_of_getElem? hfound) (pointers args)
          ⟨s, contexts, events⟩
        cases hr : L.callOffer (L.below n t) offer (pointers args) ⟨s, contexts, events⟩ with
        | ok results w =>
          rw [ending_of_back hfound hr]
          exact ih _ _ _
        | error e w =>
          rw [hr] at hcall
          rw [ending_of_failed hfound hr]
          exact .error (Stop.told_map.mpr hcall.of_error)

theorem resolves_toInstance_call (hook name : String) (gas : Int64) {args : List Value}
    (hargs : ∀ v ∈ args, v.bodyLength ≤ maxLength) :
    Act.Resolves True (L.toInstance.call hook name gas args) := by
  have hinvoke : ∀ f vs, Act.Resolves True (L.invoke f vs) := fun f vs w => run_resolves hL _ _ _ _
  exact Instance.resolves_call hinvoke (resolves_allocate hinvoke) hook name gas hargs

end Linked

theorem Aspect.Stands.unbroken [Wasm.Engine] {a : Aspect} {config : Config} (h : a.Stands config)
    (hanswers : ∀ c, a.compiled = some c → ∀ e ∈ c.apis.entries, e.2.function.Answers True) (method : String)
    (gas : Int64) {args : List Value} (hargs : ∀ v ∈ args, v.bodyLength ≤ maxLength) :
    (a.call method gas args).result ≠ .error .panic := by
  intro hpanic
  cases hcallable : a.callable with
  | error cause =>
    simp only [Aspect.call, hcallable] at hpanic
    cases hpanic
  | ok l =>
    obtain ⟨c, hc, hjoins, -⟩ := h.live l (live_of_callable hcallable).1
    have hends :=
      Linked.resolves_toInstance_call (hjoins.answering (hanswers c hc)) a.config.initExport method gas
      hargs ⟨l.store, l.contexts, #[]⟩
    cases hg : a.guestCall l method gas args with
    | ok output w =>
      rw [result_of_ok hcallable hg] at hpanic
      cases hpanic
    | error stop w =>
      rw [result_of_error hcallable hg] at hpanic
      cases hpanic
      unfold guestCall at hg
      rw [hg] at hends
      exact hends.of_error

/-- **Where the length field holds every value, calls resolve.** Writing a value asks the allocator, and
ends with a pointer or a failure. A value whose size is none although its length is one is refused before
anything happens, and a longer one breaks the host off. A host call resolves if its function answers, and
so does every call of an aspect, whatever was done with it before, on arguments that the length field
holds. -/
theorem sized_values_resolve [Wasm.Engine] {G : Guest γ} (hallocate : ∀ n, Act.Resolves U (G.allocate n)) :
    (∀ v, v.bodyLength ≤ maxLength → Act.Resolves U (G.writeValue v)) ∧
    (∀ v w, v.bodyLength ≤ maxLength → maxLength < Header.size + v.bodyLength →
      G.writeValue v w = .error (.error (.memory (.allocationFailed Int32.maxValue))) w) ∧
    (∀ v w, maxLength < v.bodyLength → G.writeValue v w = .error .panic w) ∧
    (∀ api : LinkedApi, api.function.Answers U → ∀ ps, Act.Resolves U (dispatch G api ps)) ∧
    ∀ code apis config a, (Aspect.build code apis config).1 = .ok a → ∀ history,
      (∀ c, (a.after history).compiled = some c → ∀ e ∈ c.apis.entries, e.2.function.Answers True) →
      ∀ method gas args, (∀ v ∈ args, v.bodyLength ≤ maxLength) →
        ((a.after history).call method gas args).result ≠ .error .panic := by
  refine ⟨fun v hv => Guest.resolves_writeValue hallocate hv,
    fun v w hv hsize => Guest.writeValue_of_oversized hv hsize w,
    fun v w hv => Guest.writeValue_of_overlong hv w,
    fun api hapi ps => resolves_dispatch hallocate hapi ps, ?_⟩
  intro code apis config a hbuild history hanswers method gas args hargs
  exact (Aspect.stands_after hbuild history).unbroken hanswers method gas hargs

theorem answers_oneFunction {e : ApiKey × HostApi} (he : e ∈ Aspect.oneFunction.entries) :
    e.2.function.Answers U := by
  obtain rfl := List.mem_singleton.mp he
  refine HostFunction.answers_of_body fun args q => ?_
  cases args with
  | nil => exact .error trivial
  | cons v vs =>
    cases v with
    | bool b =>
      refine .ok ?_
      rintro r hr
      cases hr
      change 1 ≤ maxLength
      decide
    | _ => exact .error trivial

/-- A truth value is written; a block of the longest length is refused, for want of room for its header; and a
function that negates truth values is called, from a buffer and in an aspect. -/
theorem sized_values_resolve_idle :
    Act.Resolves False ((Buffer.guest 100).writeValue (.bool true)) ∧
    (∀ w, (Buffer.guest 100).writeValue (.bytearray (List.replicate maxLength 0)) w =
      .error (.error (.memory (.allocationFailed Int32.maxValue))) w) ∧
    (∀ e ∈ Aspect.oneFunction.entries, ∀ ps,
      Act.Resolves False (dispatch (Buffer.guest 100) ⟨"negate", 0, e.2.function, e.2.rule⟩ ps)) ∧
    ∀ method gas, ((Aspect.idle.after []).call method gas [.bool true]).result ≠ .error .panic := by
  have hreserve : ∀ n, Act.Resolves False ((Buffer.guest 100).allocate n) := by
    intro n w
    unfold Buffer.guest
    dsimp only
    split
    · exact .ok trivial
    · exact .error trivial
  obtain ⟨hwrite, hrefuse, -, hdispatch, hcall⟩ := sized_values_resolve hreserve
  have hlong : (Value.bytearray (List.replicate maxLength 0)).bodyLength = maxLength := List.length_replicate
  refine ⟨hwrite (.bool true) (by decide), ?_, ?_, ?_⟩
  · exact fun w => hrefuse _ w hlong.le (by rw [hlong]; decide)
  · exact fun e he ps => hdispatch _ (answers_oneFunction he) ps
  · intro method gas
    refine hcall _ _ _ _ Aspect.build_idle [] ?_ method gas [.bool true] ?_
    · intro c hc e he
      rw [Aspect.apis_of_build Aspect.build_idle hc] at he
      exact answers_oneFunction he
    · intro v hv
      obtain rfl := List.mem_singleton.mp hv
      decide

theorem utf8Len_replicate (n : Nat) : String.utf8Len (List.replicate n 'a') = n := by
  induction n with
  | zero => rfl
  | succ n ih =>
    rw [List.replicate_succ, String.utf8Len_cons, ih]
    rfl

/-- A text one letter too long for the length field breaks the host off. -/
theorem writeValue_breaks_off :
    (Buffer.guest 100).writeValue (.string (String.ofList (List.replicate 0x80000000 'a')))
        ⟨.zeroed (some 64) (.bump 16), #[], #[]⟩ =
      .error .panic ⟨.zeroed (some 64) (.bump 16), #[], #[]⟩ := by
  refine Guest.writeValue_of_overlong ?_ _
  rw [← Value.measure_eq, Value.measure, String.utf8ByteSize_ofList, utf8Len_replicate]
  decide

end AspectHost
