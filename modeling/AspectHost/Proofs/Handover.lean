import AspectHost.Proofs.Host.Adapters
import AspectHost.Proofs.Host.Failures
import AspectHost.Proofs.Linking
import AspectHost.Proofs.Moments
import AspectHost.Wasm.Interpreter

/-! # What imports hand back

A host call that returns hands back a pointer exactly if its function returned a value, and that pointer comes
from the allocator, which is not believed if it answers null (`dispatch_returns`). As the function returns a
value exactly if its signature declares one, guest code gets from an import what the import's type says, and
an import without a result has nothing to allocate for. -/

namespace AspectHost

/-! ## Values that were returned -/

section

variable {γ : Type} {G : Guest γ} {api : LinkedApi} {payload rest : Int64} {w : World γ}

theorem settle_returns (report : Report) :
    Act.Ends (fun r _ => report = .ok r.1) (fun _ _ => True) (settle G api payload rest report w) := by
  refine Act.Ends.bind (P := fun _ _ => True) ?_ fun _ w' _ => ?_
  · cases reconcile G api rest report w with
    | ok _ _ => exact .ok trivial
    | error _ _ => exact .error trivial
  · cases report with
    | ok v => exact .ok rfl
    | error e => exact .error trivial

theorem answer_returns (x : EStateM.Result (Stop HostError) Quota (Option Value)) :
    Act.Ends (fun r _ => ∃ left, x = .ok r.1 left) (fun _ _ => True) (answer G api payload rest w x) := by
  cases x with
  | ok v left =>
    refine (settle_returns (.ok v)).imp ?_ fun _ _ h => h
    rintro ⟨r, n⟩ _ h
    cases h
    exact ⟨left, rfl⟩
  | error e left =>
    cases e with
    | error e =>
      change Act.Ends _ _ (settle G api payload rest (.error e) (w.setContext api.slot left))
      exact (settle_returns (.error e)).imp (fun _ _ h => nomatch h) fun _ _ h => h
    | panic => exact .error trivial
    | unanswered => exact .error trivial

/-- What is served is what the function returned. -/
theorem serve_returns (G : Guest γ) (api : LinkedApi) (ps : List Pointer) (w : World γ) :
    Act.Ends (fun r _ => ∃ args q left, api.function.call args q = .ok r.1 left) (fun _ _ => True)
      (serve G api ps w) := by
  unfold serve
  cases G.memory.readValues w.guest ps with
  | error e => exact .error trivial
  | ok vs =>
    dsimp only
    cases api.collect G.meter (payloadOf (totalBody vs)) w.guest with
    | error e g => exact .error trivial
    | ok u g =>
      dsimp only
      cases G.meter.remaining g with
      | error e => exact .error trivial
      | ok left => exact (answer_returns _).imp (fun _ _ h => ⟨_, _, h⟩) fun _ _ h => h

/-- A value that was written is where the allocator said. -/
theorem Guest.writeValue_returns {P : Pointer → Prop}
    (hallocate : ∀ size w, Act.Ends (fun p _ => P p) (fun _ _ => True) (G.allocate size w)) (v : Value) :
    Act.Ends (fun p _ => P p) (fun _ _ => True) (G.writeValue v w) := by
  rw [writeValue_eq]
  cases v.encode? with
  | none => exact .error trivial
  | some b =>
    dsimp only
    split
    · exact .error trivial
    · have hp := hallocate (Int32.ofNat b.length) w
      cases ha : G.allocate (Int32.ofNat b.length) w with
      | error e w' => exact .error trivial
      | ok p w' =>
        rw [ha] at hp
        dsimp only
        cases G.memory.write p b w'.guest with
        | error e => exact .error trivial
        | ok s => exact .ok hp.of_ok

/-- A host call hands back nothing if its function returned nothing, and a pointer of the allocator if its
function returned a value. -/
theorem dispatch_returns {P : Pointer → Prop}
    (hallocate : ∀ size w, Act.Ends (fun p _ => P p) (fun _ _ => True) (G.allocate size w))
    (api : LinkedApi) (ps : List Pointer) (w : World γ) :
    Act.Ends (fun r _ => ∃ v, (∃ args q left, api.function.call args q = .ok v left) ∧
      r.isSome = v.isSome ∧ ∀ p ∈ r, P p) (fun _ _ => True) (dispatch G api ps w) := by
  rw [dispatch_eq_serve]
  have hserve := serve_returns G api ps w
  cases hr : serve G api ps w with
  | error e w' => exact .error trivial
  | ok r w' =>
    rw [hr] at hserve
    obtain ⟨v, payload⟩ := r
    have hcall := hserve.of_ok
    cases v with
    | none => exact .ok ⟨none, hcall, rfl, nofun⟩
    | some v =>
      have hwrite := Guest.writeValue_returns hallocate v (w := w')
      simp only [handBack, deliver]
      cases hw : G.writeValue v w' with
      | error e w'' => exact .error trivial
      | ok p w'' =>
        rw [hw] at hwrite
        refine .ok ⟨some v, hcall, rfl, ?_⟩
        rintro _ ⟨⟩
        exact hwrite.of_ok

/-- A function that returns nothing leaves nothing to allocate for. -/
theorem dispatch_of_none {G' : Guest γ} (hmemory : G'.memory = G.memory) (hmeter : G'.meter = G.meter)
    (hnone : ∀ args q r left, api.function.call args q = .ok r left → r = none) :
    dispatch G' api = dispatch G api := by
  funext ps w
  rw [dispatch_eq_serve, dispatch_eq_serve, serve_congr hmemory hmeter]
  have hserve := serve_returns G api ps w
  cases hr : serve G api ps w with
  | error e w' => rfl
  | ok r w' =>
    rw [hr] at hserve
    obtain ⟨v, payload⟩ := r
    obtain ⟨args, q, left, hcall⟩ := hserve.of_ok
    cases hnone args q v left hcall
    rfl

end

/-! ## Functions that return what they declare -/

namespace HostFunction

/-- What the function returns is of the kinds that its signature declares. -/
def Returns (f : HostFunction) : Prop :=
  ∀ args q r q', f.call args q = .ok r q' → (r.map Value.kind).toList = f.signature.results

theorem TypeSound.returns {f : HostFunction} {runs : List Value → HostAct HostError (Option Value) → Prop}
    (h : f.TypeSound runs) : f.Returns := by
  intro args q r q' hcall
  cases r with
  | none => exact (h.no_result args q q' hcall).symm
  | some v => exact (h.some_result args q v q' hcall).symm

/-- Whether there is a value is what decides on the type of the import. -/
theorem Returns.isSome {f : HostFunction} (h : f.Returns) {args : List Value} {q q' : Quota}
    {r : Option Value}
    (hcall : f.call args q = .ok r q') : r.isSome = f.signature.returnsValue := by
  rw [Signature.returnsValue, ← h args q r q' hcall]
  cases r <;> rfl

end HostFunction

/-! ## Imports -/

theorem Offer.results_api (a : LinkedApi) :
    (api a).type.results = if a.function.signature.returnsValue then [.i32] else [] := rfl

namespace Linked

variable {L : Linked} {o : Offer}

/-- The allocator's null is no pointer. -/
theorem allocate_returns (L : Linked) (invoke : Invocation) (size : Int32) (w : World Wasm.Store) :
    Act.Ends (fun p _ => p ≠ 0) (fun _ _ => True) (L.allocate invoke size w) := by
  unfold allocate
  refine Act.Ends.bind (P := fun _ _ => True) (.ofExcept (fun _ _ => trivial) fun _ _ => trivial) ?_
  intro f w' _
  refine Act.Ends.bind (P := fun _ _ => True) ?_ fun results w'' _ => ?_
  · cases Act.mapError (fun e : Failure => MemoryError.engine e.message)
      (noting noteTrap (invoke f [.i32 size.toUInt32])) w' with
    | ok _ _ => exact .ok trivial
    | error _ _ => exact .error trivial
  · split
    · rename_i p
      split
      · exact .error trivial
      · rename_i hp
        exact .ok fun h => hp (congrArg Int32.toUInt32 h)
    · exact .error trivial

/-- What guest code gets from an import. -/
structure HandsOver [Wasm.Engine] (L : Linked) (o : Offer) : Prop where
  /-- An import that declares a pointer hands one back that is not null. -/
  pointer : o.type.results = [.i32] → ∀ invoke ps w results w', L.callOffer invoke o ps w = .ok results w' →
    ∃ p, p ≠ 0 ∧ results = [.i32 p]
  /-- An import that declares nothing runs without guest code, whatever that would do. -/
  void : o.type.results = [] → ∀ invoke invoke', L.callOffer invoke o = L.callOffer invoke' o
  nothing : o.type.results = [] → ∀ invoke ps w results w', L.callOffer invoke o ps w = .ok results w' →
    results = []
  /-- The caller is trapped, or goes on with results of the type that the import declares. -/
  goes_on : ∀ n i args t s contexts events, L.imports[i]? = some o →
    (∃ e w, L.run (n + 1) (.callOut i args t s) contexts events = .error (Stop.map .host e) w) ∨
    ∃ (results : List Wasm.Val) (w : World Wasm.Store), results.map Wasm.Val.type = o.type.results ∧
      .i32 0 ∉ results ∧
      L.run (n + 1) (.callOut i args t s) contexts events =
        L.run n (.next (Wasm.Engine.resume t results) w.guest) w.contexts w.events

/-- It is enough to know what a call hands back, and that it does without guest code where it hands back
nothing. -/
theorem HandsOver.of_ends [Wasm.Engine]
    (hends : ∀ invoke ps w, Act.Ends (fun results _ => results.map Wasm.Val.type = o.type.results ∧
      Wasm.Val.i32 0 ∉ results) (fun _ _ => True) (L.callOffer invoke o ps w))
    (hvoid : o.type.results = [] → ∀ invoke invoke', L.callOffer invoke o = L.callOffer invoke' o) :
    L.HandsOver o where
  pointer htype invoke ps w results w' h := by
    have hend := hends invoke ps w
    rw [h] at hend
    obtain ⟨hresults, hnull⟩ := hend.of_ok
    rw [htype] at hresults
    match results, hresults with
    | [.i32 p], _ => exact ⟨p, fun hp => hnull (hp ▸ .head _), rfl⟩
  void := hvoid
  nothing htype invoke ps w results w' h := by
    have hend := hends invoke ps w
    rw [h] at hend
    exact List.map_eq_nil_iff.mp (hend.of_ok.1.trans htype)
  goes_on n i args t s contexts events hi := by
    have hend := hends (L.below n t) (pointers args) ⟨s, contexts, events⟩
    cases hcall : L.callOffer (L.below n t) o (pointers args) ⟨s, contexts, events⟩ with
    | ok results w =>
      rw [hcall] at hend
      exact .inr ⟨results, w, hend.of_ok.1, hend.of_ok.2, ending_of_back hi hcall⟩
    | error e w => exact .inl ⟨e, w, ending_of_failed hi hcall⟩

/-- The report of a failed assertion takes four words and answers nothing. -/
theorem callOffer_abort (L : Linked) (invoke : Invocation) (ps : List Pointer) :
    L.callOffer invoke .abort ps =
      match ps with
      | [message, file, line, column] => do
        modify (·.record (.guestAbort message file line column))
        return []
      | _ => throw .unanswered := by
  match ps with
  | [] | [_] | [_, _] | [_, _, _] | [_, _, _, _] | _ :: _ :: _ :: _ :: _ :: _ => rfl

theorem handsOver_abort [Wasm.Engine] (L : Linked) : L.HandsOver .abort := by
  refine .of_ends (fun invoke ps w => ?_) fun _ invoke invoke' => ?_
  · rw [callOffer_abort]
    split
    · exact .ok ⟨rfl, nofun⟩
    · exact .error trivial
  · funext ps
    rw [callOffer_abort, callOffer_abort]

theorem callOffer_api (L : Linked) (invoke : Invocation) (a : LinkedApi) (ps : List Pointer) :
    L.callOffer invoke (.api a) ps =
      (fun p => if a.function.signature.returnsValue then [.i32 (p.getD 0).toUInt32] else []) <$>
        dispatch (L.guest invoke) a ps := by
  rw [← bind_pure_comp]
  rfl

theorem handsOver_api [Wasm.Engine] (L : Linked) (a : LinkedApi) (ha : a.function.Returns) :
    L.HandsOver (.api a) := by
  refine .of_ends ?ends ?void
  case ends =>
    intro invoke ps w
    have hend := dispatch_returns (G := L.guest invoke) (L.allocate_returns invoke) a ps w
    rw [callOffer_api]
    cases hd : dispatch (L.guest invoke) a ps w with
    | error e w' =>
      rw [Act.map_of_error hd]
      exact .error trivial
    | ok r w' =>
      rw [hd] at hend
      obtain ⟨v, ⟨args, q, left, hv⟩, hsome, hnull⟩ := hend.of_ok
      rw [ha.isSome hv] at hsome
      rw [Act.map_of_ok hd]
      refine .ok ?_
      rw [Offer.results_api, ← hsome]
      cases r with
      | none => exact ⟨rfl, nofun⟩
      | some p =>
        refine ⟨rfl, ?_⟩
        intro hmem
        have hp : p.toUInt32 = 0 := (Wasm.Val.i32.inj (List.mem_singleton.mp hmem)).symm
        exact hnull p rfl (congrArg UInt32.toInt32 hp)
  case void =>
    intro htype invoke invoke'
    have hnone : ∀ args q r left, a.function.call args q = .ok r left → r = none := by
      intro args q r left hcall
      have hsome := ha.isSome hcall
      rw [Offer.results_api, ← hsome] at htype
      cases r with
      | none => rfl
      | some v => cases htype
    have hdispatch : dispatch (L.guest invoke) a = dispatch (L.guest invoke') a :=
      dispatch_of_none rfl rfl hnone
    funext ps
    rw [callOffer_api, callOffer_api, hdispatch]

end Linked

/-- **Host functions are type sound.** However it is made, a host function runs exactly on arguments of
the kinds of its parameters; what it is made from then meets what they stand for, in their order, and no
conversion fails. It hands back a value of the kind that it declares, or nothing if it declares none.
Hence an import that declares a pointer hands one back that is not null, or traps, and one that declares
none never allocates. -/
theorem HostFunction.type_sound [Wasm.Engine] {f : HostFunction}
    {runs : List Value → HostAct HostError (Option Value) → Prop} (h : Made f runs) :
    f.TypeSound runs ∧ ∀ (L : Linked) (o : Offer), (∀ a, o = .api a → a.function = f) → L.HandsOver o := by
  have hsound := h.sound
  refine ⟨hsound, fun L o ho => ?_⟩
  cases o with
  | abort => exact L.handsOver_abort
  | api a => exact L.handsOver_api a (ho a rfl ▸ hsound.returns)

/-- A function of this language from a truth value to one, and one whose shape is given with it. -/
theorem HostFunction.type_sound_negator :
    (∃ runs x, Made negator.function runs ∧ negator.function.TypeSound runs ∧ runs [.bool true] x ∧
      negator.function.call [.bool true] = x) ∧
    (∃ i k found, FirstMismatch [.int8 1] negator.function.signature.params i k found ∧
      negator.function.call [.int8 1] = Act.fail (.decode (.kindMismatch k.name found.name))) ∧
    (∃ runs, Made refuser.function runs ∧ refuser.function.TypeSound runs) ∧
    ∀ L : Linked, L.HandsOver (.api negator) ∧ L.HandsOver (.api refuser) := by
  have hnegator : Made negator.function _ :=
    .lower (.plain (.of Bool)) [.of Bool] fun b : Bool => ⟨fun _ => .ok (!b) 0⟩
  have hrefuser : Made refuser.function _ :=
    .dynamic ⟨[.bool], [], true⟩ (fun _ => Act.fail "rejected") rfl
  obtain ⟨hsound, himports⟩ := type_sound hnegator
  obtain ⟨hsound', himports'⟩ := type_sound hrefuser
  obtain ⟨x, hx⟩ := (hsound.runs_iff [.bool true]).mpr rfl
  obtain ⟨i, k, found, hfirst, hcall⟩ := hsound.mismatched [.int8 1] rfl (by decide)
  refine ⟨⟨_, x, hnegator, hsound, hx, hsound.call_of_runs _ x hx⟩,
    ⟨i, k, found, hfirst, hcall negator.function.body⟩, ⟨_, hrefuser, hsound'⟩, fun L => ⟨?_, ?_⟩⟩
  · exact himports L _ fun a ha => by cases ha; rfl
  · exact himports' L _ fun a ha => by cases ha; rfl

end AspectHost
