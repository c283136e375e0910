import AspectHost.Aspect
import AspectHost.Proofs.Host.Blind

/-! # Running guest code is blind to budgets

Guest code meets budgets only through the host functions that it imports. By induction on the steps of a
run, nothing that it does depends on them (`Linked.run_alike`); nor does a call of a guest method with
everything the host does around it (`Instance.blind_call`). -/

namespace AspectHost

namespace Linked

variable (L : Linked) {invoke : Invocation} (hinvoke : ∀ f args, Act.Blind (invoke f args))

include hinvoke

theorem blind_guest : (L.guest invoke).Blind := by
  intro size
  refine (Act.Blind.ofExcept _).bind fun f => ?_
  refine ((Act.Blind.noting (hinvoke _ _) _).mapError _).bind fun results => ?_
  split
  · split
    · exact Act.Blind.fail _
    · exact Act.Blind.pure _
  · exact Act.Blind.throw _

theorem blind_callOffer (offer : Offer) (args : List Pointer) :
    Act.Blind (L.callOffer invoke offer args) := by
  cases offer with
  | api a => exact (blind_dispatch (L.blind_guest hinvoke) args).bind fun p => .pure _
  | abort =>
    unfold callOffer
    split
    · rename_i h
      cases h
    · exact (Act.Blind.record _).bind fun _ => .pure _
    · exact Act.Blind.throw _

section

omit hinvoke

variable [Wasm.Engine]

/-- The same run over budgets that hold something else ends the same. -/
theorem run_alike (n : Nat) (t : Wasm.Step Wasm.Engine.Thread) {contexts contexts' : Array UInt64}
    (events : Array Event)
    (h : contexts.size = contexts'.size) :
    EndsAlike (L.run n t contexts events) (L.run n t contexts' events) := by
  induction n generalizing t contexts contexts' events with
  | zero =>
    cases t with
    | done results s => exact .ok _ ⟨rfl, rfl, h⟩
    | trap cause s => exact .error _ ⟨rfl, rfl, h⟩
    | stuck s => exact .error _ ⟨rfl, rfl, h⟩
    | next t s => exact .error _ ⟨rfl, rfl, h⟩
    | callOut i args t s => exact .error _ ⟨rfl, rfl, h⟩
  | succ n ih =>
    cases t with
    | done results s => exact .ok _ ⟨rfl, rfl, h⟩
    | trap cause s => exact .error _ ⟨rfl, rfl, h⟩
    | stuck s => exact .error _ ⟨rfl, rfl, h⟩
    | next t s => exact ih _ _ h
    | callOut i args t s =>
      simp only [run]
      cases L.imports[i]? with
      | none => exact .error _ ⟨rfl, rfl, h⟩
      | some offer =>
        -- Guest code that the host function calls back runs on what is left of the budget of steps.
        have hback : ∀ f args, Act.Blind fun w : World Wasm.Store =>
            L.run n (Wasm.Engine.start L.program (some t) f args w.guest) w.contexts w.events := by
          intro f args w w' hw
          dsimp only
          rw [← hw.guest, ← hw.events]
          exact ih _ _ hw.size
        have hcall := L.blind_callOffer hback offer (pointers args) ⟨s, contexts, events⟩
          ⟨s, contexts', events⟩ ⟨rfl, rfl, h⟩
        obtain ⟨results, w, w', hr, hr', hw⟩ | ⟨e, w, w', hr, hr', hw⟩ := hcall.ends
        · simp only [hr, hr']
          rw [← hw.guest, ← hw.events]
          exact ih _ _ hw.size
        · simp only [hr, hr']
          exact .error _ hw

theorem blind_invoke (f : Nat) (args : List Wasm.Val) : Act.Blind (L.invoke f args) := by
  intro w w' h
  unfold Linked.invoke
  rw [← h.guest, ← h.events]
  exact L.run_alike _ _ _ h.size

end

end Linked

namespace Instance

variable {γ : Type} {I : Instance γ} (hG : I.toGuest.Blind)
  (hinvoke : ∀ f args, Act.Blind (I.invoke f args))

include hinvoke in
theorem blind_runHook (name : String) : Act.Blind (I.runHook name) := by
  unfold runHook
  cases I.function? name with
  | none => exact Act.Blind.pure _
  | some e =>
    have hrun : Act.Blind do
        let _ ← I.invoke e.2 []
        return PUnit.unit :=
      (hinvoke e.2 []).bind fun _ => .pure _
    dsimp only
    split
    · exact (Act.Blind.fail _).bind fun _ => hrun
    · exact hrun

include hG in
theorem blind_writeArguments (args : List Value) : Act.Blind (I.writeArguments args) := by
  induction args with
  | nil => exact Act.Blind.pure _
  | cons v vs ih => exact (blind_writeValue hG v).bind fun p => ih.bind fun ps => .pure _

theorem blind_readResult (results : List Wasm.Val) : Act.Blind (I.readResult results) := by
  unfold readResult
  split
  · split
    · exact Act.Blind.pure _
    · exact (Act.Blind.query _).map _
  · exact Act.Blind.pure _

include hG hinvoke

theorem blind_run (hook name : String) (gas : Int64) (args : List Value) :
    Act.Blind (I.run hook name gas args) := by
  refine ((Act.Blind.metered _).mapError _).bind fun _ => ?_
  refine (blind_runHook hinvoke hook).bind fun _ => ?_
  refine ((Act.Blind.ofExcept _).mapError _).bind fun f => ?_
  refine ((blind_writeArguments hG args).mapError _).bind fun ps => ?_
  refine (hinvoke _ _).bind fun results => ?_
  exact (blind_readResult results).mapError _

/-- A call of a guest method does not depend on what the budgets of host functions hold. -/
theorem blind_call (hook name : String) (gas : Int64) (args : List Value) :
    Act.Blind (I.call hook name gas args) := by
  intro w w' h
  unfold Instance.call
  obtain ⟨v, u, u', hr, hr', h⟩ | ⟨e, u, u', hr, hr', h⟩ :=
    ((blind_run hG hinvoke hook name gas args).noting I.noteTrap w w' h).ends
  · simp only [hr, hr']
    rw [← h.guest]
    cases I.meter.remainingOuter u.guest with
    | ok gas => exact .ok _ h
    | error e => exact .error _ h
  · simp only [hr, hr']
    rw [← h.guest]
    exact .error _ h

end Instance
end AspectHost
