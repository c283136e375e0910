import AspectHost.Linked
import AspectHost.Proofs.Host.Serving

/-! # The moments of a run

A run goes from one moment to the next; at a call to the host it first goes through the allocator, if that
is asked for memory, and then back into its own thread. What every step keeps, and every host call, a run
keeps, at any depth (`Linked.ending_ends`). -/

namespace AspectHost

namespace Linked

section

variable [Wasm.Engine]

/-- A run at one moment: what comes next, and the budget of steps that is left for it. -/
structure Moment where
  budget : Nat
  step : Wasm.Step Wasm.Engine.Thread
  contexts : Array UInt64
  events : Array Event

variable (L : Linked)

/-- How the run ends that is at this moment. -/
def ending (m : Moment) : EStateM.Result (Stop Failure) (World Wasm.Store) (List Wasm.Val) :=
  L.run m.budget m.step m.contexts m.events

/-- Guest code about to run in a world. -/
def entry (budget : Nat) (caller : Option Wasm.Engine.Thread) (f : Nat) (args : List Wasm.Val)
    (w : World Wasm.Store) : Moment :=
  ⟨budget, Wasm.Engine.start L.program caller f args w.guest, w.contexts, w.events⟩

/-- Guest code that the host is about to call. -/
def opening (f : Nat) (args : List Wasm.Val) (w : World Wasm.Store) : Moment :=
  L.entry Wasm.Engine.patience none f args w

/-- How a host function calls guest code back from within a thread. -/
def below (budget : Nat) (t : Wasm.Engine.Thread) : Invocation :=
  fun f args w => L.ending (L.entry budget (some t) f args w)

theorem below_eq (budget : Nat) (t : Wasm.Engine.Thread) :
    L.below budget t = fun f args w =>
      L.run budget (Wasm.Engine.start L.program (some t) f args w.guest) w.contexts w.events := rfl

/-- The moments that come directly after a moment, at the same depth or one level deeper. -/
inductive Leads : Moment → Moment → Prop
  | step (n : Nat) (t : Wasm.Engine.Thread) (s : Wasm.Store) (contexts : Array UInt64)
    (events : Array Event) :
    Leads ⟨n + 1, .next t s, contexts, events⟩ ⟨n, Wasm.Engine.step L.program t s, contexts, events⟩
  /-- A host call asks the allocator for memory. -/
  | allocate {n i f : Nat} {args : List Wasm.Val} {t : Wasm.Engine.Thread} {s : Wasm.Store}
    {contexts : Array UInt64} {events : Array Event} {api : LinkedApi} {size : Int32}
    {w : World Wasm.Store} (offer : L.imports[i]? = some (.api api))
    (asks : (L.guest (L.below n t)).Asks api (pointers args) ⟨s, contexts, events⟩ size w)
    (allocator : L.allocator = .ok f) :
    Leads ⟨n + 1, .callOut i args t s, contexts, events⟩
      (L.entry n (some t) f [.i32 size.toUInt32] w)
  /-- A call to the host comes back. -/
  | back {n i : Nat} {args results : List Wasm.Val} {t : Wasm.Engine.Thread} {s : Wasm.Store}
    {contexts : Array UInt64} {events : Array Event} {offer : Offer} {w : World Wasm.Store}
    (found : L.imports[i]? = some offer)
    (call : L.callOffer (L.below n t) offer (pointers args) ⟨s, contexts, events⟩ = .ok results w) :
    Leads ⟨n + 1, .callOut i args t s, contexts, events⟩
      ⟨n, .next (Wasm.Engine.resume t results) w.guest, w.contexts, w.events⟩

/-- The moments that a run goes through, at any depth. -/
def Reaches : Moment → Moment → Prop := Relation.ReflTransGen L.Leads

section

variable {L} {n i : Nat} {args : List Wasm.Val} {t : Wasm.Engine.Thread} {s : Wasm.Store}
  {contexts : Array UInt64} {events : Array Event} {offer : Offer} {w : World Wasm.Store}

theorem ending_of_back {results : List Wasm.Val} (found : L.imports[i]? = some offer)
    (call : L.callOffer (L.below n t) offer (pointers args) ⟨s, contexts, events⟩ = .ok results w) :
    L.ending ⟨n + 1, .callOut i args t s, contexts, events⟩ =
      L.ending ⟨n, .next (Wasm.Engine.resume t results) w.guest, w.contexts, w.events⟩ := by
  rw [below_eq] at call
  simp only [ending, run, found, call]

theorem ending_of_failed {e : Stop HostError} (found : L.imports[i]? = some offer)
    (call : L.callOffer (L.below n t) offer (pointers args) ⟨s, contexts, events⟩ = .error e w) :
    L.ending ⟨n + 1, .callOut i args t s, contexts, events⟩ = .error (e.map .host) w := by
  rw [below_eq] at call
  simp only [ending, run, found, call]

end

end

/-! ## What a run keeps -/

/-- The two failures that say that gas ran out. -/
inductive Dry : Stop Failure → Prop
  | fuel : Dry (.error (.trap .outOfFuel))
  | host : Dry (.error (.host .outOfGas))

/-- What holds of the store before a step holds after it, and lack of fuel can be noted there. -/
structure Keeping {Thread : Type} (keeps spent : Wasm.Store → Prop) (x : Wasm.Step Thread) : Prop where
  store : keeps x.store
  dry : ∀ s, x = .trap .outOfFuel s → spent (exhaust s)

/-- What entering guest code, noting how it stopped, serving host calls and writing memory keep. -/
structure Upholds [Wasm.Engine] (L : Linked) (keeps spent : Wasm.Store → Prop) : Prop where
  start : ∀ caller f args s, keeps s →
    Keeping keeps spent (Wasm.Engine.start L.program caller f args s)
  exhaust : ∀ s, keeps s → keeps (exhaust s)
  serve : ∀ invoke api ps (w : World Wasm.Store), .api api ∈ L.imports → keeps w.guest →
    Act.Ends (fun _ w' => keeps w'.guest)
      (fun e w' => keeps w'.guest ∧ (e = .error .outOfGas → spent w'.guest))
      (AspectHost.serve (L.guest invoke) api ps w)
  write : ∀ p b s s', keeps s → L.memory.write p b s = .ok s' → keeps s'

variable {L : Linked} {keeps spent : Wasm.Store → Prop}

/-- An allocator that ends without a result leaves the host without memory, and is noted. -/
theorem allocate_of_stopped {invoke : Invocation} {f : Nat} {size : Int32} {w w' : World Wasm.Store}
    (hf : L.allocator = .ok f) {stop : Stop Failure} (h : invoke f [.i32 size.toUInt32] w = .error stop w') :
    L.allocate invoke size w =
      .error (stop.map fun e => .engine e.message) { w' with guest := noteTrap stop w'.guest } := by
  unfold allocate
  rw [hf]
  refine (Act.bind_of_ok rfl _).trans (Act.bind_of_error (Act.mapError_of_error ?_ _) _)
  exact noting_of_error h noteTrap

theorem noteTrap_keeps (hexhaust : ∀ s, keeps s → keeps (exhaust s)) (e : Stop Failure) {s : Wasm.Store}
    (hs : keeps s) : keeps (noteTrap e s) := by
  unfold noteTrap
  split
  · exact hexhaust s hs
  · exact hs

theorem allocate_ends {invoke : Invocation} {w : World Wasm.Store} (hs : keeps w.guest)
    (hexhaust : ∀ s, keeps s → keeps (exhaust s)) (size : Int32)
    (hinvoke : ∀ f, L.allocator = .ok f →
      Act.Ends (fun _ w' => keeps w'.guest) (fun _ w' => keeps w'.guest)
        (invoke f [.i32 size.toUInt32] w)) :
    Act.Ends (fun _ w' => keeps w'.guest) (fun _ w' => keeps w'.guest) (L.allocate invoke size w) := by
  unfold allocate
  cases hf : L.allocator with
  | error e => exact .error hs
  | ok f =>
    have hend := hinvoke f hf
    refine Act.Ends.bind (P := fun g w' => w' = w ∧ g = f) (.ok ⟨rfl, rfl⟩) ?_
    rintro g w' ⟨rfl, rfl⟩
    refine Act.Ends.bind (P := fun _ w' => keeps w'.guest) ?_ ?_
    · exact (hend.noting fun e w'' hs' => noteTrap_keeps hexhaust e hs').mapError
    · intro results w'' hs'
      split
      · split
        · exact .error hs'
        · exact .ok hs'
      · exact .error hs'

section

variable [Wasm.Engine]

theorem callOffer_ends (h : L.Upholds keeps spent) (invoke : Invocation) {offer : Offer}
    (hoffer : offer ∈ L.imports) (ps : List Pointer) {w : World Wasm.Store} (hs : keeps w.guest)
    (hallocate : ∀ api size w', offer = .api api → (L.guest invoke).Asks api ps w size w' →
      keeps w'.guest →
      Act.Ends (fun _ w'' => keeps w''.guest) (fun _ w'' => keeps w''.guest)
        (L.allocate invoke size w')) :
    Act.Ends (fun _ w' => keeps w'.guest)
      (fun e w' => keeps w'.guest ∧ (e = .error .outOfGas → spent w'.guest))
      (L.callOffer invoke offer ps w) := by
  unfold callOffer
  split
  · rename_i api
    refine Act.Ends.bind (Guest.dispatch_ends (h.serve invoke api ps w hoffer hs) ?_ h.write) ?_
    · exact fun size w' => hallocate api size w' rfl
    · exact fun p w' hs' => .ok hs'
  · exact .ok hs
  · exact .error ⟨hs, nofun⟩

/-- **What every step and every host call keep, a run keeps**, with all that it calls back; and if it fails
because gas ran out, that is known once it is noted how it stopped. -/
theorem ending_ends (h : L.Upholds keeps spent) (m : Moment)
    (hstep : ∀ m', L.Reaches m m' → ∀ t s, m'.step = .next t s → keeps s →
      Keeping keeps spent (Wasm.Engine.step L.program t s))
    (hm : Keeping keeps spent m.step) :
    Act.Ends (fun _ w => keeps w.guest)
      (fun e w => keeps w.guest ∧ (Dry e → spent (noteTrap e w.guest))) (L.ending m) := by
  obtain ⟨n, x, contexts, events⟩ := m
  -- On the budget: the thread goes on with one step less, and so does what it calls back.
  induction n generalizing x contexts events with
  | zero =>
    cases x with
    | done results s => exact .ok hm.store
    | trap cause s =>
      refine .error ⟨hm.store, fun hdry => ?_⟩
      cases hdry
      exact hm.dry s rfl
    | stuck s => exact .error ⟨hm.store, nofun⟩
    | next t s => exact .error ⟨hm.store, nofun⟩
    | callOut i args t s => exact .error ⟨hm.store, nofun⟩
  | succ n ih =>
    cases x with
    | done results s => exact .ok hm.store
    | trap cause s =>
      refine .error ⟨hm.store, fun hdry => ?_⟩
      cases hdry
      exact hm.dry s rfl
    | stuck s => exact .error ⟨hm.store, nofun⟩
    | next t s =>
      have hlead := Leads.step (L := L) n t s contexts events
      exact ih _ _ _ (fun m' hm' => hstep m' (.head hlead hm')) (hstep _ .refl t s rfl hm.store)
    | callOut i args t s =>
      cases hfound : L.imports[i]? with
      | none =>
        have hend : L.ending ⟨n + 1, .callOut i args t s, contexts, events⟩ =
            .error .unanswered ⟨s, contexts, events⟩ := by
          simp only [ending, run, hfound]
        rw [hend]
        exact .error ⟨hm.store, nofun⟩
      | some offer =>
        have hcall := callOffer_ends h (L.below n t) (List.mem_of_getElem? hfound)
          (pointers args) (w := ⟨s, contexts, events⟩) hm.store (by
            rintro api size w' rfl hasks hs'
            refine allocate_ends hs' h.exhaust size fun f hf => ?_
            have hlead := Leads.allocate hfound hasks hf
            exact (ih _ _ _ (fun m' hm' => hstep m' (.head hlead hm')) (h.start _ f _ _ hs')).imp
              (fun _ _ hw => hw) fun _ _ hw => hw.1)
        cases hr : L.callOffer (L.below n t) offer (pointers args) ⟨s, contexts, events⟩ with
        | ok results w =>
          rw [hr] at hcall
          rw [ending_of_back hfound hr]
          have hlead := Leads.back hfound hr
          exact ih _ _ _ (fun m' hm' => hstep m' (.head hlead hm')) ⟨hcall.of_ok, nofun⟩
        | error e w =>
          rw [hr] at hcall
          obtain ⟨hs', hspent⟩ := hcall.of_error
          rw [ending_of_failed hfound hr]
          refine .error ⟨hs', fun hdry => ?_⟩
          cases e with
          | error e =>
            cases hdry
            exact hspent rfl
          | panic => cases hdry
          | unanswered => cases hdry

variable (h : L.Upholds keeps spent)
  (hstep : ∀ t s, keeps s → Keeping keeps spent (Wasm.Engine.step L.program t s))

include h hstep

/-- A host call from within a run keeps what every step keeps. -/
theorem callOffer_below_ends {offer : Offer} (hoffer : offer ∈ L.imports) (n : Nat)
    (t : Wasm.Engine.Thread) (ps : List Pointer) {w : World Wasm.Store} (hs : keeps w.guest) :
    Act.Ends (fun _ w' => keeps w'.guest)
      (fun e w' => keeps w'.guest ∧ (e = .error .outOfGas → spent w'.guest))
      (L.callOffer (L.below n t) offer ps w) := by
  refine callOffer_ends h _ hoffer ps hs fun api size w' _ _ hs' => ?_
  refine allocate_ends hs' h.exhaust size fun f _ => ?_
  exact (ending_ends h _ (fun _ _ t s _ => hstep t s) (h.start _ f _ _ hs')).imp
    (fun _ _ hw => hw) fun _ _ hw => hw.1

/-- What every step and every host call keep, holds at every moment. -/
theorem Reaches.keeping {m m' : Moment} (hr : L.Reaches m m') (hm : Keeping keeps spent m.step) :
    Keeping keeps spent m'.step := by
  induction hr with
  | refl => exact hm
  | tail _ hlead ih =>
    cases hlead with
    | step n t s contexts events => exact hstep t s ih.store
    | @allocate n i f args t s contexts events api size w found asks allocator =>
      obtain ⟨v, payload, hserve, -⟩ := asks
      have hserved := h.serve (L.below n t) api (pointers args) ⟨s, contexts, events⟩
        (List.mem_of_getElem? found) ih.store
      rw [hserve] at hserved
      exact h.start _ _ _ _ hserved.of_ok
    | @back n i args results t s contexts events offer w found call =>
      have hcall := callOffer_below_ends h hstep (List.mem_of_getElem? found) n t (pointers args)
        (w := ⟨s, contexts, events⟩) ih.store
      rw [call] at hcall
      exact ⟨hcall.of_ok, nofun⟩

end

end Linked
end AspectHost
