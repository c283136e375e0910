import AspectHost.Proofs.Metering
import AspectHost.Session

/-! # The course of a call

Guest code is entered by the hook, by the allocator for each argument, and by the method (`Linked.Enters`).
What is kept from there on, the call keeps (`Linked.perform_ends`). -/

namespace AspectHost

namespace Instance

variable {γ : Type} {I : Instance γ} {w w' w'' : World γ}

theorem runHook_of_found {name : String} {t : Wasm.FuncType} {f : Nat}
    (found : I.function? name = some (t, f)) (params : t.params = []) :
    I.runHook name = (do let _ ← I.invoke f []) := by
  unfold runHook
  rw [found]
  dsimp only
  rw [if_neg (fun h => h params)]

theorem writeArguments_cons {u : Value} {us : List Value} {p : Pointer} {ps : List Pointer}
    (hu : I.writeValue u w = .ok p w') (hus : I.writeArguments us w' = .ok ps w'') :
    I.writeArguments (u :: us) w = .ok (p :: ps) w'' :=
  (Act.bind_of_ok hu _).trans (Act.bind_of_ok hus _)

theorem writeArguments_cons_eq_ok {u : Value} {us : List Value} {ps : List Pointer}
    (h : I.writeArguments (u :: us) w = .ok ps w'') :
    ∃ p qs w', ps = p :: qs ∧ I.writeValue u w = .ok p w' ∧ I.writeArguments us w' = .ok qs w'' := by
  unfold writeArguments at h
  cases hu : I.writeValue u w with
  | error e w' =>
    rw [Act.bind_of_error hu] at h
    cases h
  | ok p w' =>
    rw [Act.bind_of_ok hu] at h
    cases hus : I.writeArguments us w' with
    | error e w₂ =>
      rw [Act.bind_of_error hus] at h
      cases h
    | ok qs w₂ =>
      rw [Act.bind_of_ok hus] at h
      cases h
      exact ⟨p, qs, w', rfl, rfl, hus⟩

theorem writeArguments_of_refused {before : List Value} {ps : List Pointer} {v : Value}
    (hbefore : I.writeArguments before w = .ok ps w') {e : Stop HostError}
    (hv : I.writeValue v w' = .error e w'') (after : List Value) :
    I.writeArguments (before ++ v :: after) w = .error e w'' := by
  induction before generalizing w ps with
  | nil =>
    cases hbefore
    exact Act.bind_of_error hv _
  | cons u us ih =>
    obtain ⟨p, qs, w₁, -, hu, hus⟩ := writeArguments_cons_eq_ok hbefore
    exact (Act.bind_of_ok hu _).trans (Act.bind_of_error (ih hus) _)

/-- Writing the arguments runs the allocator for one after the other, and fails only for want of memory. -/
theorem writeArguments_ends {keeps : γ → Prop} {args : List Value} (hs : keeps w.guest)
    (hallocate : ∀ before v after ps w' size, args = before ++ v :: after →
      I.writeArguments before w = .ok ps w' → v.room? = some size → keeps w'.guest →
      Act.Ends (fun _ w'' => keeps w''.guest) (fun _ w'' => keeps w''.guest) (I.allocate size w'))
    (hwrite : ∀ p b s s', keeps s → I.memory.write p b s = .ok s' → keeps s') :
    Act.Ends (fun _ w' => keeps w'.guest)
      (fun e w' => keeps w'.guest ∧ ∀ cause, e = .error cause → ∃ c, cause = .memory c)
      (I.writeArguments args w) := by
  induction args generalizing w with
  | nil => exact .ok hs
  | cons v vs ih =>
    have hv := Guest.writeValue_ends (v := v) hs
      (fun size hroom => hallocate [] v vs [] w size rfl rfl hroom hs) hwrite
    unfold writeArguments
    cases hr : I.writeValue v w with
    | error e w' =>
      rw [hr] at hv
      rw [Act.bind_of_error hr]
      exact .error hv.of_error
    | ok p w' =>
      rw [hr] at hv
      rw [Act.bind_of_ok hr]
      refine (ih hv.of_ok ?_).bind fun ps w'' hs' => .ok hs'
      rintro before u after ps w'' size rfl hbefore
      exact hallocate (v :: before) u after (p :: ps) w'' size rfl (writeArguments_cons hr hbefore)

section

variable {hook name : String} {gas : Int64} {args : List Value}

theorem call_of_ok {value : Option Value} (h : I.run hook name gas args w = .ok value w') :
    I.call hook name gas args w =
      match I.meter.remainingOuter w'.guest with
      | .ok left => .ok ⟨value, left⟩ w'
      | .error e => .error (.error ⟨.ofGas e, 0⟩) w' := by
  unfold Instance.call
  cases hleft : I.meter.remainingOuter w'.guest <;> simp only [noting_of_ok h I.noteTrap, hleft]

/-- Where its run fails, a call notes how, and then sorts that. -/
theorem call_of_error {stop : Stop Failure} (h : I.run hook name gas args w = .error stop w') :
    I.call hook name gas args w = .error (stop.map (I.callError (I.noteTrap stop w'.guest)))
      { w' with guest := I.noteTrap stop w'.guest } := by
  unfold Instance.call
  simp only [noting_of_error h I.noteTrap]

/-- A call succeeds with what is left of its budget. -/
theorem call_eq_ok {output : CallOutput} (h : I.call hook name gas args w = .ok output w') :
    I.run hook name gas args w = .ok output.value w' ∧
      I.meter.remainingOuter w'.guest = .ok output.gasRemaining := by
  cases hrun : I.run hook name gas args w with
  | error stop w₁ =>
    rw [call_of_error hrun] at h
    cases h
  | ok value w₁ =>
    rw [call_of_ok hrun] at h
    cases hleft : I.meter.remainingOuter w₁.guest with
    | error e =>
      rw [hleft] at h
      cases h
    | ok left =>
      rw [hleft] at h
      cases h
      exact ⟨rfl, hleft⟩

/-- A call fails where its run fails, or for want of gas where the run ends well. -/
theorem call_eq_error {e : CallError} (h : I.call hook name gas args w = .error (.error e) w') :
    (∃ value cause, I.run hook name gas args w = .ok value w' ∧
        I.meter.remainingOuter w'.guest = .error cause ∧ e = ⟨.ofGas cause, 0⟩) ∨
      ∃ failure, noting I.noteTrap (I.run hook name gas args) w = .error (.error failure) w' ∧
        e = I.callError w'.guest failure := by
  cases hrun : I.run hook name gas args w with
  | ok value w₁ =>
    rw [call_of_ok hrun] at h
    cases hleft : I.meter.remainingOuter w₁.guest with
    | error cause =>
      rw [hleft] at h
      cases h
      exact .inl ⟨value, cause, rfl, hleft, rfl⟩
    | ok left =>
      rw [hleft] at h
      cases h
  | error stop w₁ =>
    rw [call_of_error hrun] at h
    cases stop with
    | panic => cases h
    | unanswered => cases h
    | error failure =>
      cases h
      exact .inr ⟨failure, noting_of_error hrun I.noteTrap, rfl⟩

/-- Sorting out how a call ended changes nothing. -/
theorem finalState_call (I : Instance γ) (hook name : String) (gas : Int64) (args : List Value)
    (w : World γ) : Act.finalState (I.call hook name gas args w) =
      Act.finalState (noting I.noteTrap (I.run hook name gas args) w) := by
  unfold Instance.call
  cases noting I.noteTrap (I.run hook name gas args) w with
  | ok value w' =>
    dsimp only
    cases I.meter.remainingOuter w'.guest <;> rfl
  | error e w' => rfl

end

section

variable {hook name : String} {gas : Int64} {args : List Value} {s : γ}

theorem run_of_funded (h : I.meter.fund gas w.guest = .ok () s) :
    I.run hook name gas args w = I.perform hook name args { w with guest := s } :=
  Act.bind_of_ok (Act.mapError_of_ok (metered_of_ok h) _) _

theorem run_of_refused {e : GasError} (h : I.meter.fund gas w.guest = .error e s) :
    I.run hook name gas args w = .error (.error (.host (.ofGas e))) { w with guest := s } :=
  Act.bind_of_error (Act.mapError_of_error (metered_of_error h) _) _

end

end Instance

namespace Linked

variable [Wasm.Engine] {L : Linked} {hook name : String} {args : List Value} {w w' : World Wasm.Store}

theorem invoke_eq_ending (f : Nat) (vs : List Wasm.Val) (w : World Wasm.Store) :
    L.invoke f vs w = L.ending (L.opening f vs w) := rfl

/-- The moments at which a call enters guest code, if it starts from the world `w` with its budget. -/
inductive Enters (L : Linked) (hook name : String) (args : List Value) (w : World Wasm.Store) :
    Moment → Prop
  | hook {t : Wasm.FuncType} {f : Nat} (found : L.toInstance.function? hook = some (t, f))
    (params : t.params = []) : Enters L hook name args w (L.opening f [] w)
  /-- The allocator makes room for an argument. -/
  | argument {before after : List Value} {v : Value} {ps : List Pointer} {size : Int32} {f g : Nat}
    {w₁ w₂ : World Wasm.Store} (prepared : L.toInstance.runHook hook w = .ok () w₁)
    (method : L.toInstance.method name args.length = .ok f) (split : args = before ++ v :: after)
    (written : L.toInstance.writeArguments before w₁ = .ok ps w₂) (room : v.room? = some size)
    (allocator : L.allocator = .ok g) :
    Enters L hook name args w (L.opening g [.i32 size.toUInt32] w₂)
  | method {ps : List Pointer} {f : Nat} {w₁ w₂ : World Wasm.Store}
    (prepared : L.toInstance.runHook hook w = .ok () w₁)
    (method : L.toInstance.method name args.length = .ok f)
    (written : L.toInstance.writeArguments args w₁ = .ok ps w₂) :
    Enters L hook name args w (L.opening f (ps.map fun p => .i32 p.toUInt32) w₂)

theorem method_ne : L.toInstance.method name args.length ≠ .error .outOfGas := by
  unfold Instance.method
  split
  · exact nofun
  · split
    · exact nofun
    · split <;> exact nofun

/-- Reading the result runs nothing. -/
theorem readResult_ends (w : World Wasm.Store) (results : List Wasm.Val) :
    Act.Ends (fun _ w' => w' = w) (fun e w' => w' = w ∧ e ≠ .error .outOfGas)
      (L.toInstance.readResult results w) := by
  unfold Instance.readResult
  split
  · split
    · exact .ok rfl
    · rename_i p _ _
      cases hv : L.toInstance.memory.readValue p.toInt32 w.guest with
      | ok v =>
        rw [Act.map_of_ok (Guest.readValue_of_ok hv)]
        exact .ok rfl
      | error e =>
        rw [Act.map_of_error (Guest.readValue_of_error hv)]
        refine .error ⟨rfl, fun he => ?_⟩
        exact L.toInstance.memory.readValue_ne _ _ ((Stop.error.inj he) ▸ hv)
  · exact .ok rfl

section

variable {keeps spent : Wasm.Store → Prop}

theorem runHook_ends (hook : String) (hs : keeps w.guest)
    (hinvoke : ∀ t f, L.toInstance.function? hook = some (t, f) → t.params = [] →
      Act.Ends (fun _ w' => keeps w'.guest)
        (fun e w' => keeps w'.guest ∧ (Dry e → spent (noteTrap e w'.guest)))
        (L.invoke f [] w)) :
    Act.Ends (fun _ w' => keeps w'.guest) (fun e w' => keeps w'.guest ∧ (Dry e → spent (noteTrap e w'.guest)))
      (L.toInstance.runHook hook w) := by
  cases hfound : L.toInstance.function? hook with
  | none =>
    unfold Instance.runHook
    rw [hfound]
    exact .ok hs
  | some e =>
    obtain ⟨t, f⟩ := e
    by_cases hparams : t.params = []
    · rw [Instance.runHook_of_found hfound hparams]
      exact (hinvoke t f hfound hparams).bind fun _ _ hs' => .ok hs'
    · unfold Instance.runHook
      rw [hfound]
      dsimp only
      rw [if_pos hparams]
      exact .error ⟨hs, nofun⟩

variable (h : L.Upholds keeps spent)

include h

theorem writing_ends (args : List Value) (hs : keeps w.guest)
    (hinvoke : ∀ before v after ps w' size g, args = before ++ v :: after →
      L.toInstance.writeArguments before w = .ok ps w' → v.room? = some size → L.allocator = .ok g →
      keeps w'.guest → Act.Ends (fun _ w'' => keeps w''.guest)
        (fun e w'' => keeps w''.guest ∧ (Dry e → spent (noteTrap e w''.guest)))
        (L.invoke g [.i32 size.toUInt32] w')) :
    Act.Ends (fun _ w' => keeps w'.guest)
      (fun e w' => keeps w'.guest ∧ ∀ cause, e = .error cause → ∃ c, cause = .memory c)
      (L.toInstance.writeArguments args w) := by
  refine Instance.writeArguments_ends hs ?_ h.write
  intro before v after ps w' size hsplit hwritten hroom hs'
  refine allocate_ends hs' h.exhaust size fun g hg => ?_
  exact (hinvoke before v after ps w' size g hsplit hwritten hroom hg hs').imp (fun _ _ hw => hw)
    fun _ _ hw => hw.1

/-- What guest code keeps wherever it is entered, and host calls, a call keeps; and if it fails because gas
ran out, that was noted. -/
theorem perform_ends (hook name : String) (args : List Value) (hs : keeps w.guest)
    (hstep : ∀ m₀ m, L.Enters hook name args w m₀ → L.Reaches m₀ m → ∀ t s, m.step = .next t s →
      keeps s → Keeping keeps spent (Wasm.Engine.step L.program t s)) :
    Act.Ends (fun _ w' => keeps w'.guest) (fun e w' => keeps w'.guest ∧ (Dry e → spent (noteTrap e w'.guest)))
      (L.toInstance.perform hook name args w) := by
  have hentry : ∀ {f vs} {w' : World Wasm.Store},
      L.Enters hook name args w (L.opening f vs w') → keeps w'.guest →
      Act.Ends (fun _ w'' => keeps w''.guest)
        (fun e w'' => keeps w''.guest ∧ (Dry e → spent (noteTrap e w''.guest))) (L.invoke f vs w') :=
    fun henters hs' => ending_ends h _ (fun m hm => hstep _ m henters hm) (h.start none _ _ _ hs')
  -- Hook, arguments and method in turn; each starts from what the one before kept.
  have hhook := runHook_ends hook hs fun t f found params => hentry (.hook found params) hs
  refine hhook.with_eq.bind ?_
  rintro u w₁ ⟨hs₁, hprepared⟩
  refine Act.Ends.bind (P := fun f w' => w' = w₁ ∧ L.toInstance.method name args.length = .ok f) ?_ ?_
  · refine (Act.Ends.ofExcept (fun f hf => ⟨rfl, hf⟩) fun e he => ⟨hs₁, fun hdry => ?_⟩).mapError
    cases hdry
    exact absurd he method_ne
  rintro f w' ⟨rfl, hmethod⟩
  have hwriting := writing_ends h args hs₁ fun before v after ps w₂ size g hsplit hwritten hroom hg hs₂ =>
    hentry (.argument hprepared hmethod hsplit hwritten hroom hg) hs₂
  refine Act.Ends.bind (P := fun ps w₂ => keeps w₂.guest ∧
    L.toInstance.writeArguments args w' = .ok ps w₂) ?_ ?_
  · refine (hwriting.with_eq.imp (fun _ _ hw => hw) ?_).mapError
    rintro e w₂ ⟨hs₂, hmemory⟩
    refine ⟨hs₂, fun hdry => ?_⟩
    cases e with
    | error e =>
      obtain ⟨c, rfl⟩ := hmemory e rfl
      cases hdry
    | panic => cases hdry
    | unanswered => cases hdry
  rintro ps w₂ ⟨hs₂, hwritten⟩
  refine (hentry (.method hprepared hmethod hwritten) hs₂).bind fun results w₃ hs₃ => ?_
  refine ((readResult_ends w₃ results).imp ?_ ?_).mapError
  · rintro v w₄ rfl
    exact hs₃
  · rintro e w₄ ⟨rfl, he⟩
    refine ⟨hs₃, fun hdry => ?_⟩
    cases e with
    | error e =>
      cases hdry
      exact absurd rfl he
    | panic => cases hdry
    | unanswered => cases hdry

/-- What every step keeps holds wherever guest code is entered. -/
theorem Enters.keeping (hs : keeps w.guest)
    (hstep : ∀ t s, keeps s → Keeping keeps spent (Wasm.Engine.step L.program t s)) {m : Moment}
    (henters : L.Enters hook name args w m) : Keeping keeps spent m.step := by
  have hinvoke : ∀ f vs {w' : World Wasm.Store}, keeps w'.guest →
      Act.Ends (fun _ w'' => keeps w''.guest)
        (fun e w'' => keeps w''.guest ∧ (Dry e → spent (noteTrap e w''.guest))) (L.invoke f vs w') :=
    fun f vs w' hs' => ending_ends h (L.opening f vs w') (fun _ _ t s _ => hstep t s)
      (h.start none _ _ _ hs')
  have hprepare : ∀ {w₁}, L.toInstance.runHook hook w = .ok () w₁ → keeps w₁.guest := by
    intro w₁ hprepared
    have hend := runHook_ends hook hs fun _ f _ _ => hinvoke f [] hs
    exact (hprepared ▸ hend).of_ok
  have hwrite : ∀ {vs ps} {w₁ w₂ : World Wasm.Store}, keeps w₁.guest →
      L.toInstance.writeArguments vs w₁ = .ok ps w₂ → keeps w₂.guest := by
    intro vs ps w₁ w₂ hs₁ hwritten
    have hend := writing_ends h vs hs₁ fun _ _ _ _ _ _ g _ _ _ _ hs' => hinvoke g _ hs'
    exact (hwritten ▸ hend).of_ok
  cases henters with
  | hook found params => exact h.start none _ _ _ hs
  | argument prepared method split written room allocator =>
    exact h.start none _ _ _ (hwrite (hprepare prepared) written)
  | method prepared method written => exact h.start none _ _ _ (hwrite (hprepare prepared) written)

end

variable {gas : Int64}

/-- The moments of a call within its budget, at any depth. -/
def During (L : Linked) (hook name : String) (gas : Int64) (args : List Value) (w : World Wasm.Store)
    (m : Moment) : Prop :=
  ∃ s m₀, L.meter.fund gas w.guest = .ok () s ∧ L.Enters hook name args { w with guest := s } m₀ ∧
    L.Reaches m₀ m

theorem run_of_funded {s : Wasm.Store} (h : L.meter.fund gas w.guest = .ok () s) :
    L.toInstance.run hook name gas args w = L.toInstance.perform hook name args { w with guest := s } :=
  Instance.run_of_funded h

theorem run_of_refused {e : GasError} {s : Wasm.Store} (h : L.meter.fund gas w.guest = .error e s) :
    L.toInstance.run hook name gas args w = .error (.error (.host (.ofGas e))) { w with guest := s } :=
  Instance.run_of_refused h

/-- A call whose budget is refused leaves the guest alone. -/
theorem call_of_refused {e : GasError} {s : Wasm.Store} (h : L.meter.fund gas w.guest = .error e s) :
    (Act.finalState (L.toInstance.call hook name gas args w)).guest = w.guest := by
  rw [Instance.finalState_call, noting_of_error (run_of_refused h)]
  exact GasMeter.fund_eq_error h

/-- Whatever a call runs, the store stays sound, and where gas runs out the meter is exhausted. -/
theorem run_ends (hook name : String) (gas : Int64) (args : List Value) (hL : L.Fit) (hs : L.Sound w.guest) :
    Act.Ends (fun _ w' => L.Sound w'.guest)
      (fun e w' => L.Sound w'.guest ∧ (Dry e → L.Reporting → L.meter.Spent w'.guest))
      (noting L.toInstance.noteTrap (L.toInstance.run hook name gas args) w) := by
  refine Act.Ends.noting (R := fun e w' => L.Sound w'.guest ∧
    (Dry e → L.Reporting → L.meter.Spent (noteTrap e w'.guest))) ?_ ?_
  · have hfund := (sturdy hL.multiplier_pos).fund hs gas
    cases hr : L.meter.fund gas w.guest with
    | ok u s =>
      rw [hr] at hfund
      rw [run_of_funded hr]
      exact perform_ends (upholds_sound hL) hook name args hfund.of_ok.1 fun _ _ _ _ t s _ hs' =>
        keeping_of_follows hL hs' (Wasm.Engine.follows_step L.program t s)
    | error e s =>
      rw [hr] at hfund
      cases GasMeter.fund_eq_error hr
      rw [run_of_refused hr]
      refine .error ⟨hs, fun hdry => ?_⟩
      cases e with
      | outOfGas => exact absurd rfl hfund.of_error
      | overflow a m => cases hdry
      | counterUnavailable r => cases hdry
  · exact fun e w' ⟨hsound, hspent⟩ => ⟨hsound.noteTrap e, hspent⟩

end Linked

end AspectHost
