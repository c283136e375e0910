import AspectHost.Proofs.Standing

/-! # Every call starts from its own budget

Before it enters guest code for the first time, be it the hook, the allocator or the method, a call does
no more to the guest than to store its budget on the counter (`Linked.perform_opens`). The counter shows
what was stored on it last, so nothing that earlier calls left there shows. A budget that the meter does
not take ends the call before guest code is entered at all.

Where guest code is entered first is told by a call whose guest does not answer there: nothing else that the
guest may do can keep that call from ending so. -/

namespace AspectHost

namespace Linked

/-! ## Where guest code is entered first -/

/-- Guest code that stops at once. -/
def halting (stop : Stop Failure) : Invocation := fun _ _ w => .error stop w

/-- The guest, whose code there is no running. -/
def still (L : Linked) : Instance Wasm.Store := L.around (halting .unanswered)

section

variable {ε ε' α β : Type} {X : Invocation → Act ε (World Wasm.Store) α} {f : Nat} {vs : List Wasm.Val}
  {w w₁ w₂ : World Wasm.Store}

/-- An activity that starts in `w` enters guest code first in `w₁`, to run `f` on `vs`: if there is no
answer to that, the activity ends without one, in the world that guest code left, whatever else guest code
does. -/
def First (X : Invocation → Act ε (World Wasm.Store) α) (f : Nat) (vs : List Wasm.Val)
    (w w₁ : World Wasm.Store) : Prop :=
  ∀ invoke w', invoke f vs w₁ = .error .unanswered w' → X invoke w = .error .unanswered w'

/-- The activity does not enter guest code. -/
def Apart (X : Invocation → Act ε (World Wasm.Store) α) (w : World Wasm.Store) : Prop :=
  ∃ r, ∀ invoke, X invoke w = r

namespace First

theorem invoke (f : Nat) (vs : List Wasm.Val) (w : World Wasm.Store) :
    First (fun invoke => invoke f vs) f vs w w := fun _ _ h => h

theorem bind (h : First X f vs w w₁) (Y : Invocation → α → Act ε (World Wasm.Store) β) :
    First (fun invoke => X invoke >>= Y invoke) f vs w w₁ :=
  fun invoke w' hend => Act.bind_of_error (h invoke w' hend) _

/-- What comes before guest code is entered is the same whatever guest code does. -/
theorem after {a : α} (hX : ∀ invoke, X invoke w = .ok a w₁) {Y : Invocation → α → Act ε (World Wasm.Store) β}
    (h : First (fun invoke => Y invoke a) f vs w₁ w₂) :
    First (fun invoke => X invoke >>= Y invoke) f vs w w₂ :=
  fun invoke w' hend => (Act.bind_of_ok (hX invoke) _).trans (h invoke w' hend)

theorem mapError (h : First X f vs w w₁) (g : ε → ε') :
    First (fun invoke => Act.mapError g (X invoke)) f vs w w₁ :=
  fun invoke w' hend => Act.mapError_of_error (h invoke w' hend) g

/-- There is one world in which guest code is entered first. -/
theorem unique {f' : Nat} {vs' : List Wasm.Val} (h : First X f vs w w₁) (h' : First X f' vs' w w₂) :
    w₁ = w₂ := by
  -- guest code that stops at once shows the world that it was entered in
  have hend := h (halting .unanswered) w₁ rfl
  rw [h' (halting .unanswered) w₂ rfl] at hend
  cases hend
  rfl

theorem not_apart (h : First X f vs w w₁) : ¬ Apart X w := by
  rintro ⟨r, hr⟩
  -- guest code could leave one world or another
  have hone := (hr _).symm.trans (h (fun _ _ _ => .error .unanswered ⟨{}, #[], #[]⟩) _ rfl)
  have hother := (hr _).symm.trans (h (fun _ _ _ => .error .unanswered ⟨{}, #[0], #[]⟩) _ rfl)
  exact Nat.zero_ne_one (congrArg (fun x => (Act.finalState x).contexts.size) (hone.symm.trans hother))

end First

/-- Guest code is entered in the world in which the activity starts, or not at all. -/
def Opens (X : Invocation → Act ε (World Wasm.Store) α) (w : World Wasm.Store) : Prop :=
  (∃ f vs, First X f vs w w) ∨ Apart X w

theorem Apart.of_error {e : Stop ε} {w' : World Wasm.Store} (hX : ∀ invoke, X invoke w = .error e w')
    (Y : Invocation → α → Act ε (World Wasm.Store) β) : Apart (fun invoke => X invoke >>= Y invoke) w :=
  ⟨_, fun invoke => Act.bind_of_error (hX invoke) _⟩

theorem Opens.after {a : α} (hX : ∀ invoke, X invoke w = .ok a w)
    {Y : Invocation → α → Act ε (World Wasm.Store) β} (h : Opens (fun invoke => Y invoke a) w) :
    Opens (fun invoke => X invoke >>= Y invoke) w := by
  obtain ⟨f, vs, hfirst⟩ | ⟨r, hr⟩ := h
  · exact .inl ⟨f, vs, hfirst.after hX⟩
  · exact .inr ⟨r, fun invoke => (Act.bind_of_ok (hX invoke) _).trans (hr invoke)⟩

end

/-! ## The course of a call -/

variable {L : Linked} {w : World Wasm.Store}

/-- Making room for a value is the allocator's work, which is asked first or not at all. -/
theorem writeValue_opens (L : Linked) (v : Value) (w : World Wasm.Store) :
    (∃ f vs, First (fun invoke => (L.around invoke).writeValue v) f vs w w) ∨
      ∃ e, ∀ invoke, (L.around invoke).writeValue v w = .error e w := by
  cases hb : v.encode? with
  | none => exact .inr ⟨_, fun invoke => by rw [Guest.writeValue_eq, hb]⟩
  | some b =>
    by_cases hlarge : maxLength < b.length
    · exact .inr ⟨_, fun invoke => by rw [Guest.writeValue_eq, hb]; exact if_pos hlarge⟩
    · have hwrite : ∀ invoke, ∀ {e : Stop MemoryError} {w'},
          L.allocate invoke (Int32.ofNat b.length) w = .error e w' →
          (L.around invoke).writeValue v w = .error (e.map .memory) w' := by
        intro invoke e w' ha
        have hroom : v.room? = some (Int32.ofNat b.length) := by
          simp only [Value.room?, hb, if_neg hlarge]
        exact Guest.writeValue_of_refused hroom ha
      cases hg : L.allocator with
      | error e =>
        refine .inr ⟨_, fun invoke => hwrite invoke (e := .error e) ?_⟩
        unfold allocate
        rw [hg]
        rfl
      | ok g =>
        refine .inl ⟨g, [.i32 (Int32.ofNat b.length).toUInt32], fun invoke w' hend => ?_⟩
        exact hwrite invoke (allocate_of_stopped hg hend)

/-- Of all the places at which a call may enter guest code, the first one is reached in the world in which it
starts. -/
theorem perform_opens (L : Linked) (hook name : String) (args : List Value) (w : World Wasm.Store) :
    Opens (fun invoke => (L.around invoke).perform hook name args) w := by
  have hrest : Opens (fun invoke => do
      let f ← Instance.hosted (Act.ofExcept (L.still.method name args.length))
      let ps ← Instance.hosted ((L.around invoke).writeArguments args)
      let results ← invoke f (ps.map fun p => .i32 p.toUInt32)
      Instance.hosted (L.still.readResult results)) w := by
    cases hmethod : L.still.method name args.length with
    | error e => exact .inr (.of_error (fun _ => rfl) _)
    | ok f =>
      refine .after (fun _ => rfl) ?_
      cases args with
      | nil => exact .after (fun _ => rfl) (.inl ⟨f, [], (First.invoke f [] w).bind _⟩)
      | cons v vs =>
        obtain ⟨g, us, hfirst⟩ | ⟨e, he⟩ := L.writeValue_opens v w
        · exact .inl ⟨g, us, ((hfirst.bind _).mapError _).bind _⟩
        · exact .inr (.of_error (fun invoke => Act.mapError_of_error (Act.bind_of_error (he invoke) _) _) _)
  cases hfound : L.still.function? hook with
  | none =>
    refine .after (a := ()) (fun invoke => ?_) hrest
    unfold Instance.runHook
    rw [show (L.around invoke).function? hook = none from hfound]
    rfl
  | some e =>
    obtain ⟨t, f⟩ := e
    by_cases hparams : t.params = []
    · refine .inl ⟨f, [], First.bind (fun invoke w' hend => ?_) _⟩
      rw [Instance.runHook_of_found (I := L.around invoke) hfound hparams]
      exact Act.bind_of_error hend _
    · have hrefused : ∀ invoke, (L.around invoke).runHook hook w =
          .error (.error (.misuse s!"expected {t.params.length} arguments, got 0")) w := by
        intro invoke
        unfold Instance.runHook
        rw [show (L.around invoke).function? hook = some (t, f) from hfound]
        dsimp only
        rw [if_pos hparams]
        rfl
      exact .inr (.of_error hrefused _)

section

variable (hook name : String) {gas : Int64} (args : List Value)

/-- A call that stored its budget enters guest code, if at all, with nothing else changed. -/
theorem call_opens {s : Wasm.Store} (h : L.meter.fund gas w.guest = .ok () s) :
    (∃ f vs, First (fun invoke => (L.around invoke).call hook name gas args) f vs w { w with guest := s }) ∨
      Apart (fun invoke => (L.around invoke).call hook name gas args) w := by
  have hrun : ∀ invoke, (L.around invoke).run hook name gas args w =
      (L.around invoke).perform hook name args { w with guest := s } :=
    fun invoke => Instance.run_of_funded h
  obtain ⟨f, vs, hfirst⟩ | ⟨r, hr⟩ := L.perform_opens hook name args { w with guest := s }
  · refine .inl ⟨f, vs, fun invoke w' hend => ?_⟩
    exact Instance.call_of_error ((hrun invoke).trans (hfirst invoke w' hend))
  · refine .inr ⟨L.still.call hook name gas args w, fun invoke => ?_⟩
    have hsame := fun invoke => (hrun invoke).trans (hr invoke)
    cases r with
    | ok value w' =>
      exact (Instance.call_of_ok (hsame invoke)).trans
        (Instance.call_of_ok (hsame (halting .unanswered))).symm
    | error stop w' =>
      exact (Instance.call_of_error (hsame invoke)).trans
        (Instance.call_of_error (hsame (halting .unanswered))).symm

/-- A call whose budget is too large, or negative, ends before guest code is entered. -/
theorem call_of_overflow (h : gas < 0 ∨ L.meter.maxOuter < gas) (invoke : Invocation) :
    (L.around invoke).call hook name gas args w =
      .error (.error (L.still.callError w.guest
        (.host (.ofGas (.overflow gas L.meter.maxOuter))))) w := by
  have hrun : (L.around invoke).run hook name gas args w =
      .error (.error (.host (.ofGas (.overflow gas L.meter.maxOuter)))) w :=
    Instance.run_of_refused (GasMeter.fund_of_refused h w.guest)
  exact Instance.call_of_error hrun

end

/-! ## The counter -/

/-- The host can read the counter and store on it: it is fuel, or an exported global for words of 64 bits
that may be set. -/
def Usable (L : Linked) : Prop :=
  L.config.gas.metering = .globalCounter →
    ∃ g, L.module.exportIndex? .global L.config.gas.counterGlobal = some g ∧
      L.module.globalSpace[g]? = some ⟨.i64, true⟩

theorem Usable.store (h : L.Usable) (hready : L.ready = true) (gas : Int64) (s : Wasm.Store) :
    ∃ s', L.meter.store gas s = .ok s' := by
  unfold meter
  dsimp only
  cases hmode : L.config.gas.metering with
  | fuel => exact ⟨_, rfl⟩
  | globalCounter =>
    obtain ⟨g, hexport, hglobal⟩ := h hmode
    have hindex := (counterIndex_eq_ok hready).mpr hexport
    refine ⟨{ s with globals := s.globals.setIfInBounds g (.i64 gas.toUInt64) }, ?_⟩
    simp only [storeGlobalCounter, hindex, bind, Except.bind, hglobal]
    rfl

/-- A budget that the meter takes is exactly what a usable counter then shows, whatever it showed before. -/
theorem Usable.fund (h : L.Usable) (hL : L.Fit) (hready : L.ready = true) {s : Wasm.Store} (hs : L.Sound s)
    {gas : Int64} (htaken : ¬ (gas < 0 ∨ L.meter.maxOuter < gas)) :
    ∃ s', L.meter.fund gas s = .ok () s' ∧ ¬ L.Exhausted s' ∧
      ∃ c, L.meter.counter s' = .ok c ∧ c.toInt = gas.toInt * L.config.gas.multiplier.toInt := by
  obtain ⟨s', hstore⟩ := h.store hready (gas * L.meter.multiplier) s
  have hfund : L.meter.fund gas s = .ok () s' :=
    (GasMeter.fund_of_taken htaken s).trans (GasMeter.put_of_ok hstore)
  have hfunded := hfund ▸ (sturdy hL.multiplier_pos).fund hs gas
  obtain ⟨hs', hgas, c, hc, hcounter⟩ := hfunded.of_ok
  have hnonneg : 0 ≤ gas.toInt * L.config.gas.multiplier.toInt :=
    Int.mul_nonneg hgas (Int.le_of_lt hL.multiplier_pos)
  refine ⟨s', hfund, fun hexhausted => ?_, c, hc, hcounter⟩
  obtain ⟨c', hc', hneg⟩ := (spent_iff hready hs').mpr hexhausted
  cases hc.symm.trans hc'
  change c.toInt = gas.toInt * L.config.gas.multiplier.toInt at hcounter
  omega

end Linked

/-! ## Aspects -/

namespace Aspect

section

variable {code : Bytes} {apis : Registry} {config : Config} {a : Aspect} {l : Live}

/-- The call of the guest behind a call of an aspect, with the guest's code run as it may. -/
def entering (config : Config) (l : Live) (method : String) (gas : Int64) (args : List Value)
    (invoke : Linked.Invocation) : Act CallError (World Wasm.Store) CallOutput :=
  (l.linked.around invoke).call config.initExport method gas args

variable [Wasm.Engine]

theorem guestCall_eq_entering (a : Aspect) (l : Live) (method : String) (gas : Int64) (args : List Value) :
    a.guestCall l method gas args =
      entering a.config l method gas args l.linked.invoke ⟨l.store, l.contexts, #[]⟩ := rfl

/-- A call that leaves the guest as it was, and fails otherwise than by breaking off, leaves all as it was. -/
theorem call_of_unchanged {a : Aspect} (hl : a.callable = .ok l) {method : String} {gas : Int64}
    {args : List Value} {e : CallError}
    (h : a.guestCall l method gas args = .error (.error e) ⟨l.store, l.contexts, #[]⟩) :
    a.call method gas args = { result := .error (.error e), state := a } := by
  obtain ⟨hlive, -⟩ := live_of_callable hl
  unfold guestCall at h
  simp only [Aspect.call, hl, h, Bool.or_false, ← hlive]

/-- **Each call starts from its own budget**, whatever was done before. If the meter takes the budget,
guest code is first entered with exactly that on the counter, on a meter that is not exhausted, or it is
not entered at all. Any other budget is an overflow; guest code is not entered then, and everything stays
as it was. -/
theorem call_budgeted (h : (build code apis config).1 = .ok a) (history : List Use)
    (hready : (a.after history).state = .ready) (hl : (a.after history).live = some l)
    (husable : l.linked.Usable) (method : String) (gas : Int64) (args : List Value) :
    let w : World Wasm.Store := ⟨l.store, l.contexts, #[]⟩
    (0 ≤ gas.toInt ∧ gas.toInt ≤ Word.max / config.gas.multiplier.toInt →
      (∀ f vs w', Linked.First (entering config l method gas args) f vs w w' →
        ¬ l.linked.Exhausted w'.guest ∧ ∃ c, l.linked.meter.counter w'.guest = .ok c ∧
          c.toInt = gas.toInt * config.gas.multiplier.toInt) ∧
      ((∃ f vs w', Linked.First (entering config l method gas args) f vs w w') ∨
        Linked.Apart (entering config l method gas args) w)) ∧
    (¬ (0 ≤ gas.toInt ∧ gas.toInt ≤ Word.max / config.gas.multiplier.toInt) →
      Linked.Apart (entering config l method gas args) w ∧
      ∃ left, (a.after history).call method gas args =
        { result := .error (.error
            ⟨.gasOverflow (GasError.overflow gas l.linked.meter.maxOuter).message, left⟩)
          state := a.after history }) := by
  have hstands := stands_after h history
  obtain ⟨c, hc, -⟩ := hstands.live l hl
  obtain ⟨hcallable, hjoins, hinstance, hsound⟩ := hstands.of_ready hready hl hc
  have hfit := hjoins.fit hstands.checked
  have hm : l.linked.config.gas.multiplier = config.gas.multiplier :=
    congrArg (·.gas.multiplier) hjoins.config
  have hrefused : (gas < 0 ∨ l.linked.meter.maxOuter < gas) ↔
      ¬ (0 ≤ gas.toInt ∧ gas.toInt ≤ Word.max / config.gas.multiplier.toInt) := by
    rw [Word.neg_iff, Int64.lt_iff_toInt_lt, GasMeter.toInt_maxOuter hfit.multiplier_pos, ← hm]
    change _ ∨ Word.max / l.linked.config.gas.multiplier.toInt < gas.toInt ↔ _
    omega
  refine ⟨fun htaken => ?taken, fun hover => ?overflowed⟩
  case taken =>
    obtain ⟨s, hfund, hexhausted, hcounter⟩ :=
      husable.fund hfit hinstance hsound fun hno => hrefused.mp hno htaken
    rw [hm] at hcounter
    obtain ⟨f, vs, hfirst⟩ | hapart := Linked.call_opens (w := ⟨l.store, l.contexts, #[]⟩)
      config.initExport method args hfund
    · refine ⟨fun f' vs' w' hfirst' => ?_, .inl ⟨f, vs, _, hfirst⟩⟩
      cases hfirst.unique hfirst'
      exact ⟨hexhausted, hcounter⟩
    · exact ⟨fun f' vs' w' hfirst' => absurd hapart hfirst'.not_apart, .inr hapart⟩
  case overflowed =>
    have hcall := Linked.call_of_overflow (w := ⟨l.store, l.contexts, #[]⟩) config.initExport method args
      (hrefused.mpr hover)
    have hguest := guestCall_eq_entering (a.after history) l method gas args
    rw [hstands.config] at hguest
    exact ⟨⟨_, hcall⟩, _, call_of_unchanged hcallable (hguest.trans (hcall l.linked.invoke))⟩

end

/-- Calls on fuel, after one that ran out of it. -/
theorem call_budgeted_idle :
    ∃ l, (idle.after [.call "f" 0 []]).live = some l ∧ l.linked.Exhausted l.store ∧ l.linked.Usable ∧
      (∃ f vs w', Linked.First (entering fuelled l "f" 7 []) f vs ⟨l.store, l.contexts, #[]⟩ w' ∧
        ¬ l.linked.Exhausted w'.guest ∧ l.linked.meter.counter w'.guest = .ok 700) ∧
      ∃ left, (idle.after [.call "f" 0 []]).call "f" (-1) [] =
        { result := .error (.error
            ⟨.gasOverflow (GasError.overflow (-1) l.linked.meter.maxOuter).message, left⟩)
          state := idle.after [.call "f" 0 []] } := by
  have hready : (idle.after [.call "f" 0 []]).state = .ready := by decide +kernel
  obtain ⟨l, hl⟩ := Option.isSome_iff_exists.mp
    (show (idle.after [.call "f" 0 []]).live.isSome = true by decide +kernel)
  obtain ⟨c, -, hjoins, -⟩ := (stands_after build_idle [.call "f" 0 []]).live l hl
  have hmode : l.linked.config.gas.metering = .fuel := congrArg (·.gas.metering) hjoins.config
  have husable : l.linked.Usable := fun h => nomatch hmode.symm.trans h
  have hexhausted : l.linked.Exhausted l.store := by
    have hnoted : ((idle.after [.call "f" 0 []]).live.map (·.store.fuel.exhausted)) = some true := by
      decide +kernel
    rw [hl] at hnoted
    unfold Linked.Exhausted
    rw [hmode]
    exact Option.some.inj hnoted
  have hcalls := fun gas => call_budgeted build_idle [.call "f" 0 []] hready hl husable "f" gas []
  obtain ⟨hshown, hfirst⟩ := (hcalls 7).1 (by decide)
  refine ⟨l, hl, hexhausted, husable, ?first, ((hcalls (-1)).2 (by decide)).2⟩
  case first =>
    obtain ⟨f, vs, w', hfirst⟩ | ⟨r, hr⟩ := hfirst
    · obtain ⟨hfresh, c, hc, hcounter⟩ := hshown f vs w' hfirst
      have h700 : c = 700 := Int64.toInt_inj.mp hcounter
      exact ⟨f, vs, w', hfirst, hfresh, h700 ▸ hc⟩
    · -- it shows how the guest's code ends
      have hend : ((idle.after [.call "f" 0 []]).live.map fun l =>
          let ends := fun stop => Act.outcome
            (entering fuelled l "f" 7 [] (Linked.halting stop) ⟨l.store, l.contexts, #[]⟩)
          (ends .panic, ends .unanswered)) = some (.error .panic, .error .unanswered) := by
        decide +kernel
      simp only [hl, Option.map_some, hr, Option.some.injEq, Prod.mk.injEq] at hend
      rw [hend.1] at hend
      cases hend.2

end Aspect
end AspectHost
