import AspectHost.Proofs.Standing

/-! # What a call gives back

A host function that does not add to its budget lets no host call show more on the meter, and entering guest
code and writing memory do not either. So where the guest itself never raises its counter, what is left of a
budget is at most the budget. A budget that is refused is another matter: the meter still shows what the call
before left there, and that is what such a call reports. -/

namespace AspectHost

/-- The gas that the result of a call reports as left. -/
def reported : Except (Stop CallError) CallOutput → Option Int64
  | .ok output => some output.gasRemaining
  | .error (.error e) => some e.gasRemaining
  | .error _ => none

namespace Linked

variable {L : Linked} {s s₀ : Wasm.Store} {hook name : String} {args : List Value} {gas : Int64}
  {w : World Wasm.Store}

/-- The host functions behind the imports leave no more of their budgets than they start with. -/
def Spending (L : Linked) : Prop := ∀ api, .api api ∈ L.imports → api.function.Spends

theorem Joins.spending {c : Compiled} {config : Config} (h : L.Joins c config)
    (hc : ∀ e ∈ c.apis.entries, e.2.function.Spends) : L.Spending := by
  intro api hapi
  obtain ⟨e, he, hfunction⟩ := h.backed _ hapi api rfl
  exact hfunction ▸ hc e he

section

variable [Wasm.Engine]

/-- No step of the guest lets the counter show more, wherever it is taken during the call. Where fuel counts
gas there is no need to ask. -/
def Lowers (L : Linked) (hook name : String) (gas : Int64) (args : List Value) (w : World Wasm.Store) :
    Prop :=
  L.config.gas.metering = .fuel ∨ ∀ m, L.During hook name gas args w m → ∀ t s, m.step = .next t s →
    L.meter.Drops s (Wasm.Engine.step L.program t s).store

theorem drops_start (hs : L.Sound s) (caller : Option Wasm.Engine.Thread) (f : Nat)
    (args : List Wasm.Val) : L.meter.Drops s (Wasm.Engine.start L.program caller f args s).store := by
  cases hmode : L.config.gas.metering with
  | globalCounter =>
    refine .of_eq ?_
    simp only [L.counter_of_global hmode, globalCounter, Wasm.Engine.globals_start]
  | fuel => exact drops_of_later hmode hs (Wasm.Engine.follows_start L.program caller f args s).later

/-- Around the steps of the guest, the meter shows no more than at first. -/
theorem upholds_drops (hL : L.Fit) (hspending : L.Spending) (s₀ : Wasm.Store) :
    L.Upholds (fun s => L.Sound s ∧ L.meter.Drops s₀ s) fun _ => True where
  start caller f args s hs :=
    ⟨⟨hs.1.later (Wasm.Engine.follows_start L.program caller f args s).later,
      hs.2.trans (drops_start hs.1 caller f args)⟩, fun _ _ => trivial⟩
  exhaust s hs := ⟨sound_exhaust hs.1, hs.2.trans (L.drops_exhaust s)⟩
  serve invoke api ps w hapi hs := by
    have hsturdy : (L.guest invoke).meter.Sturdy L.Sound := sturdy hL.multiplier_pos
    have hserved : ∀ w', Served (L.guest invoke) L.Sound api w.guest w' →
        L.Sound w'.guest ∧ L.meter.Drops s₀ w'.guest :=
      fun w' h => ⟨h.sound, hs.2.trans (h.drops (hspending api hapi))⟩
    exact (serve_settles hsturdy hs.1 ps).imp (fun _ w' h => hserved w' h)
      fun _ w' h => ⟨hserved w' h.toServed, fun _ => trivial⟩
  write p b s s' hs h := ⟨hs.1.later (later_write h), hs.2.trans (.of_eq (L.counter_write h))⟩

/-- Once a budget was taken, the meter never shows more than that. -/
theorem call_drops (hL : L.Fit) (hspending : L.Spending) (hs : L.Sound w.guest)
    (hlowers : L.Lowers hook name gas args w) (hfund : L.meter.fund gas w.guest = .ok () s) :
    L.meter.Drops s (Act.finalState (L.toInstance.call hook name gas args w)).guest := by
  have hsound : L.Sound s := (hfund ▸ (sturdy hL.multiplier_pos).fund hs gas).of_ok.1
  have hend := perform_ends (upholds_drops hL hspending s) hook name args (w := { w with guest := s })
    ⟨hsound, .refl _ s⟩ ?_
  · rw [← run_of_funded hfund] at hend
    have hnoted : Act.Ends (fun _ w' => L.meter.Drops s w'.guest) (fun _ w' => L.meter.Drops s w'.guest)
        (noting L.toInstance.noteTrap (L.toInstance.run hook name gas args) w) := by
      refine (hend.imp (fun _ _ hw => hw.2) fun _ _ hw => hw.1.2).noting fun e w' hw => ?_
      exact noteTrap_keeps (fun s' hs' => hs'.trans (L.drops_exhaust s')) e hw
    rw [Instance.finalState_call]
    exact hnoted.finalState
  · intro m₀ m henters hreaches t s' hstep hs'
    have hfollows := (Wasm.Engine.follows_step L.program t s').later
    refine ⟨⟨hs'.1.later hfollows, hs'.2.trans ?_⟩, fun _ _ => trivial⟩
    obtain hfuel | hlowers := hlowers
    · exact drops_of_later hfuel hs'.1 hfollows
    · exact hlowers m ⟨s, m₀, hfund, henters, hreaches⟩ t s' hstep

end

end Linked

/-- A failed call reports what the meter can tell, and nothing if that is nothing. -/
theorem Instance.left_of_failed {γ : Type} {I : Instance γ} {hook name : String} {gas : Int64}
    {args : List Value} {w w' : World γ} {e : CallError}
    (h : I.call hook name gas args w = .error (.error e) w') :
    e.gasRemaining = 0 ∨ I.meter.remainingOuter w'.guest = .ok e.gasRemaining := by
  obtain ⟨value, cause, -, -, rfl⟩ | ⟨failure, -, rfl⟩ := call_eq_error h
  · exact .inl rfl
  · simp only [callError, leftover]
    split
    · exact .inl rfl
    · split
      · rename_i hleft
        exact .inr hleft
      · exact .inl rfl

namespace Aspect

variable {code : Bytes} {apis : Registry} {config : Config} {a : Aspect} {l : Live} {method : String}
  {gas : Int64} {args : List Value}

/-- What a call reports is nothing, or what the meter shows when it is over. -/
theorem reported_call [Wasm.Engine] (hl : a.callable = .ok l) {left : Int64}
    (h : reported (a.call method gas args).result = some left) :
    left = 0 ∨ l.linked.meter.remainingOuter (Act.finalState (a.guestCall l method gas args)).guest =
      .ok left := by
  cases hguest : a.guestCall l method gas args with
  | ok output w =>
    rw [result_of_ok hl hguest] at h
    cases h
    exact .inr (Instance.call_eq_ok hguest).2
  | error e w =>
    rw [result_of_error hl hguest] at h
    cases e with
    | panic => cases h
    | unanswered => cases h
    | error e =>
      cases h
      exact Instance.left_of_failed hguest

/-- **A call gives back no more than the budget that it took.** If it did not take its budget, it reports
what the meter showed before; of a budget too large for the meter that is still a part. -/
theorem call_gives_back [Wasm.Engine] (h : (build code apis config).1 = .ok a) (history : List Use)
    (hready : (a.after history).state = .ready) (hl : (a.after history).live = some l) {c : Compiled}
    (hc : (a.after history).compiled = some c)
    (hspends : ∀ e ∈ c.apis.entries, e.2.function.Spends) (method : String) (gas : Int64)
    (args : List Value)
    (hlowers : l.linked.Lowers config.initExport method gas args ⟨l.store, l.contexts, #[]⟩) :
    ∀ left, reported ((a.after history).call method gas args).result = some left →
      0 ≤ left.toInt ∧
      ((∃ s, l.linked.meter.fund gas l.store = .ok () s) ∨ l.linked.meter.maxOuter < gas →
        left.toInt ≤ max gas.toInt 0) ∧
      ∀ e s, l.linked.meter.fund gas l.store = .error e s →
        left = 0 ∨ l.linked.meter.remainingOuter l.store = .ok left := by
  intro left hleft
  have hstands := stands_after h history
  obtain ⟨hcallable, hjoins, -, hsound⟩ := hstands.of_ready hready hl hc
  have hfit := hjoins.fit hstands.checked
  have hsturdy := Linked.sturdy hfit.multiplier_pos
  have hpos := hsturdy.multiplier_pos
  have hfund := hsturdy.fund hsound gas
  obtain rfl | hleft := reported_call hcallable hleft
  · have hzero : (0 : Int64).toInt = 0 := rfl
    exact ⟨Int.le_refl 0, fun _ => by omega, fun _ _ _ => .inl rfl⟩
  obtain ⟨hnonneg, hmax⟩ := GasMeter.remainingOuter_bounds hpos hleft
  refine ⟨hnonneg, ?_, ?_⟩
  · rintro (⟨s, hfunded⟩ | hover)
    · -- The counter starts at the worth of the budget and never shows more.
      rw [hfunded] at hfund
      obtain ⟨-, hgas, budget, hbudget, hunits⟩ := hfund.of_ok
      unfold guestCall at hleft
      rw [hstands.config] at hleft
      have hdrops := Linked.call_drops hfit (hjoins.spending hspends) hsound hlowers hfunded
      have hle := hdrops.remainingOuter_le hpos hbudget hunits hleft
      omega
    · -- No meter shows as much as such a budget, whatever it was left with.
      rw [Int64.lt_iff_toInt_lt] at hover
      change l.linked.meter.maxOuter.toInt < gas.toInt at hover
      omega
  · intro e s hrefused
    unfold guestCall at hleft
    rw [Linked.call_of_refused hrefused] at hleft
    exact .inr hleft

theorem spends_oneFunction : ∀ e ∈ oneFunction.entries, e.2.function.Spends := by
  intro e he
  cases List.mem_singleton.mp he
  refine HostFunction.spends_of_body fun args q => ?_
  cases args with
  | nil => exact Nat.le_refl _
  | cons v vs => cases v <;> first | exact Nat.zero_le _ | exact Nat.le_refl _

theorem call_gives_back_idle :
    ∃ left, reported (idle.call "f" 1000 []).result = some left ∧ 0 ≤ left.toInt ∧
      left.toInt ≤ 1000 := by
  obtain ⟨hready, l, c, hl, hc, hapis, hjoins⟩ := idle_stands
  have hspends : ∀ e ∈ c.apis.entries, e.2.function.Spends := hapis ▸ spends_oneFunction
  have hlowers : l.linked.Lowers fuelled.initExport "f" 1000 [] ⟨l.store, l.contexts, #[]⟩ := by
    refine .inl ?_
    rw [hjoins.config]
    rfl
  have hresult : reported (idle.call "f" 1000 []).result = some 999 := by decide +kernel
  have hfunded : (idle.live.bind fun l =>
      Act.success? (l.linked.meter.fund 1000 l.store)).isSome = true := by
    decide +kernel
  rw [hl, Option.bind_some] at hfunded
  obtain ⟨⟨u, s⟩, hfund⟩ := Option.isSome_iff_exists.mp hfunded
  obtain ⟨hnonneg, hle, -⟩ :=
    call_gives_back build_idle [] hready hl hc hspends "f" 1000 [] hlowers 999 hresult
  exact ⟨999, hresult, hnonneg, hle (.inl ⟨s, Act.success?_eq_some.mp hfund⟩)⟩

/-- A negative budget is refused with what is left of the budget before. -/
theorem refused_gives_back :
    (build idleCode oneFunction fuelled).1 = .ok idle ∧ fuelled.gas.metering = .fuel ∧
      (∀ e ∈ oneFunction.entries, e.2.function.Spends) ∧
      (idle.after [.call "f" 1000 []]).state = .ready ∧
      reported ((idle.after [.call "f" 1000 []]).call "f" (-5) []).result = some 999 ∧
      max (-5 : Int64).toInt 0 < (999 : Int64).toInt :=
  ⟨build_idle, rfl, spends_oneFunction, by decide +kernel, by decide +kernel, by decide⟩

end Aspect
end AspectHost
