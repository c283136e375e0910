import AspectHost.Proofs.Instantiation
import AspectHost.Proofs.Reset
import AspectHost.Proofs.Session

/-! # What stands after every history

An instance starts with the globals of its module and without fuel, and neither calls nor the start function
change what the meter rests on. So whatever was done with an aspect, its instance is fit and its store is
sound (`Aspect.stands_after`). -/

namespace AspectHost

variable {config : Config}

theorem Config.multiplier_pos (h : config.check = .ok ()) : 0 < config.gas.multiplier.toInt := by
  by_contra hneg
  have hle : config.gas.multiplier ≤ 0 := by
    rw [Int64.le_iff_toInt_le, Int64.toInt_zero]
    omega
  unfold check at h
  rw [if_pos hle] at h
  cases h

namespace Linked

variable {L : Linked} {c : Compiled}

theorem Joins.fit (h : L.Joins c config) (hcheck : config.check = .ok ()) : L.Fit where
  multiplier_pos := by
    rw [h.config]
    exact Config.multiplier_pos hcheck
  fuelled := h.fuelled.mp

theorem Joins.reporting (h : L.Joins c config) (hc : ∀ e ∈ c.apis.entries, e.2.function.Reports) :
    L.Reporting := by
  intro api hapi
  obtain ⟨e, he, hfunction⟩ := h.backed _ hapi api rfl
  exact hfunction ▸ hc e he

theorem Sound.of_module {L' : Linked} {s : Wasm.Store} (h : L.Sound s)
    (hmodule : L'.module = L.module) : L'.Sound s :=
  ⟨by rw [hmodule]; exact h.globals, h.amount⟩

end Linked

namespace Compiled

variable {c : Compiled} {l : Live}

theorem sound_of_prepare (h : c.prepare config = .ok l) : l.linked.Sound l.store := by
  obtain ⟨hjoins, -, s, helements, hdata⟩ := prepare_eq_ok h
  have hblank : l.linked.Sound (c.blankStore config) := by
    have hamount : (c.blankStore config).fuel.amount = 0 := rfl
    refine ⟨?_, hamount ▸ by decide⟩
    rw [hjoins.globalSpace]
    simp [blankStore]
  have hplaced : l.linked.Sound s := by
    refine foldlM_keeps l.linked.Sound ?_ hblank helements
    intro e _ s s' hs he
    unfold placeElements at he
    split at he
    · split at he
      · cases he
        exact ⟨hs.globals, hs.amount⟩
      · cases he
    · cases he
      exact hs
  refine foldlM_keeps l.linked.Sound ?_ hplaced hdata
  intro d _ s s' hs hd
  unfold placeData at hd
  split at hd
  · split at hd
    · cases hd
      exact ⟨by simp [hs.globals], by simp [hs.amount]⟩
    · cases hd
  · cases hd
    exact hs

theorem sound_of_instantiate [Wasm.Engine] (hcheck : config.check = .ok ())
    (h : (c.instantiate config).1 = .ok l) :
    l.linked.Sound l.store := by
  obtain ⟨hjoins, -, l₀, hprepare, hstore⟩ := instantiate_eq_ok h
  obtain ⟨hjoins₀, -, -⟩ := prepare_eq_ok hprepare
  have hsound := sound_of_prepare hprepare
  have hfit := hjoins₀.fit hcheck
  have hmodule : l.linked.module = l₀.linked.module := hjoins.module.trans hjoins₀.module.symm
  obtain hstore | ⟨f, results, w, hinvoke, hstore⟩ := hstore
  · rw [hstore]
    exact hsound.of_module hmodule
  · have hend := Linked.ending_ends (Linked.upholds_sound hfit)
      (l₀.linked.opening f [] ⟨l₀.store, l₀.contexts, #[]⟩)
      (fun m _ t s _ hs =>
        Linked.keeping_of_follows hfit hs (Wasm.Engine.follows_step l₀.linked.program t s))
      (Linked.keeping_of_follows hfit hsound (Wasm.Engine.follows_start _ _ _ _ _))
    rw [← Linked.invoke_eq_ending, hinvoke] at hend
    rw [hstore]
    exact hend.of_ok.of_module hmodule

end Compiled

namespace Aspect

variable {a : Aspect}

/-- If the aspect has an instance, it joins the module with host functions, and its store is sound. -/
structure Stands (config : Config) (a : Aspect) : Prop where
  checked : config.check = .ok ()
  live : ∀ l, a.live = some l → ∃ c, a.compiled = some c ∧ l.linked.Joins c config ∧
    l.linked.ready = true ∧ l.linked.Sound l.store
  config : a.config = config

theorem Stands.of_lifeless (hcheck : config.check = .ok ()) (hlive : a.live = none)
    (hconfig : a.config = config) : a.Stands config :=
  ⟨hcheck, fun l hl => absurd (hl.symm.trans hlive) (Option.some_ne_none l), hconfig⟩

section

variable [Wasm.Engine]

/-- The call of the guest behind a call of the aspect. -/
def guestCall (a : Aspect) (l : Live) (method : String) (gas : Int64) (args : List Value) :
    EStateM.Result (Stop CallError) (World Wasm.Store) CallOutput :=
  l.linked.toInstance.call a.config.initExport method gas args ⟨l.store, l.contexts, #[]⟩

section

variable {l : Live} {method : String} {gas : Int64} {args : List Value} (hl : a.callable = .ok l)

include hl

theorem result_of_ok {output : CallOutput} {w : World Wasm.Store}
    (h : a.guestCall l method gas args = .ok output w) :
    (a.call method gas args).result = .ok output := by
  unfold guestCall at h
  simp only [Aspect.call, hl, h]

theorem result_of_error {e : Stop CallError} {w : World Wasm.Store}
    (h : a.guestCall l method gas args = .error e w) :
    (a.call method gas args).result = .error e := by
  unfold guestCall at h
  simp only [Aspect.call, hl, h]

/-- A call replaces what the instance holds, and nothing else but whether the aspect is poisoned. -/
theorem state_call (method : String) (gas : Int64) (args : List Value) :
    (a.call method gas args).state.config = a.config ∧
    (a.call method gas args).state.compiled = a.compiled ∧
    (a.call method gas args).state.live = some ⟨l.linked,
      (Act.finalState (a.guestCall l method gas args)).guest,
      (Act.finalState (a.guestCall l method gas args)).contexts⟩ := by
  unfold guestCall
  simp only [Aspect.call, hl]
  cases l.linked.toInstance.call a.config.initExport method gas args ⟨l.store, l.contexts, #[]⟩ <;>
    exact ⟨rfl, rfl, rfl⟩

omit [Wasm.Engine] in
theorem live_of_callable : a.live = some l ∧ a.poisoned = false := by
  unfold callable at hl
  split at hl
  · cases hl
  · rename_i hpoisoned
    split at hl
    · cases hl
    · cases hl
    · rename_i hlive
      cases hl
      exact ⟨hlive, by simpa using hpoisoned⟩

end

omit [Wasm.Engine] in
theorem callable_of_ready {l : Live} (hready : a.state = .ready) (hl : a.live = some l) :
    a.callable = .ok l := by
  unfold state at hready
  unfold callable
  split at hready
  · cases hready
  · rename_i hpoisoned
    rw [if_neg hpoisoned]
    cases hc : a.compiled with
    | none =>
      rw [hc] at hready
      cases hready
    | some c => rw [hl]

omit [Wasm.Engine] in
/-- What a ready aspect has: an instance that joins its module with its host functions, on a sound store. -/
theorem Stands.of_ready (h : a.Stands config) (hready : a.state = .ready) {l : Live} (hl : a.live = some l)
    {c : Compiled} (hc : a.compiled = some c) :
    a.callable = .ok l ∧ l.linked.Joins c config ∧ l.linked.ready = true ∧ l.linked.Sound l.store := by
  obtain ⟨c', hc', hstands⟩ := h.live l hl
  cases hc.symm.trans hc'
  exact ⟨callable_of_ready hready hl, hstands⟩

/-- Whatever a call runs, it leaves the store sound. -/
theorem Stands.sound_call (h : a.Stands config) {l : Live} (hl : a.live = some l) (method : String)
    (gas : Int64) (args : List Value) :
    l.linked.Sound (Act.finalState (a.guestCall l method gas args)).guest := by
  obtain ⟨c, -, hjoins, -, hsound⟩ := h.live l hl
  have hend := Linked.run_ends a.config.initExport method gas args (hjoins.fit h.checked)
    (w := ⟨l.store, l.contexts, #[]⟩) hsound
  unfold guestCall
  rw [Instance.finalState_call]
  exact (hend.imp (fun _ _ hw => hw) fun _ _ hw => hw.1).finalState

theorem Stands.call (h : a.Stands config) (method : String) (gas : Int64) (args : List Value) :
    (a.call method gas args).state.Stands config := by
  cases hcallable : a.callable with
  | error e =>
    simp only [Aspect.call, hcallable]
    exact h
  | ok l =>
    have hl := (live_of_callable hcallable).1
    obtain ⟨c, hc, hjoins, hready, -⟩ := h.live l hl
    obtain ⟨hconfig, hcompiled, hlive⟩ :=
      state_call hcallable method gas args
    refine ⟨h.checked, ?_, hconfig.trans h.config⟩
    intro l' hl'
    rw [hlive] at hl'
    cases hl'
    exact ⟨c, hcompiled.trans hc, hjoins, hready, h.sound_call hl method gas args⟩

theorem Stands.reset (h : a.Stands config) (apis : Registry) : (a.reset apis).state.Stands config := by
  unfold Aspect.reset
  split
  · exact h
  · cases hc : a.compiled with
    | none => exact h
    | some c =>
      dsimp only
      rw [h.config]
      split
      · rename_i l events hi
        refine ⟨h.checked, ?_, rfl⟩
        intro l' hl'
        cases hl'
        have hl : (Compiled.instantiate ⟨c.module, apis⟩ config).1 = .ok l := by rw [hi]
        obtain ⟨hjoins, hready, -⟩ := Compiled.instantiate_eq_ok hl
        exact ⟨_, rfl, hjoins, hready, Compiled.sound_of_instantiate h.checked hl⟩
      · exact .of_lifeless h.checked rfl rfl

theorem Stands.of_build {code : Bytes} {apis : Registry} (h : (build code apis config).1 = .ok a) :
    a.Stands config := by
  obtain ⟨hcheck, module, hread, -⟩ := Keeps.of_build h
  rw [build_eq hcheck hread] at h
  cases hi : ((⟨module, apis⟩ : Compiled).instantiate config).1 with
  | error e =>
    rw [hi] at h
    cases h
  | ok l =>
    rw [hi] at h
    cases h
    refine ⟨hcheck, ?_, rfl⟩
    intro l' hl'
    cases hl'
    obtain ⟨hjoins, hready, -⟩ := Compiled.instantiate_eq_ok hi
    exact ⟨_, rfl, hjoins, hready, Compiled.sound_of_instantiate hcheck hi⟩

/-- A new aspect holds on to the host functions that it was built with. -/
theorem apis_of_build {code : Bytes} {apis : Registry} (h : (build code apis config).1 = .ok a)
    {c : Compiled} (hc : a.compiled = some c) : c.apis = apis := by
  obtain ⟨hcheck, module, hread, -⟩ := Keeps.of_build h
  rw [build_eq hcheck hread] at h
  split at h
  · cases h
    cases hc
    rfl
  · cases h

theorem Stands.use (h : a.Stands config) (u : Use) : (a.use u).Stands config := by
  cases u with
  | call method gas args => exact h.call method gas args
  | reset apis => exact h.reset apis
  | release => exact .of_lifeless h.checked rfl h.config

/-- Whatever was done with an aspect, what it has of an instance stands. -/
theorem stands_after {code : Bytes} {apis : Registry} (h : (build code apis config).1 = .ok a)
    (history : List Use) : (a.after history).Stands config := by
  have hstands := Stands.of_build h
  clear h
  induction history generalizing a with
  | nil => exact hstands
  | cons u us ih => exact ih (hstands.use u)

end

theorem idle_stands : (idle.after []).state = .ready ∧
    ∃ l c, idle.live = some l ∧ idle.compiled = some c ∧ c.apis = oneFunction ∧
      l.linked.Joins c fuelled := by
  have hready : (idle.after []).state = .ready := by decide +kernel
  obtain ⟨l, hl⟩ := Option.isSome_iff_exists.mp (show idle.live.isSome = true by decide +kernel)
  obtain ⟨c, hc, hjoins, -⟩ := (Stands.of_build build_idle).live l hl
  exact ⟨hready, l, c, hl, hc, apis_of_build build_idle hc, hjoins⟩

end Aspect
end AspectHost
