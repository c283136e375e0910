import AspectHost.Proofs.Linked
import AspectHost.Proofs.Moments

/-! # The meter of linked guest code

Guest code cannot add a global or gain fuel. So whatever has run, the counter shows what the host stored on
it last, or what guest code made of that (`Linked.sturdy`), and whoever is told that gas ran out finds the
meter exhausted (`Linked.upholds_sound`). -/

namespace AspectHost.Linked

variable {L : Linked} {s s' : Wasm.Store}

/-- There are as many globals as the module has, and the fuel fits the counter. -/
structure Sound (L : Linked) (s : Wasm.Store) : Prop where
  globals : s.globals.size = L.module.globalSpace.length
  amount : s.fuel.amount ≤ Word.max

theorem Sound.later (h : L.Sound s) (hs : s.Later s') : L.Sound s' :=
  ⟨hs.globals.trans h.globals, hs.amount.trans h.amount⟩

theorem counterIndex_error {e : GasError} (h : L.counterIndex = .error e) :
    ∃ reason, e = .counterUnavailable reason := by
  unfold counterIndex at h
  dsimp only at h
  repeat' split at h
  all_goals
    cases h
    try exact ⟨_, rfl⟩

theorem globalCounter_error {s : Wasm.Store} {e : GasError} (h : L.globalCounter s = .error e) :
    ∃ reason, e = .counterUnavailable reason := by
  unfold globalCounter at h
  cases hi : L.counterIndex with
  | error e' =>
    rw [hi] at h
    cases h
    exact counterIndex_error hi
  | ok g =>
    simp only [hi, bind, Except.bind] at h
    split at h
    · cases h
    · cases h
      exact ⟨_, rfl⟩

theorem storeGlobalCounter_error {gas : Int64} {s : Wasm.Store} {e : GasError}
    (h : L.storeGlobalCounter gas s = .error e) : ∃ reason, e = .counterUnavailable reason := by
  unfold storeGlobalCounter at h
  cases hi : L.counterIndex with
  | error e' =>
    rw [hi] at h
    cases h
    exact counterIndex_error hi
  | ok g =>
    simp only [hi, bind, Except.bind] at h
    split at h
    · cases h
    · cases h
      exact ⟨_, rfl⟩
    · cases h
      exact ⟨_, rfl⟩

theorem counter_of_fuel (hmode : L.config.gas.metering = .fuel) (s : Wasm.Store) :
    L.meter.counter s = .ok (fuelCounter s.fuel) := by
  unfold meter
  simp only [hmode]

theorem counter_of_global (hmode : L.config.gas.metering = .globalCounter) (s : Wasm.Store) :
    L.meter.counter s = L.globalCounter s := by
  unfold meter
  simp only [hmode]

/-- A counter that cannot be read is unavailable, and that is all that is wrong with it. -/
theorem counter_error {s : Wasm.Store} {e : GasError} (h : L.meter.counter s = .error e) :
    ∃ reason, e = .counterUnavailable reason := by
  cases hmode : L.config.gas.metering with
  | globalCounter =>
    rw [L.counter_of_global hmode] at h
    exact globalCounter_error h
  | fuel =>
    rw [L.counter_of_fuel hmode] at h
    cases h

/-- A global that was set shows what it was set to, since it is there. -/
theorem globalCounter_of_store (hs : L.Sound s) {gas : Int64} (h : L.storeGlobalCounter gas s = .ok s') :
    L.Sound s' ∧ L.globalCounter s' = .ok gas := by
  unfold storeGlobalCounter at h
  cases hi : L.counterIndex with
  | error e =>
    rw [hi] at h
    cases h
  | ok g =>
    simp only [hi, bind, Except.bind] at h
    split at h
    · rename_i hglobal
      cases h
      have hlt : g < s.globals.size := by
        rw [hs.globals]
        exact (List.getElem?_eq_some_iff.mp hglobal).1
      refine ⟨⟨Array.size_setIfInBounds.trans hs.globals, hs.amount⟩, ?_⟩
      simp only [globalCounter, hi, bind, Except.bind, Array.getElem?_setIfInBounds_self_of_lt hlt]
      rfl
    · cases h
    · cases h

/-- **The counter of linked guest code shows what was stored on it.** -/
theorem sturdy (hm : 0 < L.config.gas.multiplier.toInt) : L.meter.Sturdy L.Sound where
  multiplier_pos := hm
  store {g s s'} hs hg h := by
    unfold meter at h ⊢
    dsimp only at h ⊢
    cases hmode : L.config.gas.metering with
    | globalCounter =>
      simp only [hmode] at h
      exact globalCounter_of_store hs h
    | fuel =>
      simp only [hmode] at h
      cases h
      have hmax := Word.toInt_le_max g
      refine ⟨⟨hs.globals, ?_⟩, congrArg Except.ok (fuelCounter_fuelOf hg)⟩
      change max 0 g.toInt ≤ Word.max
      unfold Word.max at hmax ⊢
      omega
  store_ne g s h := by
    unfold meter at h
    dsimp only at h
    split at h
    · obtain ⟨reason, hreason⟩ := storeGlobalCounter_error h
      cases hreason
    · cases h
  counter_ne s h := by
    obtain ⟨reason, hreason⟩ := counter_error h
    cases hreason

theorem later_write {p : Pointer} {b : Bytes} (h : L.memory.write p b s = .ok s') : s.Later s' := by
  obtain ⟨start, rfl⟩ := eq_write h
  exact ⟨by simp, by simp, by simp⟩

/-! ## What running keeps of the meter -/

/-- The configuration was checked, and the code runs on fuel only where fuel counts gas. -/
structure Fit (L : Linked) : Prop where
  multiplier_pos : 0 < L.config.gas.multiplier.toInt
  fuelled : L.program.fuelled = true → L.config.gas.metering = .fuel

/-- The host functions behind the imports fail only with failures of their own. -/
def Reporting (L : Linked) : Prop := ∀ api, .api api ∈ L.imports → api.function.Reports

theorem spent_of_noted (hmode : L.config.gas.metering = .fuel) (hs : s.fuel.exhausted = true) :
    L.meter.Spent s := by
  refine .of_exhausted ?_
  rw [L.counter_of_fuel hmode, fuelCounter, if_pos hs]

/-- The meter is exhausted: the exported global is negative, or a lack of fuel is noted. -/
def Exhausted (L : Linked) (s : Wasm.Store) : Prop :=
  match L.config.gas.metering with
  | .globalCounter => ∃ g n, L.module.exportIndex? .global L.config.gas.counterGlobal = some g ∧
      s.globals[g]? = some (.i64 n) ∧ n.toInt64 < 0
  | .fuel => s.fuel.exhausted = true

theorem counterIndex_eq_ok (hready : L.ready = true) {g : Nat} :
    L.counterIndex = .ok g ↔ L.module.exportIndex? .global L.config.gas.counterGlobal = some g := by
  unfold counterIndex
  rw [hready]
  dsimp only
  cases L.module.exportIndex? .global L.config.gas.counterGlobal <;> simp

theorem globalCounter_eq_ok {c : Int64} : L.globalCounter s = .ok c ↔
    ∃ g n, L.counterIndex = .ok g ∧ s.globals[g]? = some (.i64 n) ∧ n.toInt64 = c := by
  unfold globalCounter
  constructor
  · intro h
    obtain ⟨g, hg, h⟩ := bind_eq_ok.mp h
    split at h
    · rename_i n hn
      cases h
      exact ⟨g, n, hg, hn, rfl⟩
    · cases h
  · rintro ⟨g, n, hg, hn, rfl⟩
    exact bind_eq_ok.mpr ⟨g, hg, by rw [hn]; rfl⟩

/-- On a sound store the counter is negative exactly if the meter is exhausted. -/
theorem spent_iff (hready : L.ready = true) (h : L.Sound s) : L.meter.Spent s ↔ L.Exhausted s := by
  unfold GasMeter.Spent Exhausted
  cases hmode : L.config.gas.metering with
  | globalCounter =>
    simp only [L.counter_of_global hmode, globalCounter_eq_ok, counterIndex_eq_ok hready, ← Word.neg_iff]
    constructor
    · rintro ⟨c, ⟨g, n, hg, hn, rfl⟩, hneg⟩
      exact ⟨g, n, hg, hn, hneg⟩
    · rintro ⟨g, n, hg, hn, hneg⟩
      exact ⟨_, ⟨g, n, hg, hn, rfl⟩, hneg⟩
  | fuel =>
    simp only [L.counter_of_fuel hmode, Except.ok.injEq, exists_eq_left', fuelCounter]
    by_cases hnoted : s.fuel.exhausted = true
    · simp [hnoted, GasMeter.exhausted]
    · have hamount := h.amount
      unfold Word.max at hamount
      rw [if_neg hnoted, Int64.toInt_ofInt_of_le (by omega) (by omega)]
      refine iff_of_false ?_ hnoted
      omega

/-- Where fuel counts gas, no step lets the counter show more. -/
theorem drops_of_later (hmode : L.config.gas.metering = .fuel) (h : L.Sound s) (hs : s.Later s') :
    L.meter.Drops s s' := by
  have hle := hs.amount
  have hamount := h.amount
  unfold Word.max at hamount
  by_cases hnoted : s'.fuel.exhausted = true
  · refine .of_exhausted ?_
    rw [L.counter_of_fuel hmode, fuelCounter, if_pos hnoted]
  · have hbefore : ¬ s.fuel.exhausted = true := fun h => hnoted (hs.exhausted h)
    refine .of_le (L.counter_of_fuel hmode s) (L.counter_of_fuel hmode s') ?_
    rw [fuelCounter, fuelCounter, if_neg hnoted, if_neg hbefore,
      Int64.toInt_ofInt_of_le (by omega) (by omega), Int64.toInt_ofInt_of_le (by omega) (by omega)]
    omega

theorem sound_exhaust (h : L.Sound s) : L.Sound (exhaust s) := ⟨h.globals, h.amount⟩

theorem keeping_of_follows (hL : L.Fit) (h : L.Sound s) {Thread : Type} {x : Wasm.Step Thread}
    (hx : x.Follows L.program s) : Keeping L.Sound (fun s => L.Reporting → L.meter.Spent s) x := by
  refine ⟨h.later hx.later, ?_⟩
  intro s' hs' _
  exact spent_of_noted (hL.fuelled (hx.dry s' hs')) rfl

theorem Sound.noteTrap (h : L.Sound s) (e : Stop Failure) : L.Sound (Linked.noteTrap e s) := by
  refine noteTrap_keeps (fun s hs => ?_) e h
  exact sound_exhaust hs

/-- Noting a lack of fuel lets the counter show no more. -/
theorem drops_exhaust (L : Linked) (s : Wasm.Store) : L.meter.Drops s (exhaust s) := by
  cases hmode : L.config.gas.metering with
  | globalCounter =>
    refine .of_eq ?_
    rw [L.counter_of_global hmode, L.counter_of_global hmode]
    rfl
  | fuel =>
    refine .of_exhausted ?_
    rw [L.counter_of_fuel hmode, fuelCounter, exhaust, if_pos rfl]

/-- Whatever is noted of how guest code stopped, an exhausted meter stays exhausted. -/
theorem spent_noteTrap (e : Stop Failure) (h : L.meter.Spent s) : L.meter.Spent (noteTrap e s) := by
  refine noteTrap_keeps (fun s hspent => ?_) e h
  cases hmode : L.config.gas.metering with
  | globalCounter =>
    obtain ⟨c, hc, hneg⟩ := hspent
    refine ⟨c, ?_, hneg⟩
    rw [L.counter_of_global hmode] at hc ⊢
    exact hc
  | fuel => exact spent_of_noted hmode rfl

/-- Where gas runs out, at whatever depth, the meter is exhausted. -/
theorem upholds_sound [Wasm.Engine] (hL : L.Fit) :
    L.Upholds L.Sound fun s => L.Reporting → L.meter.Spent s where
  start caller f args s hs :=
    keeping_of_follows hL hs (Wasm.Engine.follows_start L.program caller f args s)
  exhaust s hs := sound_exhaust hs
  serve invoke api ps w hapi hs := by
    have hsturdy : (L.guest invoke).meter.Sturdy L.Sound := sturdy hL.multiplier_pos
    refine (serve_settles hsturdy (w := w) hs ps).imp (fun _ _ h => h.sound) fun e w' h => ?_
    exact ⟨h.sound, fun he hreporting => h.spent (hreporting api hapi) he⟩
  write p b s s' hs h := hs.later (later_write h)

end AspectHost.Linked
