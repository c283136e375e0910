import AspectHost.Proofs.Metering

/-! # Meters can stand in for each other

A counter of its own, an exported global and the fuel of the engine keep gas in different ways: fuel is never
stored below zero, so that it ran out is noted beside it. Two meters are `Alike` while their counters show the
same, with every negative counter shown as that of an exhausted meter. Each operation answers the same on both
and leaves them alike (`GasOperation.run_alike`), and so does every run of operations (`readings_alike`). -/

namespace AspectHost

/-- What can be done with a meter. -/
inductive GasOperation where
  | fund (gas : Int64)
  | add (gas : Int64)
  | set (gas : Int64)
  | consume (gas : Int64)
  /-- Overwrites the counter as it is. -/
  | store (gas : Int64)
  | charge (rule : GasRule) (payload : Int64)
  | remaining
  | remainingOuter

/-- What shows of an operation: its answer, with an amount where it reads one, and the counter after it. -/
structure Reading where
  answer : Except GasError (Option Int64)
  counter : Except GasError Int64

namespace GasMeter

/-- A counter with all that is negative taken for the mark of an exhausted meter. -/
def shown (c : Int64) : Int64 := if c < 0 then exhausted else c

theorem shown_eq {c d : Int64} (h : shown c = shown d) : c < 0 ∧ d < 0 ∨ ¬ c < 0 ∧ c = d := by
  have hmark : exhausted < 0 := by decide
  unfold shown at h
  by_cases hc : c < 0
  · rw [if_pos hc] at h
    by_cases hd : d < 0
    · exact .inl ⟨hc, hd⟩
    · rw [if_neg hd] at h
      exact absurd (h ▸ hmark) hd
  · rw [if_neg hc] at h
    by_cases hd : d < 0
    · rw [if_pos hd] at h
      exact absurd (h ▸ hmark) hc
    · rw [if_neg hd] at h
      exact .inr ⟨hc, h⟩

/-- In ready states every amount can be stored, and is shown then. -/
structure Faithful {σ : Type} (m : GasMeter σ) (ready : σ → Prop) : Prop where
  store : ∀ {s} g, ready s →
    ∃ s' c, m.store g s = .ok s' ∧ ready s' ∧ m.counter s' = .ok c ∧ shown c = shown g

end GasMeter

namespace GasOperation

variable {σ : Type} (m : GasMeter σ)

def run : GasOperation → GasM σ (Option Int64)
  | fund gas => (fun _ => none) <$> m.fund gas
  | add gas => (fun _ => none) <$> m.add gas
  | set gas => (fun _ => none) <$> m.set gas
  | consume gas => (fun _ => none) <$> m.consume gas
  | store gas => (fun _ => none) <$> m.put gas
  | charge rule payload => (fun _ => none) <$> rule.charge m payload
  | remaining => some <$> GasM.query m.remaining
  | remainingOuter => some <$> GasM.query m.remainingOuter

/-- The readings of one operation after the other. -/
def readings : List GasOperation → σ → List Reading
  | [], _ => []
  | op :: ops, s =>
    let r := op.run m s
    ⟨Act.outcome r, GasMeter.shown <$> m.counter (Act.finalState r)⟩ :: readings ops (Act.finalState r)

end GasOperation

/-! ## Two meters side by side -/

/-- The same answer or the same failure, in states that are related. -/
inductive EndTogether {ε σ τ α : Type} (R : σ → τ → Prop) :
    EStateM.Result ε σ α → EStateM.Result ε τ α → Prop
  | ok (a : α) {s : σ} {t : τ} (h : R s t) : EndTogether R (.ok a s) (.ok a t)
  | error (e : ε) {s : σ} {t : τ} (h : R s t) : EndTogether R (.error e s) (.error e t)

namespace EndTogether

variable {ε σ τ α β : Type} {R : σ → τ → Prop}

theorem ends {x : EStateM.Result ε σ α} {y : EStateM.Result ε τ α} (h : EndTogether R x y) :
    (∃ a s t, x = .ok a s ∧ y = .ok a t ∧ R s t) ∨ ∃ e s t, x = .error e s ∧ y = .error e t ∧ R s t := by
  cases h with
  | ok a h => exact .inl ⟨a, _, _, rfl, rfl, h⟩
  | error e h => exact .inr ⟨e, _, _, rfl, rfl, h⟩

theorem bind {x : EStateM ε σ α} {y : EStateM ε τ α} {s : σ} {t : τ} (h : EndTogether R (x s) (y t))
    {f : α → EStateM ε σ β} {g : α → EStateM ε τ β} (hf : ∀ a s t, R s t → EndTogether R (f a s) (g a t)) :
    EndTogether R ((x >>= f) s) ((y >>= g) t) := by
  obtain ⟨a, s', t', hx, hy, h⟩ | ⟨e, s', t', hx, hy, h⟩ := h.ends
  · rw [Act.bind_of_ok hx, Act.bind_of_ok hy]
    exact hf a s' t' h
  · rw [Act.bind_of_error hx, Act.bind_of_error hy]
    exact .error e h

theorem map {x : EStateM ε σ α} {y : EStateM ε τ α} {s : σ} {t : τ} (h : EndTogether R (x s) (y t))
    (f : α → β) : EndTogether R ((f <$> x) s) ((f <$> y) t) := by
  rw [← bind_pure_comp, ← bind_pure_comp]
  exact h.bind fun a _ _ h => .ok (f a) h

theorem outcome {x : EStateM.Result ε σ α} {y : EStateM.Result ε τ α} (h : EndTogether R x y) :
    Act.outcome x = Act.outcome y := by
  cases h <;> rfl

theorem finalState {x : EStateM.Result ε σ α} {y : EStateM.Result ε τ α} (h : EndTogether R x y) :
    R (Act.finalState x) (Act.finalState y) := by
  cases h with
  | ok _ h => exact h
  | error _ h => exact h

theorem query {x : σ → Except GasError α} {y : τ → Except GasError α} {s : σ} {t : τ} (h : x s = y t)
    (hR : R s t) : EndTogether R (GasM.query x s) (GasM.query y t) := by
  unfold GasM.query
  rw [h]
  cases y t with
  | ok a => exact .ok a hR
  | error e => exact .error e hR

end EndTogether

namespace GasMeter

/-- Two ready meters whose counters show the same. -/
structure Alike {σ τ : Type} (m : GasMeter σ) (n : GasMeter τ) (P : σ → Prop) (Q : τ → Prop) (s : σ)
    (t : τ) : Prop where
  left : P s
  right : Q t
  counters : ∃ c d, m.counter s = .ok c ∧ n.counter t = .ok d ∧ shown c = shown d

section

variable {σ τ : Type} {m : GasMeter σ} {n : GasMeter τ} {P : σ → Prop} {Q : τ → Prop} {s : σ} {t : τ}

theorem Alike.shown_counter (h : m.Alike n P Q s t) :
    GasMeter.shown <$> m.counter s = GasMeter.shown <$> n.counter t := by
  obtain ⟨c, d, hc, hd, hshown⟩ := h.counters
  rw [hc, hd]
  exact congrArg Except.ok hshown

theorem remaining_alike (h : m.Alike n P Q s t) : m.remaining s = n.remaining t := by
  obtain ⟨c, d, hc, hd, hshown⟩ := h.counters
  obtain ⟨hcneg, hdneg⟩ | ⟨hcneg, rfl⟩ := shown_eq hshown
  · rw [remaining_of_neg hc (Word.neg_iff.mp hcneg), remaining_of_neg hd (Word.neg_iff.mp hdneg)]
  · have hnonneg : 0 ≤ c.toInt := by
      rw [Word.neg_iff] at hcneg
      omega
    rw [remaining_of_nonneg hc hnonneg, remaining_of_nonneg hd hnonneg]

variable (hm : m.Faithful P) (hn : n.Faithful Q) (h : m.Alike n P Q s t)

include hm hn h

theorem put_alike (g : Int64) : EndTogether (m.Alike n P Q) (m.put g s) (n.put g t) := by
  obtain ⟨s', c, hs, hP, hc, hcg⟩ := hm.store g h.left
  obtain ⟨t', d, ht, hQ, hd, hdg⟩ := hn.store g h.right
  rw [put_of_ok hs, put_of_ok ht]
  exact .ok () ⟨hP, hQ, c, d, hc, hd, hcg.trans hdg.symm⟩

theorem exhaust_alike : EndTogether (m.Alike n P Q)
    ((do m.put exhausted; throw .outOfGas : GasM σ Unit) s)
    ((do n.put exhausted; throw .outOfGas : GasM τ Unit) t) :=
  (put_alike hm hn h exhausted).bind fun _ _ _ h => .error _ h

theorem consume_alike (g : Int64) : EndTogether (m.Alike n P Q) (m.consume g s) (n.consume g t) := by
  obtain ⟨c, d, hc, hd, hshown⟩ := h.counters
  unfold consume
  rw [Act.bind_of_ok (read_eq hc), Act.bind_of_ok (read_eq hd)]
  -- Only a counter that is not negative is looked at any further, and such counters agree.
  obtain ⟨hcneg, hdneg⟩ | ⟨hcneg, rfl⟩ := shown_eq hshown
  · simp only [if_pos hcneg, if_pos hdneg]
    exact .error _ h
  · simp only [if_neg hcneg]
    by_cases hg : g < 0 ∨ c < g
    · simp only [if_pos hg]
      exact exhaust_alike hm hn h
    · simp only [if_neg hg]
      exact put_alike hm hn h (c - g)

theorem charge_alike (r : GasRule) (payload : Int64) :
    EndTogether (m.Alike n P Q) (r.charge m payload s) (r.charge n payload t) := by
  unfold GasRule.charge
  cases r.cost? payload with
  | none => exact exhaust_alike hm hn h
  | some k => exact consume_alike hm hn h k

variable (hmul : m.multiplier = n.multiplier)

include hmul

theorem set_alike (g : Int64) : EndTogether (m.Alike n P Q) (m.set g s) (n.set g t) := by
  unfold set maxOuter
  rw [hmul]
  split
  · exact put_alike hm hn h exhausted
  · split
    · exact .error _ h
    · exact put_alike hm hn h g

theorem fund_alike (g : Int64) : EndTogether (m.Alike n P Q) (m.fund g s) (n.fund g t) := by
  by_cases hg : g < 0 ∨ n.maxOuter < g
  · have hg' : g < 0 ∨ m.maxOuter < g := by rwa [maxOuter, hmul]
    rw [fund_of_refused hg, fund_of_refused hg', maxOuter, maxOuter, hmul]
    exact .error _ h
  · have hg' : ¬ (g < 0 ∨ m.maxOuter < g) := by rwa [maxOuter, hmul]
    rw [fund_of_taken hg, fund_of_taken hg', hmul]
    exact put_alike hm hn h _

theorem add_alike (g : Int64) : EndTogether (m.Alike n P Q) (m.add g s) (n.add g t) := by
  obtain ⟨c, d, hc, hd, hshown⟩ := h.counters
  have hsum : m.sum? c g = n.sum? d g := by
    unfold sum? maxOuter
    rw [hmul]
    obtain ⟨hcneg, hdneg⟩ | ⟨-, rfl⟩ := shown_eq hshown
    · rw [if_pos hcneg, if_pos hdneg]
    · rfl
  have hmax : m.maxOuter = n.maxOuter := by rw [maxOuter, maxOuter, hmul]
  unfold add
  rw [hmax]
  by_cases hg : g < 0 ∨ n.maxOuter < g
  · simp only [if_pos hg]
    exact .error _ h
  · simp only [if_neg hg]
    rw [Act.bind_of_ok (read_eq hc), Act.bind_of_ok (read_eq hd), hsum]
    cases n.sum? d g with
    | none => exact .error _ h
    | some total => exact put_alike hm hn h total

/-- **One operation answers the same on both meters, and leaves them alike.** -/
theorem run_alike (op : GasOperation) : EndTogether (m.Alike n P Q) (op.run m s) (op.run n t) := by
  have houter : m.remainingOuter s = n.remainingOuter t := by
    unfold remainingOuter
    rw [remaining_alike h, hmul]
  cases op with
  | fund g => exact (fund_alike hm hn h hmul g).map _
  | add g => exact (add_alike hm hn h hmul g).map _
  | set g => exact (set_alike hm hn h hmul g).map _
  | consume g => exact (consume_alike hm hn h g).map _
  | store g => exact (put_alike hm hn h g).map _
  | charge rule payload => exact (charge_alike hm hn h rule payload).map _
  | remaining => exact (EndTogether.query (remaining_alike h) h).map some
  | remainingOuter => exact (EndTogether.query houter h).map some

end

/-- Operations answer the same on two meters that are alike, however many came before. -/
theorem readings_alike {σ τ : Type} {m : GasMeter σ} {n : GasMeter τ} {P : σ → Prop} {Q : τ → Prop}
    (hm : m.Faithful P) (hn : n.Faithful Q) (hmul : m.multiplier = n.multiplier) (ops : List GasOperation)
    {s : σ} {t : τ} (h : m.Alike n P Q s t) :
    GasOperation.readings m ops s = GasOperation.readings n ops t := by
  induction ops generalizing s t with
  | nil => rfl
  | cons op ops ih =>
    have hrun := run_alike hm hn h hmul op
    have hnext := hrun.finalState
    unfold GasOperation.readings
    dsimp only
    rw [hrun.outcome, hnext.shown_counter, ih hnext]

end GasMeter

/-! ## The three ways to meter -/

theorem faithful_plainMeter (m : Int64) : (plainMeter m).Faithful fun _ => True where
  store g _ := ⟨g, g, rfl, trivial, rfl, rfl⟩

namespace Linked

variable {L : Linked}

/-- Gas is counted by a global that the guest exports, a mutable word of 64 bits. -/
structure CountsIn (L : Linked) (g : Nat) : Prop where
  mode : L.config.gas.metering = .globalCounter
  ready : L.ready = true
  exported : L.module.exportIndex? .global L.config.gas.counterGlobal = some g
  mutable : L.module.globalSpace[g]? = some ⟨.i64, true⟩

theorem CountsIn.counter {g : Nat} (h : L.CountsIn g) {s : Wasm.Store} {n : UInt64}
    (hn : s.globals[g]? = some (.i64 n)) : L.meter.counter s = .ok n.toInt64 := by
  rw [L.counter_of_global h.mode]
  exact globalCounter_eq_ok.mpr ⟨g, n, (counterIndex_eq_ok h.ready).mpr h.exported, hn, rfl⟩

theorem CountsIn.faithful {g : Nat} (h : L.CountsIn g) :
    L.meter.Faithful fun s => ∃ n, s.globals[g]? = some (.i64 n) where
  store {s} gas := by
    rintro ⟨n, hn⟩
    have hset : (s.globals.setIfInBounds g (.i64 gas.toUInt64))[g]? = some (.i64 gas.toUInt64) :=
      Array.getElem?_setIfInBounds_self_of_lt (Array.getElem?_eq_some_iff.mp hn).1
    have hstore : L.meter.store gas s =
        .ok { s with globals := s.globals.setIfInBounds g (.i64 gas.toUInt64) } := by
      unfold meter storeGlobalCounter
      simp only [h.mode, (counterIndex_eq_ok h.ready).mpr h.exported, bind, Except.bind, h.mutable]
      rfl
    exact ⟨_, gas, hstore, ⟨_, hset⟩, h.counter hset, rfl⟩

theorem shown_fuelOf (g : Int64) : GasMeter.shown (fuelCounter (fuelOf g)) = GasMeter.shown g := by
  by_cases hneg : g < 0
  · have hout : (fuelOf g).exhausted = true := decide_eq_true hneg
    rw [fuelCounter, if_pos hout, GasMeter.shown, GasMeter.shown, if_pos hneg]
    rfl
  · rw [fuelCounter_fuelOf]
    rw [Word.neg_iff] at hneg
    omega

theorem faithful_of_fuel (hmode : L.config.gas.metering = .fuel) : L.meter.Faithful fun _ => True where
  store {s} gas _ := by
    have hstore : L.meter.store gas s = .ok { s with fuel := fuelOf gas } := by
      unfold meter
      simp only [hmode]
    exact ⟨_, _, hstore, trivial, L.counter_of_fuel hmode _, shown_fuelOf gas⟩

end Linked

/-- **The three meters are interchangeable.** Whatever is done with them, a counter of its own, a global
and the fuel, all at zero, answer the same at every step and show the same. -/
theorem meters_interchangeable {L L' : Linked} {g : Nat} {s s' : Wasm.Store} (m : Int64)
    (hL : L.CountsIn g) (hm : L.config.gas.multiplier = m) (hs : s.globals[g]? = some (.i64 0))
    (hL' : L'.config.gas.metering = .fuel) (hm' : L'.config.gas.multiplier = m) (hs' : s'.fuel = ⟨0, false⟩)
    (ops : List GasOperation) :
    GasOperation.readings L.meter ops s = GasOperation.readings (plainMeter m) ops 0 ∧
      GasOperation.readings L'.meter ops s' = GasOperation.readings (plainMeter m) ops 0 := by
  constructor
  · exact GasMeter.readings_alike hL.faithful (faithful_plainMeter m) hm ops
      ⟨⟨0, hs⟩, trivial, 0, 0, hL.counter hs, rfl, rfl⟩
  · refine GasMeter.readings_alike (Linked.faithful_of_fuel hL') (faithful_plainMeter m) hm' ops
      ⟨trivial, trivial, 0, 0, ?_, rfl, rfl⟩
    rw [L'.counter_of_fuel hL' s', hs']
    rfl

/-- Guest code that exports its counter and has nothing else. -/
def counting (multiplier : Int64) : Linked where
  module := {
    globals := [⟨⟨.i64, true⟩, .value (.i64 0)⟩]
    exports := [⟨"__gas_counter__", .global, 0⟩] }
  program := ⟨#[], #[], 0, #[], false⟩
  imports := []
  config := { gas := { multiplier } }
  ready := true

/-- The same guest code on fuel. -/
def fuelling (multiplier : Int64) : Linked :=
  { counting multiplier with config := { gas := { multiplier, metering := .fuel } } }

/-- Stored as it is, refunded, charged and overcharged, the two show the same. -/
theorem meters_interchangeable_counting :
    GasOperation.readings (counting 100).meter [.store (-7), .add 2, .charge (.perByte 10 3) 40, .consume 71]
        { globals := #[.i64 0] } =
      GasOperation.readings (fuelling 100).meter
        [.store (-7), .add 2, .charge (.perByte 10 3) 40, .consume 71] {} := by
  have hcounts : (counting 100).CountsIn 0 := ⟨rfl, rfl, rfl, rfl⟩
  have hfuel : (fuelling 100).config.gas.metering = .fuel := rfl
  have hzero : ({} : Wasm.Store).fuel = ⟨0, false⟩ := rfl
  obtain ⟨h, h'⟩ := meters_interchangeable (s := { globals := #[.i64 0] }) 100 hcounts rfl rfl hfuel rfl hzero
    [.store (-7), .add 2, .charge (.perByte 10 3) 40, .consume 71]
  exact h.trans h'.symm

example : (GasOperation.readings (plainMeter 100)
    [.store (-7), .add 2, .charge (.perByte 10 3) 40, .consume 71] 0).map (·.counter) =
      [.ok (-1), .ok 200, .ok 70, .ok (-1)] := by rfl

end AspectHost
