import AspectHost.Proofs.Interchange

/-! # Meters compute as over the integers

Every operation of a meter stores what integers without bounds would give, or refuses and leaves the meter
alone, and which of the two it does is told by such integers as well (`Reliable.agrees`). So a meter that
starts empty never holds more than it takes, and never less than the mark of an exhausted one
(`Reliable.ranges_after`). -/

namespace AspectHost

namespace GasMeter

variable {σ : Type} {m : GasMeter σ} {s s' : σ} {c g : Int64}

/-- A counter that can be read takes every amount and the mark of an exhausted meter, and shows them. -/
structure Reliable (m : GasMeter σ) : Prop where
  multiplier_pos : 0 < m.multiplier.toInt
  store : ∀ {s c} g, m.counter s = .ok c → -1 ≤ g.toInt →
    ∃ s', m.store g s = .ok s' ∧ m.counter s' = .ok g

theorem reliable_plainMeter {k : Int64} (hk : 0 < k.toInt) : (plainMeter k).Reliable where
  multiplier_pos := hk
  store g _ _ := ⟨g, rfl, rfl⟩

/-- The meters that host calls meet are reliable. -/
theorem reliable_of_lawful {γ : Type} {G : Guest γ} {content : γ → Except MemoryError Bytes}
    (hG : G.Lawful content) : G.meter.Reliable where
  multiplier_pos := hG.multiplier_pos
  store g hc hg := by
    obtain ⟨s', hs, hc', -⟩ := hG.store g hc hg
    exact ⟨s', hs, hc'⟩

/-- The operation stores an amount and does nothing else. -/
def Stores (m : GasMeter σ) (x : GasM σ Unit) (s : σ) (amount : Int) : Prop :=
  ∃ g s', g.toInt = amount ∧ m.store g s = .ok s' ∧ x s = .ok () s' ∧ m.counter s' = .ok g

/-- The operation says that gas ran out. A counter that was not negative is parked. -/
def RunsDry (m : GasMeter σ) (x : GasM σ Unit) (s : σ) (c : Int64) : Prop :=
  ∃ s' c', x s = .error .outOfGas s' ∧ m.counter s' = .ok c' ∧ c'.toInt = min c.toInt (-1)

/-! ## Limits -/

/-- The largest outer amount, over the integers. -/
def outerLimit (m : GasMeter σ) : Int := Word.max / m.multiplier.toInt

/-- The outer amounts that a meter takes. -/
def Takes (m : GasMeter σ) (g : Int64) : Prop := 0 ≤ g.toInt ∧ g.toInt ≤ m.outerLimit

theorem refused_iff (hm : 0 < m.multiplier.toInt) : (g < 0 ∨ m.maxOuter < g) ↔ ¬ m.Takes g := by
  rw [Word.neg_iff, Int64.lt_iff_toInt_lt, toInt_maxOuter hm, Takes, outerLimit]
  omega

theorem capacity_nonneg (hm : 0 < m.multiplier.toInt) : 0 ≤ m.capacity :=
  Int.mul_nonneg (Int.ediv_nonneg (by decide) (Int.le_of_lt hm)) (Int.le_of_lt hm)

/-- What a meter takes is worth no more than its capacity. -/
theorem Takes.worth (hm : 0 < m.multiplier.toInt) (hg : m.Takes g) :
    0 ≤ g.toInt * m.multiplier.toInt ∧ g.toInt * m.multiplier.toInt ≤ m.capacity :=
  ⟨Int.mul_nonneg hg.1 (Int.le_of_lt hm), Int.mul_le_mul_of_nonneg_right hg.2 (Int.le_of_lt hm)⟩

/-- The words that the operations compute on the way are the integers that they stand for, and nothing is
divided by zero. -/
structure Unwrapped (m : GasMeter σ) (c g : Int64) : Prop where
  divisor : m.multiplier ≠ 0
  limit : m.maxOuter.toInt = m.outerLimit
  capacity : (m.maxOuter * m.multiplier).toInt = m.outerLimit * m.multiplier.toInt
  worth : m.Takes g → (g * m.multiplier).toInt = g.toInt * m.multiplier.toInt
  change : 0 ≤ g.toInt → g.toInt ≤ c.toInt → (c - g).toInt = c.toInt - g.toInt
  quotient : 0 ≤ c.toInt → (c / m.multiplier).toInt = c.toInt / m.multiplier.toInt

theorem unwrapped (hm : 0 < m.multiplier.toInt) (c g : Int64) : m.Unwrapped c g where
  divisor := multiplier_ne_zero hm
  limit := toInt_maxOuter hm
  capacity := toInt_capacity hm
  worth hg := Word.toInt_mul (hg.worth hm).1 ((hg.worth hm).2.trans (capacity_le_max hm))
  change hg hle := Word.toInt_sub hg hle
  quotient hc := Word.toInt_div hc hm

/-! ## Single operations -/

/-- The exact counter after adding an outer amount. -/
def sum (m : GasMeter σ) (c g : Int64) : Int := max c.toInt 0 + g.toInt * m.multiplier.toInt

/-- A sum is the exact one, and is refused exactly if it is over the capacity. -/
theorem sum?_eq_some_iff (hm : 0 < m.multiplier.toInt) (hg : 0 ≤ g.toInt) {total : Int64} :
    m.sum? c g = some total ↔ total.toInt = m.sum c g ∧ m.sum c g ≤ m.capacity := by
  have hcurrent : (if c < 0 then 0 else c).toInt = max c.toInt 0 := by
    by_cases hneg : c < 0
    · rw [if_pos hneg, Int64.toInt_zero]
      rw [Word.neg_iff] at hneg
      omega
    · rw [if_neg hneg]
      rw [Word.neg_iff] at hneg
      omega
  have hproduct : 0 ≤ g.toInt * m.multiplier.toInt := Int.mul_nonneg hg (Int.le_of_lt hm)
  unfold sum? sum
  simp only [Option.bind_eq_bind, Option.bind_eq_some_iff, Checked.mul?_eq_some_iff,
    Checked.add?_eq_some_iff, hcurrent, Int64.le_iff_toInt_le, toInt_capacity hm]
  constructor
  · rintro ⟨p, hp, t, ht, h⟩
    split at h
    · cases h
      omega
    · cases h
  · rintro ⟨ht, hle⟩
    have hmax := Word.toInt_le_max total
    obtain ⟨p, hp⟩ := Word.exists_toInt_eq hproduct (by omega)
    exact ⟨p, hp, total, by omega, if_pos (by omega)⟩

theorem add_of_refused (h : g < 0 ∨ m.maxOuter < g) (s : σ) :
    m.add g s = .error (.overflow g m.maxOuter) s := by
  unfold add
  simp only [if_pos h]
  rfl

theorem add_of_taken (hc : m.counter s = .ok c) (h : ¬ (g < 0 ∨ m.maxOuter < g)) :
    m.add g s = match m.sum? c g with
      | some total => m.put total s
      | none => .error (.overflow g m.maxOuter) s := by
  unfold add
  simp only [if_neg h]
  rw [Act.bind_of_ok (read_eq hc)]
  cases m.sum? c g <;> rfl

theorem add_of_over (hm : 0 < m.multiplier.toInt) (hc : m.counter s = .ok c)
    (h : ¬ (m.Takes g ∧ m.sum c g ≤ m.capacity)) : m.add g s = .error (.overflow g m.maxOuter) s := by
  by_cases hrefused : g < 0 ∨ m.maxOuter < g
  · exact add_of_refused hrefused s
  · have hg : m.Takes g := not_not.mp (mt (refused_iff hm).mpr hrefused)
    rw [add_of_taken hc hrefused]
    cases hsum : m.sum? c g with
    | none => rfl
    | some total => exact absurd ⟨hg, ((sum?_eq_some_iff hm hg.1).mp hsum).2⟩ h

/-- What the operations do with the amount `g` on a counter that shows `c`. -/
structure Agrees (m : GasMeter σ) (s : σ) (c g : Int64) : Prop where
  fund : m.Takes g → m.Stores (m.fund g) s (g.toInt * m.multiplier.toInt)
  fund_over : ¬ m.Takes g → m.fund g s = .error (.overflow g m.maxOuter) s
  add : m.Takes g → m.sum c g ≤ m.capacity → m.Stores (m.add g) s (m.sum c g)
  add_over : ¬ (m.Takes g ∧ m.sum c g ≤ m.capacity) → m.add g s = .error (.overflow g m.maxOuter) s
  set : 0 ≤ g.toInt → g.toInt ≤ m.capacity → m.Stores (m.set g) s g.toInt
  set_neg : g.toInt < 0 → m.Stores (m.set g) s (-1)
  set_over : m.capacity < g.toInt → m.set g s = .error (.overflow g (m.maxOuter * m.multiplier)) s
  consume : 0 ≤ g.toInt → g.toInt ≤ c.toInt → m.Stores (m.consume g) s (c.toInt - g.toInt)
  consume_over : ¬ (0 ≤ g.toInt ∧ g.toInt ≤ c.toInt) → m.RunsDry (m.consume g) s c

namespace Reliable

variable (hm : m.Reliable) (hc : m.counter s = .ok c)

include hm hc

theorem stores_of_put (hg : -1 ≤ g.toInt) {x : GasM σ Unit} (hx : x s = m.put g s) :
    m.Stores x s g.toInt := by
  obtain ⟨s', hs, hc'⟩ := hm.store g hc hg
  exact ⟨g, s', rfl, hs, hx.trans (put_of_ok hs), hc'⟩

theorem stores_fund (hg : m.Takes g) : m.Stores (m.fund g) s (g.toInt * m.multiplier.toInt) := by
  have hworth := hg.worth hm.multiplier_pos
  have hword := (m.unwrapped hm.multiplier_pos c g).worth hg
  have htaken := mt (refused_iff hm.multiplier_pos).mp (not_not_intro hg)
  rw [← hword] at hworth ⊢
  exact hm.stores_of_put hc (by omega) (fund_of_taken htaken s)

theorem stores_add (hg : m.Takes g) (hcap : m.sum c g ≤ m.capacity) :
    m.Stores (m.add g) s (m.sum c g) := by
  have hpos := hm.multiplier_pos
  have hmax := capacity_le_max hpos
  have hnonneg : 0 ≤ m.sum c g := by
    have hworth := hg.worth hpos
    unfold sum
    omega
  obtain ⟨total, htotal⟩ := Word.exists_toInt_eq hnonneg (by omega)
  have hadd := add_of_taken hc (mt (refused_iff hpos).mp (not_not_intro hg))
  rw [(sum?_eq_some_iff hpos hg.1).mpr ⟨htotal, hcap⟩] at hadd
  rw [← htotal]
  exact hm.stores_of_put hc (by omega) hadd

theorem stores_consume (hg : 0 ≤ g.toInt) (hle : g.toInt ≤ c.toInt) :
    m.Stores (m.consume g) s (c.toInt - g.toInt) := by
  have hword := Word.toInt_sub hg hle
  rw [← hword]
  exact hm.stores_of_put hc (by omega) (consume_of_le hc hg hle)

theorem runsDry_consume (h : ¬ (0 ≤ g.toInt ∧ g.toInt ≤ c.toInt)) : m.RunsDry (m.consume g) s c := by
  rcases Int.lt_or_le c.toInt 0 with hneg | hnonneg
  · exact ⟨s, c, consume_of_neg hc hneg, hc, by omega⟩
  · obtain ⟨s', hs, hc'⟩ := hm.store exhausted hc (by decide)
    have hmark : exhausted.toInt = -1 := by decide
    exact ⟨s', exhausted, consume_of_lt hc hnonneg (by omega) hs, hc', by omega⟩

/-- **Every operation agrees with the integers**, whatever the counter shows and whatever the amount. -/
theorem agrees (g : Int64) : m.Agrees s c g where
  fund := hm.stores_fund hc
  fund_over hover := fund_of_refused ((refused_iff hm.multiplier_pos).mpr hover) s
  add := hm.stores_add hc
  add_over := add_of_over hm.multiplier_pos hc
  set hg hcap := hm.stores_of_put hc (by omega) (set_of_le hm.multiplier_pos hg hcap)
  set_neg hneg := hm.stores_of_put hc (by decide) (set_of_neg hneg s)
  set_over hover := by
    have hcap := capacity_nonneg hm.multiplier_pos
    exact set_of_lt hm.multiplier_pos (by omega) hover
  consume := hm.stores_consume hc
  consume_over := hm.runsDry_consume hc

end Reliable

/-! ## Runs -/

/-- The counter is parked, or holds an amount that the meter takes. -/
def Ranges (m : GasMeter σ) (s : σ) : Prop :=
  ∃ c, m.counter s = .ok c ∧ (c.toInt = -1 ∨ 0 ≤ c.toInt ∧ c.toInt ≤ m.capacity)

theorem Ranges.of_exhausted (h : m.counter s = .ok exhausted) : m.Ranges s :=
  ⟨exhausted, h, .inl (by decide)⟩

theorem Stores.ranges {x : GasM σ Unit} {amount : Int} (h : m.Stores x s amount)
    (hrange : amount = -1 ∨ 0 ≤ amount ∧ amount ≤ m.capacity) : m.Ranges (Act.finalState (x s)) := by
  obtain ⟨g, s', hg, -, hx, hc⟩ := h
  rw [hx]
  exact ⟨g, hc, hg ▸ hrange⟩

namespace Reliable

variable (hm : m.Reliable)

include hm

theorem ranges_consume (h : m.Ranges s) (g : Int64) : m.Ranges (Act.finalState (m.consume g s)) := by
  obtain ⟨c, hc, hrange⟩ := h
  by_cases hcovered : 0 ≤ g.toInt ∧ g.toInt ≤ c.toInt
  · exact (hm.stores_consume hc hcovered.1 hcovered.2).ranges (by omega)
  · obtain ⟨s', c', hend, hc', hmark⟩ := hm.runsDry_consume hc hcovered
    rw [hend]
    exact ⟨c', hc', .inl (by omega)⟩

theorem ranges_charge (h : m.Ranges s) (rule : GasRule) (payload : Int64) :
    m.Ranges (Act.finalState (rule.charge m payload s)) := by
  unfold GasRule.charge
  cases rule.cost? payload with
  | some cost => exact hm.ranges_consume h cost
  | none =>
    obtain ⟨c, hc, -⟩ := h
    obtain ⟨s', hs, hc'⟩ := hm.store exhausted hc (by decide)
    dsimp only
    rw [Act.bind_of_ok (put_of_ok hs)]
    exact .of_exhausted hc'

theorem ranges_fund (h : m.Ranges s) (g : Int64) : m.Ranges (Act.finalState (m.fund g s)) := by
  obtain ⟨c, hc, -⟩ := id h
  by_cases hg : m.Takes g
  · exact (hm.stores_fund hc hg).ranges (.inr (hg.worth hm.multiplier_pos))
  · rw [(hm.agrees hc g).fund_over hg]
    exact h

theorem ranges_add (h : m.Ranges s) (g : Int64) : m.Ranges (Act.finalState (m.add g s)) := by
  obtain ⟨c, hc, -⟩ := id h
  by_cases hg : m.Takes g ∧ m.sum c g ≤ m.capacity
  · have hworth := hg.1.worth hm.multiplier_pos
    refine (hm.stores_add hc hg.1 hg.2).ranges (.inr ⟨?_, hg.2⟩)
    unfold sum
    omega
  · rw [add_of_over hm.multiplier_pos hc hg]
    exact h

theorem ranges_set (h : m.Ranges s) (g : Int64) : m.Ranges (Act.finalState (m.set g s)) := by
  obtain ⟨c, hc, -⟩ := id h
  have hagrees := hm.agrees hc g
  rcases Int.lt_or_le g.toInt 0 with hneg | hg
  · exact (hagrees.set_neg hneg).ranges (.inl rfl)
  · rcases Int.lt_or_le m.capacity g.toInt with hover | hle
    · rw [hagrees.set_over hover]
      exact h
    · exact (hagrees.set hg hle).ranges (.inr ⟨hg, hle⟩)

end Reliable
end GasMeter

namespace GasOperation

variable {σ : Type}

/-- The state after a run of operations, whether they succeeded or not. -/
def after (m : GasMeter σ) (ops : List GasOperation) (s : σ) : σ :=
  ops.foldl (fun s op => Act.finalState (op.run m s)) s

/-- The operation does not go past the meter to the counter itself. -/
def Regular : GasOperation → Prop
  | store _ => False
  | _ => True

end GasOperation

namespace GasMeter

variable {σ : Type} {m : GasMeter σ} {s : σ}

namespace Reliable

variable (hm : m.Reliable)

include hm

theorem ranges_run (h : m.Ranges s) {op : GasOperation} (hop : op.Regular) :
    m.Ranges (Act.finalState (op.run m s)) := by
  have hquery : ∀ read : σ → Except GasError Int64,
      Act.finalState (GasM.query read s) = s := by
    intro read
    unfold GasM.query
    cases read s <;> rfl
  cases op with
  | fund g =>
    rw [GasOperation.run, Act.finalState_map]
    exact hm.ranges_fund h g
  | add g =>
    rw [GasOperation.run, Act.finalState_map]
    exact hm.ranges_add h g
  | set g =>
    rw [GasOperation.run, Act.finalState_map]
    exact hm.ranges_set h g
  | consume g =>
    rw [GasOperation.run, Act.finalState_map]
    exact hm.ranges_consume h g
  | store g => exact hop.elim
  | charge rule payload =>
    rw [GasOperation.run, Act.finalState_map]
    exact hm.ranges_charge h rule payload
  | remaining =>
    rw [GasOperation.run, Act.finalState_map, hquery]
    exact h
  | remainingOuter =>
    rw [GasOperation.run, Act.finalState_map, hquery]
    exact h

/-- No run leaves the amounts that the meter takes. -/
theorem ranges_after (h : m.Ranges s) {ops : List GasOperation} (hops : ∀ op ∈ ops, op.Regular) :
    m.Ranges (GasOperation.after m ops s) := by
  induction ops generalizing s with
  | nil => exact h
  | cons op ops ih =>
    obtain ⟨hop, hops⟩ := List.forall_mem_cons.mp hops
    exact ih (hm.ranges_run h hop) hops

end Reliable

/-- **A meter computes exactly and keeps its range.** On whatever counter and with whatever amount, each
operation stores what integers without bounds give or refuses, and no word on the way wraps. From an empty
counter no run of operations leaves the range. -/
theorem computes_exactly (hm : m.Reliable) :
    (∀ s c g, m.counter s = .ok c → m.Agrees s c g ∧ m.Unwrapped c g) ∧
    (∀ s ops, m.counter s = .ok 0 → (∀ op ∈ ops, GasOperation.Regular op) →
      m.Ranges (GasOperation.after m ops s)) := by
  constructor
  · intro s c g hc
    exact ⟨hm.agrees hc g, unwrapped hm.multiplier_pos c g⟩
  · intro s ops hzero hops
    have hempty : m.Ranges s := ⟨0, hzero, .inr ⟨by decide, capacity_nonneg hm.multiplier_pos⟩⟩
    exact hm.ranges_after hempty hops

/-- One more outer unit just fits, and then does not. -/
theorem computes_exactly_hundred :
    (plainMeter 100).Stores ((plainMeter 100).add 1) 9223372036854775700 9223372036854775800 ∧
    (plainMeter 100).add 1 9223372036854775701 =
      .error (.overflow 1 92233720368547758) 9223372036854775701 ∧
    (plainMeter 100).Ranges (GasOperation.after (plainMeter 100)
      [.fund 7, .charge (.perByte 10 3) 40, .consume 571, .add 2, .set (-4)] 0) := by
  obtain ⟨hsingle, hruns⟩ := computes_exactly (reliable_plainMeter (k := 100) (by decide))
  refine ⟨?_, ?_, ?_⟩
  · exact (hsingle _ 9223372036854775700 1 rfl).1.add ⟨by decide, by decide⟩ (by decide)
  · exact (hsingle _ 9223372036854775701 1 rfl).1.add_over fun h => absurd h.2 (by decide)
  · exact hruns 0 _ rfl (by simp [GasOperation.Regular])

end GasMeter
end AspectHost
