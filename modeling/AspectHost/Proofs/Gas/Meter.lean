import AspectHost.Gas.Rule
import AspectHost.Proofs.Gas.Words
import AspectHost.Proofs.Outcome

/-! # What the operations of a meter store

Each operation either stores one amount, given here by integers, or refuses and leaves the counter as it
is. The amounts that a meter takes are those up to its `capacity`. -/

namespace AspectHost

namespace GasMeter

variable {σ : Type} {m : GasMeter σ} {s : σ} {c g : Int64}

/-- The guest units of the largest outer amount. -/
def capacity (m : GasMeter σ) : Int := Word.max / m.multiplier.toInt * m.multiplier.toInt

theorem multiplier_ne_zero (hm : 0 < m.multiplier.toInt) : m.multiplier ≠ 0 := by
  intro hzero
  rw [hzero] at hm
  exact absurd hm (by decide)

theorem toInt_maxOuter (hm : 0 < m.multiplier.toInt) :
    m.maxOuter.toInt = Word.max / m.multiplier.toInt :=
  Word.toInt_div (by decide) hm

theorem capacity_le_max (hm : 0 < m.multiplier.toInt) : m.capacity ≤ Word.max :=
  Int.ediv_mul_le _ (Int.ne_of_gt hm)

theorem toInt_capacity (hm : 0 < m.multiplier.toInt) :
    (m.maxOuter * m.multiplier).toInt = m.capacity := by
  have hq : 0 ≤ Word.max / m.multiplier.toInt := Int.ediv_nonneg (by decide) (Int.le_of_lt hm)
  have hle := capacity_le_max hm
  have hmul := toInt_maxOuter hm
  rw [Word.toInt_mul, hmul, capacity]
  · rw [hmul]
    exact Int.mul_nonneg hq (Int.le_of_lt hm)
  · rw [hmul]
    exact hle

theorem remaining_of_nonneg (hc : m.counter s = .ok c) (h : 0 ≤ c.toInt) :
    m.remaining s = .ok c := by
  have hn : ¬ c < 0 := by
    rw [Word.neg_iff]
    omega
  simp only [remaining, hc, bind, Except.bind, if_neg hn]
  rfl

theorem remaining_of_neg (hc : m.counter s = .ok c) (h : c.toInt < 0) :
    m.remaining s = .error .outOfGas := by
  simp only [remaining, hc, bind, Except.bind, if_pos (Word.neg_iff.mpr h)]
  rfl

theorem read_eq (hc : m.counter s = .ok c) : m.read s = .ok c s := by
  simp only [read, GasM.query, hc]

theorem put_of_ok {s' : σ} (h : m.store g s = .ok s') : m.put g s = .ok () s' := by
  simp only [put, h]

/-- What is covered is taken off. -/
theorem consume_of_le (hc : m.counter s = .ok c) (hg : 0 ≤ g.toInt) (h : g.toInt ≤ c.toInt) :
    m.consume g s = m.put (c - g) s := by
  have hcn : ¬ c < 0 := by rw [Word.neg_iff]; omega
  have hgn : ¬ (g < 0 ∨ c < g) := by rw [Word.neg_iff, Int64.lt_iff_toInt_lt]; omega
  refine (Act.bind_of_ok (read_eq hc) _).trans ?_
  simp only [if_neg hcn, if_neg hgn]

/-- What is not covered exhausts the meter. -/
theorem consume_of_lt {s' : σ} (hc : m.counter s = .ok c) (h0 : 0 ≤ c.toInt)
    (h : g.toInt < 0 ∨ c.toInt < g.toInt) (hs : m.store exhausted s = .ok s') :
    m.consume g s = .error .outOfGas s' := by
  have hcn : ¬ c < 0 := by rw [Word.neg_iff]; omega
  have hgn : g < 0 ∨ c < g := by rwa [Word.neg_iff, Int64.lt_iff_toInt_lt]
  refine (Act.bind_of_ok (read_eq hc) _).trans ?_
  simp only [if_neg hcn, if_pos hgn]
  exact Act.bind_of_ok (put_of_ok hs) _

theorem consume_of_neg (hc : m.counter s = .ok c) (h : c.toInt < 0) :
    m.consume g s = .error .outOfGas s := by
  refine (Act.bind_of_ok (read_eq hc) _).trans ?_
  simp only [if_pos (Word.neg_iff.mpr h)]
  rfl

/-- All that burning can do: it cannot read the counter, finds it exhausted, exhausts it, or takes the amount
off. -/
theorem consume_cases (m : GasMeter σ) (s : σ) (g : Int64) :
    (∃ e, m.counter s = .error e ∧ m.consume g s = .error e s) ∨
    ∃ c, m.counter s = .ok c ∧
      (c.toInt < 0 ∧ m.consume g s = .error .outOfGas s ∨
        0 ≤ c.toInt ∧ m.consume g s = (do m.put exhausted; throw .outOfGas : GasM σ Unit) s ∨
        0 ≤ g.toInt ∧ g.toInt ≤ c.toInt ∧ m.consume g s = m.put (c - g) s) := by
  cases hc : m.counter s with
  | error e =>
    have hread : m.read s = .error e s := by simp only [read, GasM.query, hc]
    exact .inl ⟨e, rfl, Act.bind_of_error hread _⟩
  | ok c =>
    refine .inr ⟨c, rfl, ?_⟩
    rcases Int.lt_or_le c.toInt 0 with hneg | hnonneg
    · exact .inl ⟨hneg, consume_of_neg hc hneg⟩
    · by_cases hg : g.toInt < 0 ∨ c.toInt < g.toInt
      · have hcn : ¬ c < 0 := by rw [Word.neg_iff]; omega
        have hgn : g < 0 ∨ c < g := by rwa [Word.neg_iff, Int64.lt_iff_toInt_lt]
        refine .inr (.inl ⟨hnonneg, (Act.bind_of_ok (read_eq hc) _).trans ?_⟩)
        simp only [if_neg hcn, if_pos hgn]
        rfl
      · have hg0 : 0 ≤ g.toInt := by omega
        have hgc : g.toInt ≤ c.toInt := by omega
        exact .inr (.inr ⟨hg0, hgc, consume_of_le hc hg0 hgc⟩)

theorem set_of_le (hm : 0 < m.multiplier.toInt) (h0 : 0 ≤ g.toInt) (h : g.toInt ≤ m.capacity) :
    m.set g s = m.put g s := by
  have hgn : ¬ g < 0 := by rw [Word.neg_iff]; omega
  have hcap : ¬ m.maxOuter * m.multiplier < g := by
    rw [Int64.lt_iff_toInt_lt, toInt_capacity hm]
    omega
  simp only [set, if_neg hgn, if_neg hcap]

theorem set_of_lt (hm : 0 < m.multiplier.toInt) (h0 : 0 ≤ g.toInt) (h : m.capacity < g.toInt) :
    m.set g s = .error (.overflow g (m.maxOuter * m.multiplier)) s := by
  have hgn : ¬ g < 0 := by rw [Word.neg_iff]; omega
  have hcap : m.maxOuter * m.multiplier < g := by
    rw [Int64.lt_iff_toInt_lt, toInt_capacity hm]
    omega
  simp only [set, if_neg hgn, if_pos hcap]
  rfl

theorem set_of_neg (h : g.toInt < 0) (s : σ) : m.set g s = m.put exhausted s := by
  unfold set
  simp only [if_pos (Word.neg_iff.mpr h)]

theorem set_exhausted : m.set exhausted s = m.put exhausted s := set_of_neg (by decide) s

end GasMeter

namespace GasRule

variable {σ : Type} {r : GasRule} {m : GasMeter σ} {s s' : σ} {c k payload : Int64}

/-- A cost that the counter covers is taken off. -/
theorem charge_of_le (hk : r.cost? payload = some k) (hc : m.counter s = .ok c)
    (h0 : 0 ≤ k.toInt) (h : k.toInt ≤ c.toInt) :
    r.charge m payload s = m.put (c - k) s := by
  simp only [charge, hk]
  exact GasMeter.consume_of_le hc h0 h

/-- A cost that is negative, not covered or no word exhausts the meter. -/
theorem charge_of_uncovered (hc : m.counter s = .ok c) (h0 : 0 ≤ c.toInt)
    (h : ∀ k, r.cost? payload = some k → k.toInt < 0 ∨ c.toInt < k.toInt)
    (hs : m.store GasMeter.exhausted s = .ok s') :
    r.charge m payload s = .error .outOfGas s' := by
  cases hk : r.cost? payload with
  | none =>
    simp only [charge, hk]
    exact Act.bind_of_ok (GasMeter.put_of_ok hs) _
  | some k =>
    simp only [charge, hk]
    exact GasMeter.consume_of_lt hc h0 (h k hk) hs

end GasRule
end AspectHost
