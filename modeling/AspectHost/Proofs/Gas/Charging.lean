import AspectHost.Proofs.Gas.Balance

/-! # Charges are exact

What a rule asks for a payload is an integer without bounds, its `price`. A charge takes exactly the price off
a counter that covers it; any other counter it exhausts, also where the price, or a product on the way to it,
is no word (`GasRule.charge_cases`). With parameters that are not negative, no counter is as high as a price
that is no word (`GasRule.max_lt_price`), so then it is the price alone that decides. -/

namespace AspectHost

namespace GasRule

variable {σ : Type} {r : GasRule} {m : GasMeter σ} {s : σ} {c k payload : Int64}

/-- The cost of a payload, over the integers. -/
def price : GasRule → Int64 → Int
  | fixed cost, _ => cost.toInt
  | perByte base rate, payload => payload.toInt * rate.toInt + base.toInt

/-- No parameter of the rule is negative. -/
def Nonneg : GasRule → Prop
  | fixed cost => 0 ≤ cost.toInt
  | perByte base rate => 0 ≤ base.toInt ∧ 0 ≤ rate.toInt

/-- A cost that fits a word is the price. -/
theorem toInt_of_cost? (h : r.cost? payload = some k) : k.toInt = r.price payload := by
  cases r with
  | fixed cost =>
    cases h
    rfl
  | perByte base rate =>
    obtain ⟨product, hproduct, hsum⟩ := Option.bind_eq_some_iff.mp h
    rw [price, Checked.add?_eq_some_iff.mp hsum, Checked.mul?_eq_some_iff.mp hproduct]

theorem price_nonneg (hr : r.Nonneg) (hpayload : 0 ≤ payload.toInt) : 0 ≤ r.price payload := by
  cases r with
  | fixed cost => exact hr
  | perByte base rate =>
    obtain ⟨hbase, hrate⟩ := hr
    exact Int.add_nonneg (Int.mul_nonneg hpayload hrate) hbase

/-- A price on which the checked arithmetic gives up is higher than any word. A negative base could bring it
back below, so the parameters matter here. -/
theorem max_lt_price (hr : r.Nonneg) (hpayload : 0 ≤ payload.toInt) (h : r.cost? payload = none) :
    Word.max < r.price payload := by
  cases r with
  | fixed cost => cases h
  | perByte base rate =>
    obtain ⟨hbase, hrate⟩ := hr
    have hnonneg : 0 ≤ payload.toInt * rate.toInt := Int.mul_nonneg hpayload hrate
    change Word.max < payload.toInt * rate.toInt + base.toInt
    cases hproduct : Checked.mul? payload rate with
    | none =>
      have hover := Checked.ofInt?_eq_none_iff.mp hproduct
      omega
    | some product =>
      have hexact := Checked.mul?_eq_some_iff.mp hproduct
      have hsum : Checked.add? product base = none := by
        simpa only [cost?, hproduct, bind, Option.bind] using h
      have hover := Checked.ofInt?_eq_none_iff.mp hsum
      omega

/-- What a charge does to a counter that is not negative: it stores what is left beside the price, or it
exhausts the meter. -/
theorem charge_cases (r : GasRule) (payload : Int64) (hc : m.counter s = .ok c) (hnonneg : 0 ≤ c.toInt) :
    (∃ g, 0 ≤ r.price payload ∧ r.price payload ≤ c.toInt ∧ g.toInt = c.toInt - r.price payload ∧
      r.charge m payload s = m.put g s) ∨
    r.charge m payload s = (do m.put GasMeter.exhausted; throw .outOfGas : GasM σ Unit) s := by
  unfold charge
  cases hk : r.cost? payload with
  | none => exact .inr rfl
  | some k =>
    have hprice := toInt_of_cost? hk
    obtain ⟨e, hfails, -⟩ | ⟨c', hc', hcases⟩ := m.consume_cases s k
    · cases hc.symm.trans hfails
    cases hc.symm.trans hc'
    obtain ⟨hneg, -⟩ | ⟨-, hend⟩ | ⟨hk0, hkc, hend⟩ := hcases
    · omega
    · exact .inr hend
    · rw [← hprice]
      exact .inl ⟨c - k, hk0, hkc, Word.toInt_sub hk0 hkc, hend⟩

/-- A price that the counter covers is taken off, if no parameter is negative. -/
theorem charge_of_covered (hr : r.Nonneg) (hpayload : 0 ≤ payload.toInt) (hc : m.counter s = .ok c)
    (hcovered : r.price payload ≤ c.toInt) :
    ∃ g, g.toInt = c.toInt - r.price payload ∧ r.charge m payload s = m.put g s := by
  have hnonneg := price_nonneg hr hpayload
  cases hk : r.cost? payload with
  | none =>
    have hover := max_lt_price hr hpayload hk
    have hmax := Word.toInt_le_max c
    omega
  | some k =>
    have hprice := toInt_of_cost? hk
    rw [← hprice] at hcovered hnonneg ⊢
    exact ⟨c - k, Word.toInt_sub hnonneg hcovered, charge_of_le hk hc hnonneg hcovered⟩

end GasRule

namespace GasMeter.Reliable

variable {σ : Type} {r : GasRule} {m : GasMeter σ} {s : σ} {c payload : Int64} (hm : m.Reliable)

include hm

/-- A charge that exhausts the meter parks the counter. -/
theorem runsDry_of_exhausting (hc : m.counter s = .ok c) (hnonneg : 0 ≤ c.toInt) {x : GasM σ Unit}
    (hx : x s = (do m.put exhausted; throw .outOfGas : GasM σ Unit) s) : m.RunsDry x s c := by
  obtain ⟨s', hs, hc'⟩ := hm.store exhausted hc (by decide)
  have hmark : exhausted.toInt = -1 := by decide
  exact ⟨s', exhausted, hx.trans (Act.bind_of_ok (put_of_ok hs) _), hc', by omega⟩

/-- A charge that stores an amount does not run out of gas. -/
theorem charge_ne_outOfGas (hr : r.Nonneg) (hpayload : 0 ≤ payload.toInt) (hc : m.counter s = .ok c)
    (hcovered : r.price payload ≤ c.toInt) (s' : σ) : r.charge m payload s ≠ .error .outOfGas s' := by
  obtain ⟨g, hg, hend⟩ := GasRule.charge_of_covered hr hpayload hc hcovered
  obtain ⟨g', s'', -, -, hok, -⟩ := hm.stores_of_put hc (by omega) hend
  rw [hok]
  nofun

/-- On an exhausted meter every charge runs out of gas, and the meter stays exhausted. -/
theorem charge_of_spent (h : m.Spent s) (r : GasRule) (payload : Int64) :
    ∃ s', r.charge m payload s = .error .outOfGas s' ∧ m.Spent s' := by
  obtain ⟨c, hc, hneg⟩ := id h
  unfold GasRule.charge
  cases r.cost? payload with
  | some k => exact ⟨s, consume_of_neg hc hneg, h⟩
  | none =>
    obtain ⟨s', hs, hc'⟩ := hm.store exhausted hc (by decide)
    exact ⟨s', Act.bind_of_ok (put_of_ok hs) _, .of_exhausted hc'⟩

end GasMeter.Reliable

namespace GasRule

variable {σ : Type} {m : GasMeter σ} {s : σ} {c payload : Int64}

/-- **A charge is exact, or exhausts the meter.** Whatever the meter, a charge makes a single store: of
what the price leaves on a counter that covers it, or of the mark of an exhausted meter. On a reliable
meter the first succeeds and the second runs out of gas. Where no parameter is negative, gas runs out
exactly if the price is higher than the counter, whether it is a word or not. An exhausted meter stays
exhausted. -/
theorem charge_exact (r : GasRule) (hpayload : 0 ≤ payload.toInt) (hc : m.counter s = .ok c) :
    (0 ≤ c.toInt →
      (∃ g, 0 ≤ r.price payload ∧ r.price payload ≤ c.toInt ∧ g.toInt = c.toInt - r.price payload ∧
        r.charge m payload s = m.put g s) ∨
      r.charge m payload s = (do m.put GasMeter.exhausted; throw .outOfGas : GasM σ Unit) s) ∧
    (m.Reliable →
      (0 ≤ c.toInt →
        (0 ≤ r.price payload ∧ r.price payload ≤ c.toInt ∧
          m.Stores (r.charge m payload) s (c.toInt - r.price payload)) ∨
        m.RunsDry (r.charge m payload) s c) ∧
      (0 ≤ c.toInt → r.Nonneg →
        ((∃ s', r.charge m payload s = .error .outOfGas s') ↔ c.toInt < r.price payload)) ∧
      (c.toInt < 0 → ∃ s', r.charge m payload s = .error .outOfGas s' ∧ m.Spent s')) := by
  refine ⟨charge_cases r payload hc, fun hm => ⟨?exact, ?decided, ?spent⟩⟩
  case exact =>
    intro hnonneg
    obtain ⟨g, hprice, hcovered, hg, hend⟩ | hend := charge_cases r payload hc hnonneg
    · rw [← hg]
      exact .inl ⟨hprice, hcovered, hm.stores_of_put hc (by omega) hend⟩
    · exact .inr (hm.runsDry_of_exhausting hc hnonneg hend)
  case decided =>
    intro hnonneg hr
    constructor
    · rintro ⟨s', hend⟩
      by_contra hover
      exact hm.charge_ne_outOfGas hr hpayload hc (Int.not_lt.mp hover) s' hend
    · intro hover
      obtain ⟨g, -, hcovered, -⟩ | hend := charge_cases r payload hc hnonneg
      · omega
      · obtain ⟨s', c', hdry, -⟩ := hm.runsDry_of_exhausting hc hnonneg hend
        exact ⟨s', hdry⟩
  case spent =>
    intro hneg
    exact hm.charge_of_spent ⟨c, hc, hneg⟩ r payload

/-- A price that is covered, one that is no word, and an exhausted meter. -/
theorem charge_exact_hundred :
    (plainMeter 100).Stores ((perByte 10 3).charge (plainMeter 100) 40) 1000 870 ∧
    (∃ s', (perByte 1 Int64.maxValue).charge (plainMeter 100) 2 Int64.maxValue = .error .outOfGas s') ∧
    ∃ s', (fixed 0).charge (plainMeter 100) 40 (-7) = .error .outOfGas s' ∧ (plainMeter 100).Spent s' := by
  have hm : (plainMeter 100).Reliable := GasMeter.reliable_plainMeter (by decide)
  refine ⟨?covered, ?unfit, ?spent⟩
  case covered =>
    obtain ⟨-, hexact⟩ := charge_exact (m := plainMeter 100) (s := 1000) (perByte 10 3)
      (show 0 ≤ (40 : Int64).toInt by decide) rfl
    obtain ⟨-, -, hstores⟩ | ⟨s', -, hdry, -⟩ := (hexact hm).1 (by decide)
    · exact hstores
    · have hover := ((hexact hm).2.1 (by decide) ⟨by decide, by decide⟩).mp ⟨s', hdry⟩
      exact absurd hover (by decide)
  case unfit =>
    obtain ⟨-, hexact⟩ := charge_exact (m := plainMeter 100) (s := Int64.maxValue)
      (perByte 1 Int64.maxValue) (show 0 ≤ (2 : Int64).toInt by decide) rfl
    exact ((hexact hm).2.1 (by decide) ⟨by decide, by decide⟩).mpr (by decide)
  case spent =>
    obtain ⟨-, hexact⟩ := charge_exact (m := plainMeter 100) (s := -7) (fixed 0)
      (show 0 ≤ (40 : Int64).toInt by decide) rfl
    exact (hexact hm).2.2 (by decide)

-- A negative base brings the price back below the counter, but the product was no word.
example : (perByte Int64.minValue Int64.maxValue).price 2 < Int64.maxValue.toInt ∧
    (perByte Int64.minValue Int64.maxValue).charge (plainMeter 100) 2 Int64.maxValue =
      .error .outOfGas (-1) := ⟨by decide, rfl⟩

end GasRule
end AspectHost
