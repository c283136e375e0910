import AspectHost.Proofs.Gas.Meter

/-! # Meters that run dry

A meter is sturdy if it shows what the host stored on it. Then charging it never lets it show more than
before, and whoever is told that gas ran out finds it exhausted. -/

namespace AspectHost.GasMeter

variable {σ : Type} {m : GasMeter σ} {s s' s'' : σ} {c g : Int64}

/-- The counter can be read, and is exhausted. -/
def Spent (m : GasMeter σ) (s : σ) : Prop := ∃ c, m.counter s = .ok c ∧ c.toInt < 0

theorem put_eq_error {e : GasError} (h : m.put g s = .error e s') : m.store g s = .error e ∧ s' = s := by
  unfold GasMeter.put at h
  cases hstore : m.store g s with
  | ok s'' =>
    rw [hstore] at h
    cases h
  | error e' =>
    rw [hstore] at h
    cases h
    exact ⟨rfl, rfl⟩

theorem fund_of_refused (h : g < 0 ∨ m.maxOuter < g) (s : σ) :
    m.fund g s = .error (.overflow g m.maxOuter) s := by
  unfold GasMeter.fund
  simp only [if_pos h]
  rfl

theorem fund_of_taken (h : ¬ (g < 0 ∨ m.maxOuter < g)) (s : σ) :
    m.fund g s = m.put (g * m.multiplier) s := by
  unfold GasMeter.fund
  simp only [if_neg h]

/-- A budget that is not taken leaves the meter alone. -/
theorem fund_eq_error {e : GasError} (h : m.fund g s = .error e s') : s' = s := by
  by_cases hrefused : g < 0 ∨ m.maxOuter < g
  · rw [fund_of_refused hrefused] at h
    cases h
    rfl
  · rw [fund_of_taken hrefused] at h
    exact (put_eq_error h).2

/-- The counter shows no more than before. An exhausted one shows nothing. -/
def Drops (m : GasMeter σ) (s s' : σ) : Prop :=
  ∀ c', m.counter s' = .ok c' → c'.toInt < 0 ∨ ∃ c, m.counter s = .ok c ∧ c'.toInt ≤ c.toInt

theorem Drops.refl (m : GasMeter σ) (s : σ) : m.Drops s s := fun c h => .inr ⟨c, h, Int.le_refl _⟩

theorem Drops.of_eq (h : m.counter s' = m.counter s) : m.Drops s s' :=
  fun c hc => .inr ⟨c, h ▸ hc, Int.le_refl _⟩

theorem Drops.trans (h : m.Drops s s') (h' : m.Drops s' s'') : m.Drops s s'' := by
  intro c'' hc''
  obtain hneg | ⟨c', hc', hle'⟩ := h' c'' hc''
  · exact .inl hneg
  · obtain hneg | ⟨c, hc, hle⟩ := h c' hc'
    · exact .inl (Int.lt_of_le_of_lt hle' hneg)
    · exact .inr ⟨c, hc, Int.le_trans hle' hle⟩

theorem Drops.of_le (hc : m.counter s = .ok c) (hg : m.counter s' = .ok g) (h : g.toInt ≤ c.toInt) :
    m.Drops s s' := by
  intro c' hc'
  cases hg.symm.trans hc'
  exact .inr ⟨c, hc, h⟩

theorem Drops.of_exhausted (hg : m.counter s' = .ok exhausted) : m.Drops s s' := by
  intro c' hc'
  cases hg.symm.trans hc'
  exact .inl (by decide)

theorem Spent.of_exhausted (hg : m.counter s' = .ok exhausted) : m.Spent s' :=
  ⟨exhausted, hg, by decide⟩

/-- What is left is what the counter shows, unless that is negative. -/
theorem remaining_eq_ok (h : m.remaining s = .ok c) : m.counter s = .ok c ∧ 0 ≤ c.toInt := by
  cases hc : m.counter s with
  | error e =>
    simp only [remaining, hc, bind, Except.bind] at h
    cases h
  | ok c' =>
    rcases Int.lt_or_le c'.toInt 0 with hneg | hnonneg
    · rw [remaining_of_neg hc hneg] at h
      cases h
    · rw [remaining_of_nonneg hc hnonneg] at h
      cases h
      exact ⟨rfl, hnonneg⟩

theorem remaining_eq_error {e : GasError} (h : m.remaining s = .error e) :
    m.counter s = .error e ∨ e = .outOfGas ∧ m.Spent s := by
  cases hc : m.counter s with
  | error e' =>
    simp only [remaining, hc, bind, Except.bind] at h
    cases h
    exact .inl rfl
  | ok c =>
    rcases Int.lt_or_le c.toInt 0 with hneg | hnonneg
    · rw [remaining_of_neg hc hneg] at h
      cases h
      exact .inr ⟨rfl, c, hc, hneg⟩
    · rw [remaining_of_nonneg hc hnonneg] at h
      cases h

theorem Spent.remaining (h : m.Spent s) : m.remaining s = .error .outOfGas := by
  obtain ⟨c, hc, hneg⟩ := h
  exact remaining_of_neg hc hneg

theorem Spent.remainingOuter (h : m.Spent s) : m.remainingOuter s = .error .outOfGas := by
  simp only [GasMeter.remainingOuter, h.remaining, bind, Except.bind]

/-- What is given back are the whole outer units of what is left. -/
theorem remainingOuter_eq_ok (h : m.remainingOuter s = .ok g) :
    ∃ c, m.counter s = .ok c ∧ 0 ≤ c.toInt ∧ g = c / m.multiplier := by
  unfold GasMeter.remainingOuter at h
  obtain ⟨c, hc, h⟩ := bind_eq_ok.mp h
  obtain ⟨hc, hnonneg⟩ := remaining_eq_ok hc
  cases h
  exact ⟨c, hc, hnonneg, rfl⟩

theorem remainingOuter_eq_error {e : GasError} (h : m.remainingOuter s = .error e) :
    m.remaining s = .error e := by
  unfold GasMeter.remainingOuter at h
  cases hr : m.remaining s with
  | error e' =>
    rw [hr] at h
    cases h
    rfl
  | ok c =>
    rw [hr] at h
    cases h

/-- What is given back is no amount that the meter would not take. -/
theorem remainingOuter_bounds (hpos : 0 < m.multiplier.toInt) (h : m.remainingOuter s = .ok g) :
    0 ≤ g.toInt ∧ g.toInt ≤ m.maxOuter.toInt := by
  obtain ⟨c, -, hnonneg, rfl⟩ := remainingOuter_eq_ok h
  rw [Word.toInt_div hnonneg hpos, toInt_maxOuter hpos]
  exact ⟨Int.ediv_nonneg hnonneg (Int.le_of_lt hpos),
    Int.ediv_le_ediv hpos (Word.toInt_le_max c)⟩

/-- A counter that shows no more than a budget gives back no more than that. -/
theorem Drops.remainingOuter_le (hdrops : m.Drops s s') (hpos : 0 < m.multiplier.toInt) {gas left : Int64}
    (hc : m.counter s = .ok c) (hgas : c.toInt = gas.toInt * m.multiplier.toInt)
    (h : m.remainingOuter s' = .ok left) : left.toInt ≤ gas.toInt := by
  obtain ⟨c', hc', hnonneg, rfl⟩ := remainingOuter_eq_ok h
  obtain hneg | ⟨c₀, hc₀, hle⟩ := hdrops c' hc'
  · omega
  · cases hc.symm.trans hc₀
    rw [Word.toInt_div hnonneg hpos]
    exact Int.ediv_le_of_le_mul hpos (hle.trans_eq hgas)

/-- In sound states the counter shows what was stored, and it never answers that gas ran out. -/
structure Sturdy (m : GasMeter σ) (sound : σ → Prop) : Prop where
  multiplier_pos : 0 < m.multiplier.toInt
  store : ∀ {g s s'}, sound s → -1 ≤ g.toInt → m.store g s = .ok s' →
    sound s' ∧ m.counter s' = .ok g
  store_ne : ∀ g s, m.store g s ≠ .error .outOfGas
  counter_ne : ∀ s, m.counter s ≠ .error .outOfGas

variable {sound : σ → Prop}

/-- How a gas operation fails: the counter shows no more than before, and nothing if gas ran out. -/
structure Fails (m : GasMeter σ) (sound : σ → Prop) (s : σ) (e : GasError) (s' : σ) : Prop where
  sound : sound s'
  drops : m.Drops s s'
  spent : e = .outOfGas → m.Spent s'

theorem Fails.same {e : GasError} (hs : sound s) (he : e ≠ .outOfGas) : m.Fails sound s e s :=
  ⟨hs, .refl m s, fun h => absurd h he⟩

namespace Sturdy

variable (hm : m.Sturdy sound) (hs : sound s)

include hm hs

theorem put (hg : -1 ≤ g.toInt) :
    Act.Ends (fun _ s' => sound s' ∧ m.counter s' = .ok g) (m.Fails sound s) (m.put g s) := by
  unfold GasMeter.put
  cases hstore : m.store g s with
  | ok s' => exact .ok (hm.store hs hg hstore)
  | error e => exact .error (.same hs fun he => hm.store_ne g s (he ▸ hstore))

/-- Parking the counter and saying so. -/
theorem exhaust {Q : Unit → σ → Prop} :
    Act.Ends Q (m.Fails sound s) ((do m.put exhausted; throw .outOfGas : GasM σ Unit) s) := by
  refine (hm.put hs (by decide)).bind ?_
  rintro u s' ⟨hs', hc'⟩
  exact .error ⟨hs', .of_exhausted hc', fun _ => .of_exhausted hc'⟩

theorem consume (g : Int64) :
    Act.Ends (fun _ s' => sound s' ∧ m.Drops s s') (m.Fails sound s) (m.consume g s) := by
  obtain ⟨e, hc, hend⟩ | ⟨c, hc, ⟨hneg, hend⟩ | ⟨-, hend⟩ | ⟨hg0, hgc, hend⟩⟩ := m.consume_cases s g <;>
    rw [hend]
  · exact .error (.same hs fun he => hm.counter_ne s (he ▸ hc))
  · exact .error ⟨hs, .refl m s, fun _ => ⟨c, hc, hneg⟩⟩
  · exact hm.exhaust hs
  · have hsub := Word.toInt_sub hg0 hgc
    refine (hm.put hs (by omega)).imp ?_ fun _ _ h => h
    rintro u s' ⟨hs', hc'⟩
    exact ⟨hs', .of_le hc hc' (by omega)⟩

theorem charge (r : GasRule) (payload : Int64) :
    Act.Ends (fun _ s' => sound s' ∧ m.Drops s s') (m.Fails sound s) (r.charge m payload s) := by
  unfold GasRule.charge
  cases r.cost? payload with
  | none => exact hm.exhaust hs
  | some k => exact hm.consume hs k

/-- Setting the counter stores what it is given, or refuses. -/
theorem set (hg : 0 ≤ g.toInt) :
    Act.Ends (fun _ s' => sound s' ∧ m.counter s' = .ok g) (m.Fails sound s) (m.set g s) := by
  rcases Int.lt_or_le m.capacity g.toInt with hover | hle
  · rw [set_of_lt hm.multiplier_pos hg hover]
    exact .error (.same hs nofun)
  · rw [set_of_le hm.multiplier_pos hg hle]
    exact hm.put hs (by omega)

/-- The counter shows the budget that was taken, and no budget is refused for lack of gas. -/
theorem fund (gas : Int64) :
    Act.Ends
      (fun _ s' => sound s' ∧ 0 ≤ gas.toInt ∧
        ∃ c, m.counter s' = .ok c ∧ c.toInt = gas.toInt * m.multiplier.toInt)
      (fun e _ => e ≠ .outOfGas) (m.fund gas s) := by
  have hpos := hm.multiplier_pos
  by_cases hrefused : gas < 0 ∨ m.maxOuter < gas
  · rw [fund_of_refused hrefused]
    exact .error nofun
  · have hgas : 0 ≤ gas.toInt ∧ gas.toInt ≤ Word.max / m.multiplier.toInt := by
      rw [Word.neg_iff, Int64.lt_iff_toInt_lt, toInt_maxOuter hpos] at hrefused
      omega
    have hnonneg : 0 ≤ gas.toInt * m.multiplier.toInt := Int.mul_nonneg hgas.1 (by omega)
    have hmul := Word.toInt_mul hnonneg (Int.mul_le_of_le_ediv hpos hgas.2)
    rw [fund_of_taken hrefused]
    unfold GasMeter.put
    cases hstore : m.store (gas * m.multiplier) s with
    | error e => exact .error fun he => hm.store_ne _ s (he ▸ hstore)
    | ok s' =>
      obtain ⟨hs', hc'⟩ := hm.store hs (by omega) hstore
      exact .ok ⟨hs', hgas.1, _, hc', hmul⟩

end Sturdy
end AspectHost.GasMeter
