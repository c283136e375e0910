import AspectHost.Proofs.Gas.Exact
import AspectHost.Proofs.Host.Solvency

/-! # The balance of a meter

While charges are covered, the counter is what was put in less what was burnt (`Booked.balance`). The first
charge that is not covered exhausts the meter, and it stays exhausted whatever is done, until something is put
in again (`Reliable.spent_after`). -/

namespace AspectHost

namespace GasOperation

/-- Adds or burns an amount that is not negative. -/
def Spending : GasOperation → Prop
  | add g => 0 ≤ g.toInt
  | consume g => 0 ≤ g.toInt
  | _ => False

/-- Puts something on the counter, if it succeeds. -/
def Refills : GasOperation → Prop
  | fund _ => True
  | add _ => True
  | store _ => True
  | set g => 0 ≤ g.toInt
  | _ => False

/-- No operation of the run that would refill the meter succeeds. -/
def Unfilled {σ : Type} (m : GasMeter σ) : List GasOperation → σ → Prop
  | [], _ => True
  | op :: ops, s =>
    (op.Refills → ∀ a s', op.run m s ≠ .ok a s') ∧ Unfilled m ops (Act.finalState (op.run m s))

end GasOperation

namespace GasMeter

variable {σ : Type} {m : GasMeter σ} {s s' : σ} {c g : Int64} {u : Unit}

/-- A run of charges that are all covered and of additions, with the outer units that were added and the
guest units that were burnt. An addition that is refused counts for nothing. -/
inductive Booked (m : GasMeter σ) : σ → List GasOperation → (added burnt : Int) → σ → Prop
  | nil (s : σ) : Booked m s [] 0 0 s
  | add {g : Int64} {s s₁ s' : σ} {ops : List GasOperation} {added burnt : Int}
    (taken : m.add g s = .ok () s₁) (rest : Booked m s₁ ops added burnt s') :
    Booked m s (.add g :: ops) (g.toInt + added) burnt s'
  | refused {g : Int64} {e : GasError} {s s₁ s' : σ} {ops : List GasOperation} {added burnt : Int}
    (refused : m.add g s = .error e s₁) (rest : Booked m s₁ ops added burnt s') :
    Booked m s (.add g :: ops) added burnt s'
  | consume {g : Int64} {s s₁ s' : σ} {ops : List GasOperation} {added burnt : Int}
    (covered : m.consume g s = .ok () s₁) (rest : Booked m s₁ ops added burnt s') :
    Booked m s (.consume g :: ops) added (g.toInt + burnt) s'

/-! ## What an operation that succeeded has stored -/

theorem Stores.shows {x : GasM σ Unit} {amount : Int} (h : m.Stores x s amount) (hx : x s = .ok u s') :
    ∃ c', m.counter s' = .ok c' ∧ c'.toInt = amount := by
  obtain ⟨g, s₁, hg, -, hx₁, hc⟩ := h
  cases hx.symm.trans hx₁
  exact ⟨g, hc, hg⟩

namespace Reliable

variable (hm : m.Reliable) (hc : m.counter s = .ok c)

include hm hc

theorem fund_eq_ok (h : m.fund g s = .ok u s') :
    m.Takes g ∧ ∃ c', m.counter s' = .ok c' ∧ c'.toInt = g.toInt * m.multiplier.toInt := by
  by_cases hg : m.Takes g
  · exact ⟨hg, (hm.stores_fund hc hg).shows h⟩
  · rw [(hm.agrees hc g).fund_over hg] at h
    cases h

theorem add_eq_ok (h : m.add g s = .ok u s') :
    m.Takes g ∧ ∃ c', m.counter s' = .ok c' ∧ c'.toInt = m.sum c g := by
  by_cases hg : m.Takes g ∧ m.sum c g ≤ m.capacity
  · exact ⟨hg.1, (hm.stores_add hc hg.1 hg.2).shows h⟩
  · rw [add_of_over hm.multiplier_pos hc hg] at h
    cases h

theorem set_eq_ok (hg : 0 ≤ g.toInt) (h : m.set g s = .ok u s') : m.counter s' = .ok g := by
  rcases Int.lt_or_le m.capacity g.toInt with hover | hle
  · rw [(hm.agrees hc g).set_over hover] at h
    cases h
  · obtain ⟨c', hc', hcg⟩ := ((hm.agrees hc g).set hg hle).shows h
    rwa [Int64.toInt_inj.mp hcg] at hc'

theorem consume_eq_ok (h : m.consume g s = .ok u s') :
    0 ≤ g.toInt ∧ g.toInt ≤ c.toInt ∧
      ∃ c', m.counter s' = .ok c' ∧ c'.toInt = c.toInt - g.toInt := by
  by_cases hcovered : 0 ≤ g.toInt ∧ g.toInt ≤ c.toInt
  · exact ⟨hcovered.1, hcovered.2, (hm.stores_consume hc hcovered.1 hcovered.2).shows h⟩
  · obtain ⟨s₁, -, hend, -⟩ := hm.runsDry_consume hc hcovered
    cases h.symm.trans hend

end Reliable

theorem add_eq_error {e : GasError} (h : m.add g s = .error e s') : s' = s := by
  by_cases hrefused : g < 0 ∨ m.maxOuter < g
  · rw [add_of_refused hrefused] at h
    cases h
    rfl
  · cases hc : m.counter s with
    | error e' =>
      have hread : m.read s = .error e' s := by simp only [read, GasM.query, hc]
      unfold add at h
      simp only [if_neg hrefused] at h
      rw [Act.bind_of_error hread] at h
      cases h
      rfl
    | ok c =>
      rw [add_of_taken hc hrefused] at h
      cases hsum : m.sum? c g with
      | none =>
        rw [hsum] at h
        cases h
        rfl
      | some total =>
        rw [hsum] at h
        exact (put_eq_error h).2

/-! ## Solvent runs -/

/-- What is on the counter after a run of covered charges. -/
theorem Booked.balance (hm : m.Reliable) {ops : List GasOperation} {added burnt : Int}
    (h : m.Booked s ops added burnt s') (hc : m.counter s = .ok c) (hnonneg : 0 ≤ c.toInt) :
    ∃ c', m.counter s' = .ok c' ∧ 0 ≤ c'.toInt ∧
      c'.toInt = c.toInt + m.multiplier.toInt * added - burnt := by
  induction h generalizing c with
  | nil s => exact ⟨c, hc, hnonneg, by simp⟩
  | @add g s s₁ s' ops added burnt taken rest ih =>
    obtain ⟨hg, c₁, hc₁, hsum⟩ := hm.add_eq_ok hc taken
    have hworth := hg.worth hm.multiplier_pos
    rw [sum] at hsum
    obtain ⟨c', hc', hnonneg', hbalance⟩ := ih hc₁ (by omega)
    refine ⟨c', hc', hnonneg', ?_⟩
    rw [Int.mul_add, Int.mul_comm _ g.toInt]
    omega
  | refused refused rest ih =>
    cases add_eq_error refused
    exact ih hc hnonneg
  | consume covered rest ih =>
    obtain ⟨hg, hle, c₁, hc₁, hleft⟩ := hm.consume_eq_ok hc covered
    obtain ⟨c', hc', hnonneg', hbalance⟩ := ih hc₁ (by omega)
    exact ⟨c', hc', hnonneg', by omega⟩

/-- The run is booked to its end, or up to the first charge over what is left. -/
inductive Course (m : GasMeter σ) (s : σ) (ops : List GasOperation) : Prop
  | booked {added burnt : Int} {s' : σ} (books : m.Booked s ops added burnt s')
  | overdrawn {before rest : List GasOperation} {g c₁ : Int64} {added burnt : Int} {s₁ : σ}
    (split : ops = before ++ .consume g :: rest) (books : m.Booked s before added burnt s₁)
    (shown : m.counter s₁ = .ok c₁) (uncovered : c₁.toInt < g.toInt)

/-- A step that is booked before whatever follows. -/
theorem Course.cons {op : GasOperation} {s₁ : σ} {ops : List GasOperation} (h : m.Course s₁ ops)
    (hstep : ∀ {ops added burnt s'}, m.Booked s₁ ops added burnt s' →
      ∃ added' burnt', m.Booked s (op :: ops) added' burnt' s') : m.Course s (op :: ops) := by
  cases h with
  | booked books =>
    obtain ⟨added', burnt', books'⟩ := hstep books
    exact .booked books'
  | overdrawn split books shown uncovered =>
    obtain ⟨added', burnt', books'⟩ := hstep books
    exact .overdrawn (congrArg (op :: ·) split) books' shown uncovered

theorem Reliable.course (hm : m.Reliable) {ops : List GasOperation}
    (hops : ∀ op ∈ ops, GasOperation.Spending op) (hc : m.counter s = .ok c) (hnonneg : 0 ≤ c.toInt) :
    m.Course s ops := by
  induction ops generalizing s c with
  | nil => exact .booked (.nil s)
  | cons op ops ih =>
    rw [List.forall_mem_cons] at hops
    obtain ⟨hop, hops⟩ := hops
    cases op with
    | add g =>
      cases hadd : m.add g s with
      | ok u s₁ =>
        obtain ⟨hg, c₁, hc₁, hsum⟩ := hm.add_eq_ok hc hadd
        have hworth := hg.worth hm.multiplier_pos
        rw [sum] at hsum
        exact (ih hops hc₁ (by omega)).cons fun books => ⟨_, _, .add hadd books⟩
      | error e s₁ =>
        cases add_eq_error hadd
        exact (ih hops hc hnonneg).cons fun books => ⟨_, _, .refused hadd books⟩
    | consume g =>
      rcases Int.lt_or_le c.toInt g.toInt with hover | hle
      · exact .overdrawn rfl (.nil s) hc hover
      · obtain ⟨g₁, s₁, hg₁, -, hend, hc₁⟩ := hm.stores_consume hc hop hle
        exact (ih hops hc₁ (by omega)).cons fun books => ⟨_, _, .consume hend books⟩
    | fund _ | set _ | store _ | charge _ _ | remaining | remainingOuter => exact hop.elim

/-! ## Exhausted meters -/

/-- An operation that fails without a trace leaves the state, and that it has an answer does not matter. -/
theorem finalState_of_failed {x : GasM σ Unit} (hkeeps : ∀ e s', x s = .error e s' → s' = s)
    (hfails : ∀ a s', ((fun _ => none) <$> x : GasM σ (Option Int64)) s ≠ .ok a s') :
    Act.finalState (((fun _ => none) <$> x : GasM σ (Option Int64)) s) = s := by
  rw [Act.finalState_map]
  cases hx : x s with
  | ok u s' =>
    refine absurd ?_ (hfails none s')
    simp only [Functor.map, EStateM.map, hx]
  | error e s' => exact hkeeps e s' hx

namespace Reliable

variable (hm : m.Reliable)

include hm

theorem spent_charge (h : m.Spent s) (rule : GasRule) (payload : Int64) :
    m.Spent (Act.finalState (rule.charge m payload s)) := by
  obtain ⟨c, hc, hneg⟩ := id h
  unfold GasRule.charge
  cases rule.cost? payload with
  | some cost =>
    dsimp only
    rw [consume_of_neg hc hneg]
    exact h
  | none =>
    obtain ⟨s', hs, hc'⟩ := hm.store exhausted hc (by decide)
    dsimp only
    rw [Act.bind_of_ok (put_of_ok hs)]
    exact .of_exhausted hc'

/-- An exhausted meter stays exhausted, unless the operation refills it. -/
theorem spent_run (h : m.Spent s) {op : GasOperation}
    (hfails : op.Refills → ∀ a s', op.run m s ≠ .ok a s') :
    m.Spent (Act.finalState (op.run m s)) := by
  obtain ⟨c, hc, hneg⟩ := id h
  cases op with
  | fund g =>
    rw [GasOperation.run, finalState_of_failed (fun _ _ => fund_eq_error) (hfails trivial)]
    exact h
  | add g =>
    rw [GasOperation.run, finalState_of_failed (fun _ _ => add_eq_error) (hfails trivial)]
    exact h
  | set g =>
    rcases Int.lt_or_le g.toInt 0 with hlow | hg
    · obtain ⟨g', s', hg', -, hend, hc'⟩ := (hm.agrees hc g).set_neg hlow
      rw [GasOperation.run, Act.finalState_map, hend]
      exact ⟨g', hc', by omega⟩
    · rw [GasOperation.run, finalState_of_failed (fun _ _ => set_eq_error) (hfails hg)]
      exact h
  | consume g =>
    rw [GasOperation.run, Act.finalState_map, consume_of_neg hc hneg]
    exact h
  | store g =>
    rw [GasOperation.run, finalState_of_failed (fun _ _ h => (put_eq_error h).2) (hfails trivial)]
    exact h
  | charge rule payload =>
    rw [GasOperation.run, Act.finalState_map]
    exact hm.spent_charge h rule payload
  | remaining =>
    rw [GasOperation.run, Act.finalState_map, GasM.query, h.remaining]
    exact h
  | remainingOuter =>
    rw [GasOperation.run, Act.finalState_map, GasM.query, h.remainingOuter]
    exact h

theorem spent_after (h : m.Spent s) {ops : List GasOperation} (hops : GasOperation.Unfilled m ops s) :
    m.Spent (GasOperation.after m ops s) := by
  induction ops generalizing s with
  | nil => exact h
  | cons op ops ih => exact ih (hm.spent_run h hops.1) hops.2

end Reliable

theorem remainingOuter_eq_ok_iff (hpos : 0 < m.multiplier.toInt) {outer : Int64} :
    m.remainingOuter s = .ok outer ↔
      ∃ c, m.remaining s = .ok c ∧ outer.toInt = c.toInt / m.multiplier.toInt := by
  constructor
  · intro h
    obtain ⟨c, hc, hnonneg, rfl⟩ := remainingOuter_eq_ok h
    exact ⟨c, remaining_of_nonneg hc hnonneg, Word.toInt_div hnonneg hpos⟩
  · rintro ⟨c, hc, houter⟩
    have hquotient := Word.toInt_div (remaining_eq_ok hc).2 hpos
    have hequal : outer = c / m.multiplier := Int64.toInt_inj.mp (houter.trans hquotient.symm)
    rw [hequal]
    unfold remainingOuter
    rw [hc]
    rfl

/-- The amount is what is left. -/
def Holds (m : GasMeter σ) (s : σ) (amount : Int) : Prop :=
  ∃ left, m.remaining s = .ok left ∧ left.toInt = amount

theorem Holds.of_counter (hc : m.counter s = .ok c) (hnonneg : 0 ≤ c.toInt) : m.Holds s c.toInt :=
  ⟨c, remaining_of_nonneg hc hnonneg, rfl⟩

/-- Nothing can be burnt, not even nothing, and nothing is left to be read. -/
structure Dry (m : GasMeter σ) (s : σ) : Prop where
  consume : ∀ g, m.consume g s = .error .outOfGas s
  remaining : m.remaining s = .error .outOfGas
  remainingOuter : m.remainingOuter s = .error .outOfGas

theorem Spent.dry (h : m.Spent s) : m.Dry s where
  consume g := by
    obtain ⟨c, hc, hneg⟩ := h
    exact consume_of_neg hc hneg
  remaining := h.remaining
  remainingOuter := h.remainingOuter

/-- What is put on a meter in the place of what it held. -/
structure Refilled (m : GasMeter σ) (s : σ) (g : Int64) (s' : σ) : Prop where
  add : m.add g s = .ok () s' → m.Holds s' (m.multiplier.toInt * g.toInt)
  fund : m.fund g s = .ok () s' → m.Holds s' (m.multiplier.toInt * g.toInt)
  set : 0 ≤ g.toInt → m.set g s = .ok () s' → m.Holds s' g.toInt

/-- On an exhausted meter an addition starts from zero. -/
theorem Reliable.refilled (hm : m.Reliable) (h : m.Spent s) (g : Int64) (s' : σ) :
    m.Refilled s g s' := by
  obtain ⟨c, hc, hneg⟩ := h
  constructor
  · intro hadd
    obtain ⟨hg, c', hc', hsum⟩ := hm.add_eq_ok hc hadd
    have hworth := hg.worth hm.multiplier_pos
    have hzero : c'.toInt = m.multiplier.toInt * g.toInt := by
      rw [hsum, sum, Int.mul_comm _ g.toInt]
      omega
    rw [← hzero]
    exact .of_counter hc' (by rw [hzero, Int.mul_comm]; exact hworth.1)
  · intro hfund
    obtain ⟨hg, c', hc', hfunds⟩ := hm.fund_eq_ok hc hfund
    have hworth := hg.worth hm.multiplier_pos
    rw [Int.mul_comm, ← hfunds]
    exact .of_counter hc' (by omega)
  · intro hg hset
    exact .of_counter (hm.set_eq_ok hc hg hset) hg

/-- **The balance of a funded meter.** While all charges are covered, what is left is what was put in less
what was burnt. Any run of charges and additions is such a run, at least up to the first charge over what is
left; that charge runs out of gas. From then on every charge does, and every reading, until something is put
in again, and that is then all there is. Readings in outer units are those in guest units, divided. -/
theorem balances (hm : m.Reliable) {start : σ} (hc : m.counter start = .ok c) {funds : Int64}
    (hfunds : m.fund funds start = .ok () s) :
    (∀ ops added burnt s', m.Booked s ops added burnt s' →
      m.Holds s' (m.multiplier.toInt * (funds.toInt + added) - burnt)) ∧
    (∀ ops, (∀ op ∈ ops, GasOperation.Spending op) →
      (∃ added burnt s', m.Booked s ops added burnt s') ∨
      ∃ before g rest added burnt s₁ s₂, ops = before ++ .consume g :: rest ∧
        m.Booked s before added burnt s₁ ∧
        m.multiplier.toInt * (funds.toInt + added) - burnt < g.toInt ∧
        m.consume g s₁ = .error .outOfGas s₂ ∧ m.Spent s₂) ∧
    (∀ s₁ ops, m.Spent s₁ → GasOperation.Unfilled m ops s₁ →
      m.Spent (GasOperation.after m ops s₁) ∧ m.Dry (GasOperation.after m ops s₁)) ∧
    (∀ s₁ g s₂, m.Spent s₁ → m.Refilled s₁ g s₂) ∧
    (∀ s₁ outer, m.remainingOuter s₁ = .ok outer ↔
      ∃ left, m.remaining s₁ = .ok left ∧ outer.toInt = left.toInt / m.multiplier.toInt) := by
  obtain ⟨htakes, c₀, hc₀, hfunded⟩ := hm.fund_eq_ok hc hfunds
  have hworth := htakes.worth hm.multiplier_pos
  have hbalance : ∀ {ops added burnt s'}, m.Booked s ops added burnt s' →
      ∃ left, m.counter s' = .ok left ∧ 0 ≤ left.toInt ∧
        left.toInt = m.multiplier.toInt * (funds.toInt + added) - burnt := by
    intro ops added burnt s' h
    obtain ⟨left, hleft, hnonneg, hexact⟩ := h.balance hm hc₀ (by omega)
    refine ⟨left, hleft, hnonneg, ?_⟩
    rw [Int.mul_add, Int.mul_comm _ funds.toInt]
    omega
  refine ⟨?_, ?_, ?_, fun s₁ g s₂ h => hm.refilled h g s₂,
    fun s₁ outer => remainingOuter_eq_ok_iff hm.multiplier_pos⟩
  · intro ops added burnt s' h
    obtain ⟨left, hleft, hnonneg, hexact⟩ := hbalance h
    exact hexact ▸ .of_counter hleft hnonneg
  · intro ops hops
    cases hm.course hops hc₀ (by omega) with
    | booked books => exact .inl ⟨_, _, _, books⟩
    | @overdrawn before rest g c₁ added burnt s₁ split books shown uncovered =>
      obtain ⟨left, hleft, hnonneg, hexact⟩ := hbalance books
      cases shown.symm.trans hleft
      obtain ⟨s₂, c₂, hend, hc₂, hparked⟩ := hm.runsDry_consume (g := g) shown (by omega)
      exact .inr ⟨before, g, rest, added, burnt, s₁, s₂, split, books, by omega, hend, c₂, hc₂, by omega⟩
  · intro s₁ ops hspent hops
    have hafter := hm.spent_after hspent hops
    exact ⟨hafter, hafter.dry⟩

/-- Ten outer units, seven hundred guest units burnt and five outer units more; and, after one charge too
many, one addition that is refused and one that is not. -/
theorem balances_hundred :
    (∃ added burnt, (plainMeter 100).Booked 1000 [.consume 700, .add 5] added burnt 800 ∧
      (plainMeter 100).Holds 800 (100 * (10 + added) - burnt)) ∧
    (plainMeter 100).Dry (GasOperation.after (plainMeter 100) [.consume 0, .add (-1), .set (-3)] (-1)) ∧
    (plainMeter 100).add 2 (-1) = .ok () 200 ∧ (plainMeter 100).Holds 200 (100 * 2) := by
  have hm : (plainMeter 100).Reliable := reliable_plainMeter (by decide)
  have hempty : (plainMeter 100).counter 0 = .ok 0 := rfl
  have hfunds : (plainMeter 100).fund 10 0 = .ok () 1000 := rfl
  obtain ⟨hbooked, -, hdry, hrefilled, -⟩ := balances hm hempty hfunds
  have hbooks : (plainMeter 100).Booked 1000 [.consume 700, .add 5] _ _ 800 :=
    .consume rfl (.add rfl (.nil 800))
  have hspent : (plainMeter 100).Spent (-1) := ⟨-1, rfl, by decide⟩
  have hunfilled : GasOperation.Unfilled (plainMeter 100) [.consume 0, .add (-1), .set (-3)] (-1) := by
    refine ⟨nofun, ?_, ?_, trivial⟩
    · intro _ a s' h
      cases h
    · intro (h : 0 ≤ (-3 : Int64).toInt)
      exact absurd h (by decide)
  refine ⟨⟨_, _, hbooks, hbooked _ _ _ _ hbooks⟩, ?_, rfl, ?_⟩
  · exact (hdry (-1) _ hspent hunfilled).2
  · exact (hrefilled (-1) 2 200 hspent).add rfl

end GasMeter
end AspectHost
