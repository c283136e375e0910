import AspectHost.Proofs.Pool.Exits
import AspectHost.Wasm.Interpreter

/-! # What came back first goes first

Checkouts take idle aspects away from anywhere in a pool, returns put them in front, and questions change
nothing. So the idle keys stand in the order in which something last came back under them, and the one at
the end, which has to go when there is no room, is the one whose last return is the oldest. -/

namespace AspectHost

/-- What can be asked of a pool. -/
inductive Visit where
  | checkout (code : Bytes) (apis : Registry) (refresh : Bool)
  /-- Any aspect can come back, under any key. -/
  | giveBack (key : String) (a : Aspect)
  | contains (key : String)
  | size

namespace Visit

/-- Whether something comes back under the key. -/
def brings (key : String) : Visit → Bool
  | giveBack k _ => k = key
  | _ => false

/-- Whether it is more than a question. -/
def moves : Visit → Bool
  | contains _ => false
  | size => false
  | _ => true

end Visit

/-- How many visits have passed since something last came back under the key; as many as there were if
nothing did. -/
def since (key : String) (visits : List Visit) : Nat := visits.reverse.findIdx (Visit.brings key)

theorem since_concat (key : String) (visits : List Visit) (v : Visit) :
    since key (visits ++ [v]) = bif v.brings key then 0 else since key visits + 1 := by
  rw [since, List.reverse_concat, List.findIdx_cons]
  rfl

namespace Pool

def keys (p : Pool) : List String := p.idle.keys

def visit [Wasm.Engine] (p : Pool) : Visit → Pool
  | .checkout code apis refresh => (p.checkout code apis refresh).pool
  | .giveBack key a => (p.giveBack key a).pool
  | .contains _ => p
  | .size => p

/-- A new pool after visits. -/
def after [Wasm.Engine] (capacity : Nat) (config : Config) (visits : List Visit) : Pool :=
  visits.foldl visit (new capacity config)

variable {p : Pool} {visits : List Visit} {capacity : Nat}

/-- The keys that are left when something comes back under a key and takes its place in front. -/
theorem keys_giveBack (p : Pool) (key : String) (a : Aspect) :
    ∃ ks, (p.giveBack key a).pool.keys = key :: ks ∧ ks.Sublist p.keys ∧
      (p.keys.Nodup → key ∉ ks) ∧ (1 ≤ p.capacity → p.keys.length ≤ p.capacity → ks.length < p.capacity) := by
  rw [giveBack_pool]
  exact Idle.keys_of_put p.capacity key a.release p.idle

theorem checkout_idle [Wasm.Engine] (h : p.keys.Nodup) (code : Bytes) (apis : Registry) (refresh : Bool) :
    (p.checkout code apis refresh).pool.idle = p.idle.filter (·.1 ≠ poolKey code) := by
  rw [checkout_pool]
  cases ht : Idle.take? (poolKey code) p.idle with
  | none => exact (Idle.filter_of_not_mem (Idle.take?_eq_none_iff.mp ht)).symm
  | some found => exact Idle.rest_of_take? ht h

/-- Where there is room, or something under its key to take the place of, what comes back drives out nothing
else. -/
theorem giveBack_idle (h : p.keys.Nodup) {key : String} (hstays : key ∈ p.keys ∨ p.size < p.capacity)
    (a : Aspect) :
    (p.giveBack key a).pool.idle = (key, a.release) :: p.idle.filter (·.1 ≠ key) := by
  rw [giveBack_pool]
  obtain ⟨old, rest, ht, hput⟩ | ⟨hkey, hroom, hput⟩ | ⟨hkey, hfull, hput⟩ :=
    Idle.put_cases p.capacity key a.release p.idle
  · rw [hput, Idle.rest_of_take? ht h]
  · rw [hput, Idle.filter_of_not_mem hkey]
  · rcases hstays with hmem | hlt
    · exact absurd hmem hkey
    · exact absurd hfull (Nat.not_le_of_lt hlt)

/-- After these visits the idle keys stand in the order of their last returns, the latest first, and there
is room for them. -/
structure Ranked (capacity : Nat) (visits : List Visit) (p : Pool) : Prop where
  order : p.keys.Pairwise fun k k' => since k visits < since k' visits
  returned : ∀ k ∈ p.keys, since k visits < visits.length
  capacity : p.capacity = max capacity 1
  room : p.keys.length ≤ p.capacity

namespace Ranked

theorem nodup (h : p.Ranked capacity visits) : p.keys.Nodup := by
  refine h.order.imp ?_
  rintro k _ hlt rfl
  exact Nat.lt_irrefl _ hlt

/-- Time passes alike for all keys but those under which something comes back. -/
theorem pass (h : p.Ranked capacity visits) {ks : List String} (hks : ks.Sublist p.keys) {v : Visit}
    (hv : ∀ k ∈ ks, v.brings k = false) :
    ks.Pairwise (fun k k' => since k (visits ++ [v]) < since k' (visits ++ [v])) ∧
      ∀ k ∈ ks, since k (visits ++ [v]) < (visits ++ [v]).length := by
  have hsince : ∀ k ∈ ks, since k (visits ++ [v]) = since k visits + 1 := by
    intro k hk
    rw [since_concat, hv k hk, cond_false]
  refine ⟨(h.order.sublist hks).imp_of_mem ?_, ?_⟩
  · intro k k' hk hk' hlt
    rw [hsince k hk, hsince k' hk']
    omega
  · intro k hk
    have := h.returned k (hks.subset hk)
    rw [hsince k hk, List.length_append, List.length_singleton]
    omega

theorem visit [Wasm.Engine] (h : p.Ranked capacity visits) (v : Visit) :
    (p.visit v).Ranked capacity (visits ++ [v]) := by
  have hstay : ∀ {v : Visit}, (∀ k ∈ p.keys, v.brings k = false) → p.Ranked capacity (visits ++ [v]) := by
    intro v hv
    obtain ⟨horder, hreturned⟩ := h.pass (.refl _) hv
    exact ⟨horder, hreturned, h.capacity, h.room⟩
  cases v with
  | checkout code apis refresh =>
    unfold Pool.visit
    dsimp only
    rw [checkout_pool]
    cases ht : Idle.take? (poolKey code) p.idle with
    | none => exact hstay fun _ _ => rfl
    | some found =>
      have hkeys : keys { p with idle := found.2 } = p.keys.erase (poolKey code) :=
        (Idle.keys_of_take? ht).2
      have hsub : (keys { p with idle := found.2 }).Sublist p.keys := hkeys ▸ List.erase_sublist
      obtain ⟨horder, hreturned⟩ :=
        h.pass (v := .checkout code apis refresh) hsub fun _ _ => rfl
      exact ⟨horder, hreturned, h.capacity, hsub.length_le.trans h.room⟩
  | giveBack key a =>
    obtain ⟨ks, hkeys, hsub, hfresh, hlength⟩ := p.keys_giveBack key a
    have hbrings : ∀ k ∈ ks, (Visit.giveBack key a).brings k = false := by
      intro k hk
      have hne : key ≠ k := fun he => hfresh h.nodup (he ▸ hk)
      simp [Visit.brings, hne]
    have hnow : since key (visits ++ [.giveBack key a]) = 0 := by
      simp [since_concat, Visit.brings]
    have hcapacity : (p.visit (.giveBack key a)).capacity = p.capacity := by
      unfold Pool.visit
      dsimp only
      rw [giveBack_pool]
    obtain ⟨horder, hreturned⟩ := h.pass hsub hbrings
    refine ⟨?_, ?_, hcapacity.trans h.capacity, ?_⟩
    · change (p.giveBack key a).pool.keys.Pairwise _
      rw [hkeys, List.pairwise_cons]
      refine ⟨?_, horder⟩
      intro k hk
      rw [hnow, since_concat, hbrings k hk]
      exact Nat.succ_pos _
    · intro k hk
      change k ∈ (p.giveBack key a).pool.keys at hk
      rw [hkeys] at hk
      rcases List.mem_cons.mp hk with rfl | hk
      · simp [hnow]
      · exact hreturned k hk
    · change (p.giveBack key a).pool.keys.length ≤ _
      rw [hkeys, hcapacity]
      exact hlength (by rw [h.capacity]; exact Nat.le_max_right _ _) h.room
  | contains key => exact hstay fun _ _ => rfl
  | size => exact hstay fun _ _ => rfl

/-- The key at the end is the one whose last return is the oldest. -/
theorem last_oldest (h : p.Ranked capacity visits) {oldest : String} {b : Aspect}
    (hlast : p.idle.getLast? = some (oldest, b)) :
    oldest ∈ p.keys ∧ ∀ k ∈ p.keys, k ≠ oldest → since k visits < since oldest visits := by
  obtain ⟨before, hidle⟩ := List.getLast?_eq_some_iff.mp hlast
  have hkeys : p.keys = before.map (·.1) ++ [oldest] := by
    simp [keys, Idle.keys, hidle]
  refine ⟨by simp [hkeys], ?_⟩
  intro k hk hne
  have horder := h.order
  rw [hkeys, List.pairwise_append] at horder
  rw [hkeys] at hk
  rcases List.mem_append.mp hk with hk | hk
  · exact horder.2.2 k hk oldest (List.mem_singleton.mpr rfl)
  · exact absurd (List.mem_singleton.mp hk) hne

/-- Where there is no room, what comes back under a new key drives out what is at the end. -/
theorem giveBack_full (h : p.Ranked capacity visits) {key : String} (hkey : key ∉ p.keys)
    (hfull : p.size = p.capacity) (a : Aspect) :
    ∃ last b, p.idle.getLast? = some (last, b) ∧
      (p.giveBack key a).pool.idle = (key, a.release) :: p.idle.filter (·.1 ≠ last) := by
  rw [giveBack_pool]
  obtain ⟨old, rest, ht, hput⟩ | ⟨-, hroom, hput⟩ | ⟨-, -, hput⟩ :=
    Idle.put_cases p.capacity key a.release p.idle
  · exact absurd (Idle.keys_of_take? ht).1 hkey
  · exact absurd hfull (Nat.ne_of_lt hroom)
  · -- There is room for one at least, so a full pool has a last one.
    have hpos : 0 < p.idle.length := by
      have hone : 1 ≤ p.capacity := h.capacity ▸ Nat.le_max_right _ _
      rwa [← hfull] at hone
    have hsome := List.getLast?_eq_some_getLast (List.ne_nil_of_length_pos hpos)
    refine ⟨_, _, hsome, ?_⟩
    rw [hput, Idle.dropLast_of_getLast? hsome h.nodup]

end Ranked

theorem ranked_after [Wasm.Engine] (capacity : Nat) (config : Config) (visits : List Visit) :
    (after capacity config visits).Ranked capacity visits := by
  -- From the end: the last visit adds to the order that the ones before it left.
  induction visits using List.reverseRecOn with
  | nil => exact ⟨.nil, List.forall_mem_nil _, rfl, Nat.zero_le _⟩
  | append_singleton visits v ih =>
    unfold after at ih ⊢
    rw [List.foldl_concat]
    exact ih.visit v

/-- Questions leave no trace. -/
theorem after_filter_moves [Wasm.Engine] (capacity : Nat) (config : Config) (visits : List Visit) :
    after capacity config (visits.filter Visit.moves) = after capacity config visits := by
  unfold after
  generalize new capacity config = p
  induction visits generalizing p with
  | nil => rfl
  | cons v vs ih => cases v <;> exact ih _

theorem contains_iff (p : Pool) (key : String) : p.contains key = true ↔ key ∈ p.keys := by
  unfold contains keys Idle.keys
  simp only [List.lookup_isSome_iff, List.mem_map, beq_iff_eq, eq_comm (a := key)]

/-- **The pool evicts what came back first.** Whatever it was asked before, idle keys are distinct and there
are no more than fit. A checkout takes away what is under its own key at most. What comes back stands in
front, and takes the place of what was under its key; only where there is no such thing and no room does
another key go, and that is the one whose last return is the oldest. -/
theorem evicts_oldest [Wasm.Engine] (capacity : Nat) (config : Config) (visits : List Visit) :
    let p := after capacity config visits
    p.keys.Nodup ∧ p.size ≤ max capacity 1 ∧ (∀ k ∈ p.keys, since k visits < visits.length) ∧
      (∀ code apis refresh,
        (p.checkout code apis refresh).pool.idle = p.idle.filter (·.1 ≠ poolKey code)) ∧
      (∀ key a, key ∈ p.keys ∨ p.size < max capacity 1 →
        (p.giveBack key a).pool.idle = (key, a.release) :: p.idle.filter (·.1 ≠ key)) ∧
      (∀ key a, key ∉ p.keys → p.size = max capacity 1 → ∃ oldest ∈ p.keys,
        (∀ k ∈ p.keys, k ≠ oldest → since k visits < since oldest visits) ∧
        (p.giveBack key a).pool.idle = (key, a.release) :: p.idle.filter (·.1 ≠ oldest)) ∧
      (∀ key, p.contains key = true ↔ key ∈ p.keys) ∧ p.size = p.keys.length ∧
      after capacity config (visits.filter Visit.moves) = p := by
  have h := ranked_after capacity config visits
  have hquestions := after_filter_moves capacity config visits
  generalize after capacity config visits = p at h hquestions
  have hsize : p.size = p.keys.length := (Idle.length_keys p.idle).symm
  refine ⟨h.nodup, ?_, h.returned, checkout_idle h.nodup, ?_, ?_, p.contains_iff, hsize, hquestions⟩
  · rw [hsize, ← h.capacity]
    exact h.room
  · intro key a hstays
    rw [← h.capacity] at hstays
    exact giveBack_idle h.nodup hstays a
  · intro key a hkey hfull
    rw [← h.capacity] at hfull
    obtain ⟨oldest, b, hlast, hidle⟩ := h.giveBack_full hkey hfull a
    obtain ⟨hmem, holdest⟩ := h.last_oldest hlast
    exact ⟨oldest, hmem, holdest, hidle⟩

/-- An aspect of which nothing is left. -/
def bare : Aspect := { config := {}, compiled := none, live := none }

theorem evicts_oldest_second :
    let p := after 2 {} [.giveBack "a" bare, .giveBack "b" bare, .contains "b", .giveBack "a" bare]
    p.keys = ["a", "b"] ∧ (p.giveBack "c" bare).pool.idle = [("c", bare), ("a", bare)] := by
  refine ⟨rfl, ?_⟩
  obtain ⟨-, -, -, -, -, hfull, -⟩ := evicts_oldest 2 {}
    [.giveBack "a" bare, .giveBack "b" bare, .contains "b", .giveBack "a" bare]
  obtain ⟨oldest, hmem, holdest, hidle⟩ := hfull "c" bare (by decide) rfl
  -- Asking for it does not keep the other one.
  have hsecond : oldest = "b" := by
    by_contra hne
    have hlater := holdest "b" (by decide) (Ne.symm hne)
    have hfirst : oldest = "a" := by simpa [hne] using (show oldest ∈ ["a", "b"] from hmem)
    subst hfirst
    exact absurd hlater (by decide)
  subst hsecond
  exact hidle

end Pool
end AspectHost
