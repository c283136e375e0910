import AspectHost.Linked
import AspectHost.Proofs.Guest

/-! # Linked guest code is lawful

The memory that guest code exports is a block of bytes, and its counter is a part of the store of its own,
whether it is a global or the fuel. So what holds of host calls on lawful guests holds of host calls from
linked guest code. -/

namespace AspectHost

namespace Wasm.LinearMemory

theorem bytes_eq (m : LinearMemory) (start size : Nat) :
    m.bytes start size = (m.data.toList.drop start).take size := by
  unfold bytes
  rw [ByteArray.data_extract, Array.toList_extract, List.extract, Nat.add_sub_cancel_left]

theorem toList_write (m : LinearMemory) (start : Nat) (b : Bytes) :
    (m.write start b).data.toList = Buffer.splice m.data.toList start b := by
  have htail : (m.data.toList.drop (start + b.length)).take (m.size - (start + b.length)) =
      m.data.toList.drop (start + b.length) := by
    apply List.take_of_length_le
    rw [List.length_drop]
    exact Nat.le_refl _
  unfold write Buffer.splice
  rw [ByteArray.copySlice_eq_append]
  simp [htail]

end Wasm.LinearMemory

namespace Linked

variable (L : Linked)

/-- The bytes of the exported memory. -/
def bytes (s : Wasm.Store) : Except MemoryError Bytes :=
  (fun m : Wasm.LinearMemory => m.data.toList) <$> L.content s

/-- Where a global counts gas, the host can set it. -/
def Countable : Prop :=
  L.config.gas.metering = .globalCounter →
    ∀ g, L.counterIndex = .ok g → L.module.globalSpace[g]? = some ⟨.i64, true⟩

theorem content_write (s : Wasm.Store) (start : Nat) (d : Bytes) :
    L.content (s.write start d) = (fun m : Wasm.LinearMemory => m.write start d) <$> L.content s := by
  unfold content
  by_cases hr : (!L.ready) = true
  · rw [if_pos hr, if_pos hr]
    rfl
  · rw [if_neg hr, if_neg hr]
    cases L.module.exportIndex? .memory L.config.memoryExport <;> rfl

theorem memory_flat : L.memory.Flat L.bytes where
  size s := by
    change ByteArray.size <$> L.content s = _
    unfold bytes
    cases L.content s <;> rfl
  read p n s := by
    change (do
      let m ← L.content s
      let start ← checkBounds p.toInt64 n.toInt64 m.size
      return m.bytes start n.toInt.toNat) = _
    unfold bytes
    cases L.content s with
    | error e => rfl
    | ok m =>
      simp only [Wasm.LinearMemory.bytes_eq]
      rfl
  write p d s := by
    change L.bytes <$> (do
      let start ← checkBounds p.toInt64 (Int64.ofNat d.length) (← ByteArray.size <$> L.content s)
      return s.write start d) = _
    cases hc : L.content s with
    | error e =>
      simp only [bytes, hc]
      rfl
    | ok m =>
      have hlen : m.data.toList.length = m.size := rfl
      simp only [bytes, hc, bind, Except.bind, Functor.map, Except.map, hlen]
      cases checkBounds p.toInt64 (Int64.ofNat d.length) m.size with
      | error e => rfl
      | ok start =>
        change Except.ok (L.bytes (s.write start d)) = _
        rw [bytes, content_write, hc]
        exact congrArg (fun b => Except.ok (Except.ok b)) (Wasm.LinearMemory.toList_write m start d)

variable {L} in
theorem eq_write {p : Pointer} {d : Bytes} {s s' : Wasm.Store} (h : L.memory.write p d s = .ok s') :
    ∃ start, s' = s.write start d := by
  obtain ⟨n, -, h⟩ := bind_eq_ok.mp h
  obtain ⟨start, -, h⟩ := bind_eq_ok.mp h
  exact ⟨start, (Except.ok.inj h).symm⟩

theorem counter_write {p : Pointer} {d : Bytes} {s s' : Wasm.Store} (h : L.memory.write p d s = .ok s') :
    L.meter.counter s' = L.meter.counter s := by
  obtain ⟨start, rfl⟩ := eq_write h
  rfl

theorem fuelCounter_fuelOf {g : Int64} (hg : -1 ≤ g.toInt) : fuelCounter (fuelOf g) = g := by
  unfold fuelCounter fuelOf
  by_cases hneg : g < 0
  · have hone : g.toInt = -1 := by
      rw [Word.neg_iff] at hneg
      omega
    rw [if_pos (decide_eq_true hneg)]
    exact Int64.toInt_inj.mp hone.symm
  · have hnn : 0 ≤ g.toInt := by
      rw [Word.neg_iff] at hneg
      omega
    have hmax : max 0 (max 0 g.toInt) = g.toInt := by omega
    rw [if_neg (by simpa using hneg), hmax, Int64.ofInt_toInt]

/-- What the host stores on the counter it reads there, and the memory does not show it. -/
theorem counter_store (hcount : L.Countable) {s : Wasm.Store} {c : Int64} (g : Int64)
    (hc : L.meter.counter s = .ok c) (hg : -1 ≤ g.toInt) :
    ∃ s', L.meter.store g s = .ok s' ∧ L.meter.counter s' = .ok g ∧ L.bytes s' = L.bytes s := by
  unfold meter at hc ⊢
  dsimp only at hc ⊢
  cases hmode : L.config.gas.metering with
  | fuel =>
    exact ⟨_, rfl, congrArg Except.ok (fuelCounter_fuelOf hg), rfl⟩
  | globalCounter =>
    simp only [hmode, globalCounter, bind, Except.bind] at hc
    cases hi : L.counterIndex with
    | error e => rw [hi] at hc; cases hc
    | ok i =>
      have hglobal := hcount hmode i hi
      simp only [hi] at hc
      split at hc
      · rename_i n hn
        obtain ⟨hlt, -⟩ := Array.getElem?_eq_some_iff.mp hn
        refine ⟨{ s with globals := s.globals.setIfInBounds i (.i64 g.toUInt64) }, ?_, ?_, rfl⟩
        · simp only [storeGlobalCounter, hi, bind, Except.bind, hglobal]
          rfl
        · simp only [globalCounter, hi, bind, Except.bind, Array.getElem?_setIfInBounds_self_of_lt hlt]
          rfl
      · cases hc

/-- **Linked guest code is lawful.** -/
theorem lawful (hm : 0 < L.config.gas.multiplier.toInt) (hcount : L.Countable) (invoke : Invocation) :
    (L.guest invoke).Lawful L.bytes where
  flat := L.memory_flat
  multiplier_pos := hm
  store g hc hg := L.counter_store hcount g hc hg
  counter_write h := L.counter_write h

end Linked
end AspectHost
