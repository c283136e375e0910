import AspectHost.Memory.Buffer
import AspectHost.Proofs.Gas.Words
import AspectHost.Proofs.Wire

/-! # Memory as a block of bytes

A memory is `Flat` when it is what its bytes say: reads copy a span that lies inside of them, writes
replace one, and whatever reaches beyond is refused. What a value's writing stands at is then read as that
value. -/

namespace AspectHost

theorem checkBounds_eq_ok_iff {ptr size : Int64} {n k : Nat} :
    checkBounds ptr size n = .ok k ↔
      0 ≤ ptr.toInt ∧ 0 ≤ size.toInt ∧ ptr.toInt + size.toInt ≤ min (n : Int) Word.max ∧
        k = ptr.toInt.toNat := by
  unfold checkBounds
  simp only [Word.neg_iff]
  by_cases hneg : ptr.toInt < 0 ∨ size.toInt < 0
  · rw [if_pos hneg]
    constructor
    · intro h
      cases h
    · omega
  · rw [if_neg hneg]
    cases hs : Checked.add? ptr size with
    | none =>
      have := Checked.ofInt?_eq_none_iff.mp hs
      constructor
      · intro h
        cases h
      · omega
    | some last =>
      have hlast := Checked.add?_eq_some_iff.mp hs
      have hmax := Word.toInt_le_max last
      by_cases hn : last.toInt.toNat ≤ n
      · simp only [if_pos hn, Except.ok.injEq]
        omega
      · simp only [if_neg hn]
        constructor
        · intro h
          cases h
        · omega

namespace Buffer

/-- What is written over a span stands where the span starts. -/
theorem drop_splice {bytes : Bytes} {start : Nat} (h : start ≤ bytes.length) (b : Bytes) :
    (splice bytes start b).drop start = b ++ bytes.drop (start + b.length) := by
  rw [splice, List.append_assoc]
  exact List.drop_left' (List.length_take_of_le h)

end Buffer

namespace GuestMemory

variable {σ : Type}

/-- The memory is the block of bytes that `content` shows. -/
structure Flat (m : GuestMemory σ) (content : σ → Except MemoryError Bytes) : Prop where
  size : ∀ s, m.size s = List.length <$> content s
  read : ∀ p n s, m.read p n s = do
    let b ← content s
    let start ← checkBounds p.toInt64 n.toInt64 b.length
    return (b.drop start).take n.toInt.toNat
  write : ∀ p d s, content <$> m.write p d s = do
    let b ← content s
    let start ← checkBounds p.toInt64 (Int64.ofNat d.length) b.length
    return .ok (Buffer.splice b start d)

theorem readHeader_eq (m : GuestMemory σ) (p : Pointer) (s : σ) : m.readHeader p s =
    match m.read p (Int32.ofNat Header.size) s with
    | .error e => .error (.memory e)
    | .ok b => (Header.decode b).mapError .decode := by
  unfold readHeader
  cases m.read p (Int32.ofNat Header.size) s <;> rfl

/-- The header is read first; then the whole value, if its size is one. -/
theorem readValue_eq (m : GuestMemory σ) (p : Pointer) (s : σ) : m.readValue p s =
    match m.readHeader p s with
    | .error e => .error e
    | .ok h =>
      if maxLength < h.totalLength then
        .error (.memory (.outOfBounds p.toInt64 (Int64.ofNat h.totalLength)
          (match m.size s with
            | .ok n => n
            | .error _ => 0)))
      else
        match m.read p (Int32.ofNat h.totalLength) s with
        | .error e => .error (.memory e)
        | .ok b =>
          match Value.decode b with
          | .error e => .error (.decode e)
          | .ok v => .ok (v, h.length.toInt.toNat) := by
  unfold readValue
  cases m.readHeader p s with
  | error e => rfl
  | ok h =>
    change (if _ then _ else _) = (if _ then _ else _)
    split
    · rfl
    · cases m.read p (Int32.ofNat h.totalLength) s with
      | error e => rfl
      | ok b =>
        change Except.bind ((Value.decode b).mapError HostError.decode) _ = _
        cases hv : Value.decode b <;> simp only [hv] <;> rfl

/-- Reading a value fails as reading its bytes does, beyond the bounds, or on what is no value. -/
theorem readValue_eq_error {m : GuestMemory σ} {p : Pointer} {s : σ} {e : HostError}
    (h : m.readValue p s = .error e) :
    (∃ n c, m.read p n s = .error c ∧ e = .memory c) ∨ (∃ q n k, e = .memory (.outOfBounds q n k)) ∨
      ∃ c, e = .decode c := by
  rw [readValue_eq] at h
  split at h
  · rename_i hheader
    cases h
    rw [readHeader_eq] at hheader
    split at hheader
    · rename_i c hc
      cases hheader
      exact .inl ⟨_, c, hc, rfl⟩
    · cases hd : Header.decode ‹_› <;> rw [hd] at hheader <;> cases hheader
      exact .inr (.inr ⟨_, rfl⟩)
  · split at h
    · cases h
      exact .inr (.inl ⟨_, _, _, rfl⟩)
    · split at h
      · rename_i c hc
        cases h
        exact .inl ⟨_, c, hc, rfl⟩
      · split at h <;> cases h
        exact .inr (.inr ⟨_, rfl⟩)

/-- The lengths that come with values fit the length field. -/
theorem length_le_of_readValue {m : GuestMemory σ} {p : Pointer} {s : σ} {v : Value} {n : Nat}
    (h : m.readValue p s = .ok (v, n)) : n ≤ maxLength := by
  rw [readValue_eq] at h
  cases hd : m.readHeader p s with
  | error e => rw [hd] at h; cases h
  | ok d =>
    simp only [hd] at h
    split at h
    · cases h
    split at h
    · cases h
    split at h
    · cases h
    · cases h
      have := d.length.toInt_lt
      unfold maxLength
      omega

namespace Flat

variable {m : GuestMemory σ} {content : σ → Except MemoryError Bytes} (hm : m.Flat content)
  {p : Pointer} {s : σ} {b : Bytes}

include hm

theorem read_of_le (hb : content s = .ok b) {n : Nat} (hp : 0 ≤ p.toInt) (hn : n ≤ maxLength)
    (h : p.toInt.toNat + n ≤ b.length) :
    m.read p (Int32.ofNat n) s = .ok ((b.drop p.toInt.toNat).take n) := by
  have hn' : (Int32.ofNat n).toInt = n := toInt_ofNat_of_le hn
  have hc : checkBounds p.toInt64 (Int32.ofNat n).toInt64 b.length = .ok p.toInt.toNat := by
    rw [checkBounds_eq_ok_iff, Int32.toInt_toInt64, Int32.toInt_toInt64, hn']
    have := p.toInt_lt
    unfold maxLength at hn
    unfold Word.max
    omega
  simp only [hm.read, hb, bind, Except.bind, hc, hn', Int.toNat_natCast]
  rfl

/-- A value is read wherever its writing stands. -/
theorem readValue_of_encode (hb : content s = .ok b) {v : Value} {t : Bytes} (hp : 0 ≤ p.toInt)
    (hv : b.drop p.toInt.toNat = v.header.encode ++ v.body ++ t)
    (hfit : Header.size + v.bodyLength ≤ maxLength) :
    m.readValue p s = .ok (v, v.bodyLength) := by
  have hl : v.bodyLength ≤ maxLength := by omega
  have htotal := Value.totalLength_header hl
  have hlen : p.toInt.toNat + (Header.size + v.bodyLength) ≤ b.length := by
    have := congrArg List.length hv
    simp only [List.length_drop, List.length_append, Header.length_encode] at this
    unfold Value.bodyLength Header.size at *
    omega
  have hhead : m.readHeader p s = .ok v.header := by
    rw [readHeader_eq, hm.read_of_le hb hp (by decide) (by omega), hv, List.append_assoc,
      List.take_left' v.header.length_encode]
    have hd := Value.header_decode_encode hl []
    rw [List.append_nil] at hd
    simp only [hd]
    rfl
  have hd : Value.decode (v.header.encode ++ v.body) = .ok v :=
    Value.decode_eq_ok.mpr ⟨hl, [], by rw [List.append_nil]⟩
  have hn : v.header.length.toInt.toNat = v.bodyLength := by
    rw [Value.toInt_header_length hl]
    rfl
  rw [readValue_eq, hhead]
  simp only [if_neg (Nat.not_lt.mpr (htotal ▸ hfit))]
  rw [hm.read_of_le hb hp (htotal ▸ hfit) (htotal ▸ hlen), hv, Value.take_totalLength hl]
  simp only [hd, hn]

theorem write_of_le (hb : content s = .ok b) {d : Bytes} (hp : 0 ≤ p.toInt)
    (hd : d.length ≤ maxLength) (h : p.toInt.toNat + d.length ≤ b.length) :
    ∃ s', m.write p d s = .ok s' ∧ content s' = .ok (Buffer.splice b p.toInt.toNat d) := by
  have hc : checkBounds p.toInt64 (Int64.ofNat d.length) b.length = .ok p.toInt.toNat := by
    have := p.toInt_lt
    unfold maxLength at hd
    rw [checkBounds_eq_ok_iff, Int32.toInt_toInt64, Word.toInt_ofNat (by unfold Word.max; omega)]
    unfold Word.max
    omega
  have hw := hm.write p d s
  simp only [hb, bind, Except.bind, hc] at hw
  cases hs : m.write p d s with
  | error e => rw [hs] at hw; cases hw
  | ok s' =>
    rw [hs] at hw
    exact ⟨s', rfl, Except.ok.inj hw⟩

end Flat
end GuestMemory
end AspectHost
