import AspectHost.Proofs.Host.Lifting
import AspectHost.Proofs.Truncation

/-! # Typed values are read exactly

A typed value is read in two steps, its header and then all of it. In a memory whose bytes are known the
two come down to one case distinction (`GuestMemory.Flat.readValue_eq_of_content`): whether the header is
inside the memory, whether it is a header, whether the span that it announces has a size and is inside the
memory, and whether the body is one of that kind. Past the bounds nothing is cut short, so no failure is a
truncation. -/

namespace AspectHost

/-! ## Bounds -/

/-- Bounds that do not hold are refused with the bounds that were asked for. -/
theorem checkBounds_cases (ptr size : Int64) (n : Nat) :
    (∃ k, checkBounds ptr size n = .ok k) ∨ checkBounds ptr size n = .error (.outOfBounds ptr size n) := by
  unfold checkBounds
  split
  · exact .inr rfl
  · split
    · split
      · exact .inl ⟨_, rfl⟩
      · exact .inr rfl
    · exact .inr rfl

theorem toInt64_ofNat {n : Nat} (h : n ≤ maxLength) : (Int32.ofNat n).toInt64 = Int64.ofNat n := by
  have hlt : n < 2 ^ 31 := Nat.lt_of_le_of_lt h (by decide)
  have hmax : (n : Int) ≤ Word.max := by
    unfold Word.max
    omega
  apply Int64.toInt_inj.mp
  rw [Int32.toInt_toInt64, toInt_ofNat_of_le h, Word.toInt_ofNat hmax]

/-! ## Values -/

namespace GuestMemory.Flat

variable {σ : Type} {m : GuestMemory σ} {content : σ → Except MemoryError Bytes} (hm : m.Flat content)
  {p : Pointer} {s : σ} {b : Bytes} {v : Value} {n : Nat} {e : HostError}

include hm

theorem read_of_outside (hb : content s = .ok b) (hn : n ≤ maxLength)
    (h : ¬ (0 ≤ p.toInt ∧ p.toInt.toNat + n ≤ b.length)) :
    m.read p (Int32.ofNat n) s = .error (.outOfBounds p.toInt64 (Int64.ofNat n) b.length) := by
  rw [← toInt64_ofNat hn]
  obtain ⟨k, hk⟩ | hk := checkBounds_cases p.toInt64 (Int32.ofNat n).toInt64 b.length
  · -- had the bounds held, the span would be inside
    obtain ⟨hp, -, hle, -⟩ := checkBounds_eq_ok_iff.mp hk
    rw [Int32.toInt_toInt64] at hp hle
    rw [Int32.toInt_toInt64, toInt_ofNat_of_le hn] at hle
    omega
  · simp only [hm.read, hb, bind, Except.bind, hk]

theorem readHeader_of_inside (hb : content s = .ok b) (hp : 0 ≤ p.toInt)
    (h : p.toInt.toNat + Header.size ≤ b.length) :
    m.readHeader p s = (Header.decode ((b.drop p.toInt.toNat).take Header.size)).mapError .decode := by
  rw [readHeader_eq, hm.read_of_le hb hp (by decide) h]

omit hm in
/-- The whole of a value, where its header has been read and its span is inside the memory. -/
theorem decode_of_inside {h : Header} (hlen : p.toInt.toNat + h.totalLength ≤ b.length)
    (hd : Header.decode ((b.drop p.toInt.toNat).take Header.size) = .ok h) :
    Value.decode ((b.drop p.toInt.toNat).take h.totalLength) =
      Value.ofBody h.kind ((b.drop (p.toInt.toNat + Header.size)).take h.length.toInt.toNat) := by
  have hwhole : ((b.drop p.toInt.toNat).take h.totalLength).length = h.totalLength :=
    List.length_take_of_le (by rw [List.length_drop]; omega)
  have hsame : Header.decode ((b.drop p.toInt.toNat).take h.totalLength) = .ok h := by
    have hheader : Header.size ≤ ((b.drop p.toInt.toNat).take Header.size).length := by
      unfold Header.totalLength at hlen
      rw [List.length_take_of_le (by rw [List.length_drop]; omega)]
    rw [Header.totalLength, List.take_add, Header.decode_append hheader, hd]
  rw [Value.decode_eq, hsame]
  simp only [hwhole, Nat.lt_irrefl, if_false]
  rw [List.drop_take, List.take_take, List.drop_drop, Header.totalLength, Nat.add_sub_cancel_left,
    Nat.min_self]

/-- Every way that reading a value can go, by the bytes of the memory. -/
theorem readValue_eq_of_content (hb : content s = .ok b) (p : Pointer) : m.readValue p s =
    if 0 ≤ p.toInt ∧ p.toInt.toNat + Header.size ≤ b.length then
      match Header.decode ((b.drop p.toInt.toNat).take Header.size) with
      | .error e => .error (.decode e)
      | .ok h =>
        if h.totalLength ≤ maxLength ∧ p.toInt.toNat + h.totalLength ≤ b.length then
          match Value.ofBody h.kind ((b.drop (p.toInt.toNat + Header.size)).take h.length.toInt.toNat) with
          | .error e => .error (.decode e)
          | .ok v => .ok (v, h.length.toInt.toNat)
        else .error (.memory (.outOfBounds p.toInt64 (Int64.ofNat h.totalLength) b.length))
    else .error (.memory (.outOfBounds p.toInt64 (Int64.ofNat Header.size) b.length)) := by
  rw [readValue_eq]
  by_cases hheader : 0 ≤ p.toInt ∧ p.toInt.toNat + Header.size ≤ b.length
  · obtain ⟨hp, hin⟩ := hheader
    rw [if_pos ⟨hp, hin⟩, hm.readHeader_of_inside hb hp hin]
    cases hd : Header.decode ((b.drop p.toInt.toNat).take Header.size) with
    | error e => rfl
    | ok h =>
      dsimp only [Except.mapError]
      by_cases hsize : maxLength < h.totalLength
      · have hlength : m.size s = .ok b.length := by
          rw [hm.size, hb]
          rfl
        rw [if_pos hsize, if_neg (fun hfits => absurd hfits.1 (Nat.not_le.mpr hsize)), hlength]
      · rw [if_neg hsize]
        by_cases hspan : p.toInt.toNat + h.totalLength ≤ b.length
        · rw [if_pos ⟨Nat.not_lt.mp hsize, hspan⟩, hm.read_of_le hb hp (Nat.not_lt.mp hsize) hspan]
          have hbody := decode_of_inside hspan hd
          cases hv : Value.decode ((b.drop p.toInt.toNat).take h.totalLength) <;> simp only [← hbody, hv]
        · rw [if_neg (fun hfits => hspan hfits.2),
            hm.read_of_outside hb (Nat.not_lt.mp hsize) (fun hin => hspan hin.2)]
  · have hrefused : m.readHeader p s =
        .error (.memory (.outOfBounds p.toInt64 (Int64.ofNat Header.size) b.length)) := by
      rw [readHeader_eq, hm.read_of_outside hb (by decide) hheader]
    rw [if_neg hheader, hrefused]

/-- What was read stands at the pointer, and fits a signed size. -/
theorem encode_of_readValue (hb : content s = .ok b) (h : m.readValue p s = .ok (v, n)) :
    0 ≤ p.toInt ∧ n = v.bodyLength ∧ Header.size + n ≤ maxLength ∧
      ∃ t, b.drop p.toInt.toNat = v.header.encode ++ v.body ++ t := by
  rw [hm.readValue_eq_of_content hb] at h
  split at h
  case isFalse => cases h
  rename_i hheader
  split at h
  case h_1 => cases h
  rename_i d hd
  split at h
  case isFalse => cases h
  rename_i hspan
  split at h
  case h_1 => cases h
  rename_i v' hv
  cases h
  have hin : ((b.drop (p.toInt.toNat + Header.size)).take d.length.toInt.toNat).length =
      d.length.toInt.toNat := by
    apply List.length_take_of_le
    have hlen := hspan.2
    unfold Header.totalLength at hlen
    rw [List.length_drop]
    omega
  obtain ⟨-, hnonneg, t, ht⟩ := Header.decode_eq_ok_iff.mp hd
  obtain ⟨hn, hsame, hbody⟩ := Value.header_of_ofBody hnonneg hv hin
  refine ⟨hheader.1, hn.symm, hspan.1, (b.drop (p.toInt.toNat + Header.size)).drop d.length.toInt.toNat, ?_⟩
  -- the six bytes that were read are all of the header's writing
  have hfirst : (b.drop p.toInt.toNat).take Header.size = d.encode := by
    have hlen := congrArg List.length ht
    rw [List.length_take_of_le (by rw [List.length_drop]; omega), List.length_append, Header.length_encode]
      at hlen
    have hnil : t = [] := List.length_eq_zero_iff.mp (by omega)
    rw [ht, hnil, List.append_nil]
  rw [hsame, hbody, ← hfirst, List.append_assoc, List.take_append_drop, ← List.drop_drop,
    List.take_append_drop]

/-- A value is read exactly where its writing stands. -/
theorem readValue_eq_ok_iff (hb : content s = .ok b) : m.readValue p s = .ok (v, n) ↔
    0 ≤ p.toInt ∧ n = v.bodyLength ∧ Header.size + n ≤ maxLength ∧
      ∃ t, b.drop p.toInt.toNat = v.header.encode ++ v.body ++ t := by
  constructor
  · exact hm.encode_of_readValue hb
  · rintro ⟨hp, rfl, hfit, t, ht⟩
    exact hm.readValue_of_encode hb hp ht hfit

/-- Reading fails beyond the bounds, or on what is no value although it is all there. -/
theorem failure_of_readValue (hb : content s = .ok b) (h : m.readValue p s = .error e) :
    (∃ k, e = .memory (.outOfBounds p.toInt64 (Int64.ofNat k) b.length)) ∨
      ∃ c, e = .decode c ∧ ¬ c.Truncated := by
  rw [hm.readValue_eq_of_content hb] at h
  split at h
  case isFalse =>
    cases h
    exact .inl ⟨_, rfl⟩
  rename_i hheader
  split at h
  case h_1 =>
    rename_i c hd
    cases h
    refine .inr ⟨c, rfl, Header.untruncated_of_decode ?_ hd⟩
    rw [List.length_take_of_le (by rw [List.length_drop]; omega)]
  split at h
  case isFalse =>
    cases h
    exact .inl ⟨_, rfl⟩
  split at h
  · rename_i c hc
    cases h
    exact .inr ⟨c, rfl, Value.untruncated_of_ofBody hc⟩
  · cases h

/-- Where reading is refused for the bounds. -/
theorem outOfBounds_iff (hb : content s = .ok b) (p : Pointer) :
    (∃ q k l, m.readValue p s = .error (.memory (.outOfBounds q k l))) ↔
      ¬ InMemory content p Header.size s ∨
      ∃ h, Header.decode ((b.drop p.toInt.toNat).take Header.size) = .ok h ∧
        (¬ InMemory content p h.totalLength s ∨ maxLength < h.totalLength) := by
  have hinside : ∀ k, InMemory content p k s ↔ 0 ≤ p.toInt ∧ p.toInt.toNat + k ≤ b.length := by
    intro k
    constructor
    · rintro ⟨b', hb', hin⟩
      cases hb.symm.trans hb'
      exact hin
    · exact fun hin => ⟨b, hb, hin⟩
  constructor
  · rintro ⟨q, k, l, h⟩
    rw [hm.readValue_eq_of_content hb] at h
    split at h
    case isFalse hheader => exact .inl fun hin => hheader ((hinside _).mp hin)
    split at h
    case h_1 => cases h
    rename_i d hd
    split at h
    case isFalse hspan =>
      refine .inr ⟨d, hd, ?_⟩
      rcases Nat.lt_or_ge maxLength d.totalLength with hsize | hsize
      · exact .inr hsize
      · exact .inl fun hin => hspan ⟨hsize, ((hinside _).mp hin).2⟩
    split at h <;> cases h
  · intro h
    rw [hm.readValue_eq_of_content hb]
    split
    case isFalse => exact ⟨_, _, _, rfl⟩
    rename_i hheader
    obtain hout | ⟨d, hd, hspan⟩ := h
    · exact absurd ((hinside _).mpr hheader) hout
    · rw [hd]
      dsimp only
      rw [if_neg]
      · exact ⟨_, _, _, rfl⟩
      · rintro ⟨hsize, hlen⟩
        obtain hout | hover := hspan
        · exact hout ((hinside _).mpr ⟨hheader.1, hlen⟩)
        · omega

end GuestMemory.Flat

/-- **Typed values are read exactly.** A value and the length of its body are read at a pointer if and
only if the value's writing stands there, with a size that fits a signed word. Reading is refused for the
bounds if and only if the header is not inside the memory, or announces a span that is not, or that has no
size. Every other failure is about bytes that are no value; none is about bytes that are missing. -/
theorem readValue_exact {σ : Type} {m : GuestMemory σ} {content : σ → Except MemoryError Bytes}
    (hm : m.Flat content) {s : σ} {b : Bytes} (hb : content s = .ok b) (p : Pointer) :
    (∀ v n, m.readValue p s = .ok (v, n) ↔
      0 ≤ p.toInt ∧ n = v.bodyLength ∧ Header.size + n ≤ maxLength ∧
        ∃ e, v.encode? = some e ∧ e <+: b.drop p.toInt.toNat) ∧
    ((∃ q k l, m.readValue p s = .error (.memory (.outOfBounds q k l))) ↔
      ¬ InMemory content p Header.size s ∨
      ∃ h, Header.decode ((b.drop p.toInt.toNat).take Header.size) = .ok h ∧
        (¬ InMemory content p h.totalLength s ∨ maxLength < h.totalLength)) ∧
    ∀ e, m.readValue p s = .error e →
      (∃ k, e = .memory (.outOfBounds p.toInt64 (Int64.ofNat k) b.length)) ∨
        ∃ c, e = .decode c ∧ ¬ c.Truncated := by
  refine ⟨?exact, hm.outOfBounds_iff hb p, fun e => hm.failure_of_readValue hb⟩
  case exact =>
    intro v n
    rw [hm.readValue_eq_ok_iff hb]
    constructor
    · rintro ⟨hp, hn, hfit, t, ht⟩
      have hencode := Value.encode?_eq_some_iff (v := v).mpr ⟨by omega, rfl⟩
      exact ⟨hp, hn, hfit, _, hencode, t, ht.symm⟩
    · rintro ⟨hp, hn, hfit, e, hencode, t, ht⟩
      obtain ⟨-, rfl⟩ := Value.encode?_eq_some_iff.mp hencode
      exact ⟨hp, hn, hfit, t, ht.symm⟩

/-- A truth value, and behind it the header of a text of a thousand bytes that are not there. -/
def Buffer.announcing : Buffer := ⟨some [9, 0, 1, 0, 0, 0, 1, 10, 0, 0xE8, 3, 0, 0], .missing, 0⟩

/-- The truth value is read; the header announces too much; and a byte off there is no header. -/
theorem readValue_exact_announcing :
    Buffer.memory.readValue 0 Buffer.announcing = .ok (.bool true, 1) ∧
    (∃ q k l, Buffer.memory.readValue 7 Buffer.announcing = .error (.memory (.outOfBounds q k l))) ∧
    ∃ c, Buffer.memory.readValue 1 Buffer.announcing = .error (.decode c) ∧ ¬ c.Truncated := by
  have hexact := fun p => readValue_exact Buffer.flat (s := Buffer.announcing) rfl p
  refine ⟨?read, ?beyond, ?shifted⟩
  case read =>
    exact ((hexact 0).1 (.bool true) 1).mpr ⟨by decide, rfl, by decide, _, rfl, by decide⟩
  case beyond =>
    refine (hexact 7).2.1.mpr (.inr ⟨⟨.string, 1000⟩, rfl, .inl ?_⟩)
    rintro ⟨b, hb, -, hlen⟩
    cases hb
    exact absurd hlen (by decide)
  case shifted =>
    have hend : Buffer.memory.readValue 1 Buffer.announcing = .error (.decode (.unknownKind 256)) := rfl
    obtain ⟨k, hk⟩ | ⟨c, hc, hwhole⟩ := (hexact 1).2.2 _ hend
    · cases hk
    · exact ⟨c, hend.trans (congrArg _ hc), hwhole⟩

end AspectHost
