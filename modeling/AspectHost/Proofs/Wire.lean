import Mathlib
import AspectHost.Wire

/-! # The wire format is read exactly as it is written

A body is read back as the only value of its kind that writes it, and a header as the only one that
stands at the start of its bytes. From both, `Value.decode_eq_ok`: reading accepts what writing
produces, followed by anything, and nothing else. -/

namespace AspectHost

namespace LittleEndian

theorem ofBytes_lt (b : Bytes) : ofBytes b < 256 ^ b.length := by
  induction b with
  | nil => simp [ofBytes]
  | cons x r ih =>
    have hx := x.toNat_lt
    simp only [ofBytes, List.length_cons, Nat.pow_succ]
    omega

/-- Reading gives back the number modulo the range of the width. -/
theorem ofBytes_toBytes (w n : Nat) : ofBytes (toBytes w n) = n % 256 ^ w := by
  induction w generalizing n with
  | zero => simp [toBytes, ofBytes, Nat.mod_one]
  | succ w ih =>
    have h : (UInt8.ofNat n).toNat = n % 256 := by simp
    rw [toBytes, ofBytes, ih, h, Nat.pow_succ, Nat.mul_comm (256 ^ w), Nat.mod_mul]

/-- Bytes are read as a word of their width and written back unchanged. -/
theorem toBytes_mod {w : Nat} {b : Bytes} (h : b.length = w) :
    toBytes w (ofBytes b % 256 ^ w) = b := by
  subst h
  rw [Nat.mod_eq_of_lt (ofBytes_lt b), toBytes_ofBytes]

end LittleEndian

theorem Kind.ofTag_eq_ok_iff {t : Int16} {k : Kind} :
    ofTag t = .ok k ↔ k ≠ .empty ∧ k.tag = t := by
  constructor
  · intro h
    unfold ofTag at h
    split at h
    · cases h
    · cases h
    · rename_i k' hne hf
      cases h
      exact ⟨fun he => hne (he ▸ rfl), by simpa using List.find?_some hf⟩
  · rintro ⟨hne, rfl⟩
    cases k <;> first | contradiction | rfl

/-! ## Bodies -/

namespace Value

theorem kind_ne_empty (v : Value) : v.kind ≠ .empty := by cases v <;> simp [kind]

theorem ofUtf8?_eq_some_iff {b : Bytes} {s : String} : ofUtf8? b = some s ↔ utf8 s = b := by
  unfold ofUtf8? utf8 String.fromUTF8?
  constructor
  · intro h
    split at h
    · cases h
      rfl
    · cases h
  · rintro rfl
    exact dif_pos s.isValidUTF8

theorem boolOfByte_eq_ok {b : UInt8} {v : Value} (h : boolOfByte b = .ok v) :
    v.kind = .bool ∧ v.body = [b] := by
  unfold boolOfByte at h
  split at h
  · cases h
    subst b
    exact ⟨rfl, rfl⟩
  · split at h
    · cases h
      subst b
      exact ⟨rfl, rfl⟩
    · cases h

theorem ofBody_width {k : Kind} {b : Bytes} {v : Value} {w : Nat} (h : ofBody k b = .ok v)
    (hw : k.width = some w) : b.length = w := by
  unfold ofBody at h
  rw [hw] at h
  by_cases hl : b.length = w
  · exact hl
  · simp [hl, bind, Except.bind, throw, throwThe, MonadExceptOf.throw] at h

theorem ofBody_body (v : Value) : ofBody v.kind v.body = .ok v := by
  cases v with
  | bool v => cases v <;> rfl
  | string s =>
    have hs := ofUtf8?_eq_some_iff.mpr (rfl : utf8 s = utf8 s)
    simp only [ofBody, kind, body, Kind.width, hs]
    rfl
  | bytearray b => rfl
  | _ => simp [ofBody, kind, body, Kind.width, LittleEndian.ofBytes_toBytes]; rfl

theorem kind_body_of_ofBody {k : Kind} {b : Bytes} {v : Value} (h : ofBody k b = .ok v) :
    v.kind = k ∧ v.body = b := by
  have hw : ∀ w, k.width = some w → b.length = w := fun _ => ofBody_width h
  cases k with
  | empty => cases h
  | bytearray =>
    cases h
    exact ⟨rfl, rfl⟩
  | string =>
    cases hs : ofUtf8? b with
    | none => simp only [ofBody, Kind.width, hs] at h; cases h
    | some s =>
      simp only [ofBody, Kind.width, hs] at h
      cases h
      exact ⟨rfl, ofUtf8?_eq_some_iff.mp hs⟩
  | bool =>
    obtain ⟨x, rfl⟩ := List.length_eq_one_iff.mp (hw 1 rfl)
    have hx : boolOfByte x = .ok v := by simpa [ofBody, Kind.width, LittleEndian.ofBytes] using h
    exact boolOfByte_eq_ok hx
  | _ =>
    -- the eight kinds of integers
    have hl := hw _ rfl
    simp only [ofBody, Kind.width, hl, ne_eq, not_true_eq_false, if_false] at h
    cases h
    exact ⟨rfl, by simpa [body] using LittleEndian.toBytes_mod hl⟩

/-- A body has one reading as a value of its kind, and a value one writing. -/
theorem ofBody_eq_ok_iff {k : Kind} {b : Bytes} {v : Value} :
    ofBody k b = .ok v ↔ v.kind = k ∧ v.body = b := by
  constructor
  · exact kind_body_of_ofBody
  · rintro ⟨rfl, rfl⟩
    exact ofBody_body v

end Value

/-! ## Headers -/

namespace Header

/-- The tag that the first bytes hold. -/
def tagOf (b : Bytes) : Int16 := (UInt16.ofNat (LittleEndian.ofBytes (b.take 2))).toInt16

/-- The length field that the first bytes hold. -/
def lengthOf (b : Bytes) : Int32 :=
  (UInt32.ofNat (LittleEndian.ofBytes ((b.drop 2).take 4))).toInt32

@[simp] theorem length_encode (h : Header) : h.encode.length = size := by simp [encode, size]

theorem tagOf_encode (h : Header) (t : Bytes) : tagOf (h.encode ++ t) = h.kind.tag := by
  have hb : (h.encode ++ t).take 2 = LittleEndian.toBytes 2 h.kind.tag.toUInt16.toNat := by
    simp [encode]
  simp [tagOf, hb, LittleEndian.ofBytes_toBytes]

theorem lengthOf_encode (h : Header) (t : Bytes) : lengthOf (h.encode ++ t) = h.length := by
  have hb : ((h.encode ++ t).drop 2).take 4 = LittleEndian.toBytes 4 h.length.toUInt32.toNat := by
    simp [encode]
  simp [lengthOf, hb, LittleEndian.ofBytes_toBytes]

theorem encode_eq_take {b : Bytes} {h : Header} (hs : size ≤ b.length)
    (htag : h.kind.tag = tagOf b) (hlength : h.length = lengthOf b) : h.encode = b.take size := by
  have h2 : LittleEndian.toBytes 2 h.kind.tag.toUInt16.toNat = b.take 2 := by
    have hw : (b.take 2).length = 2 := List.length_take_of_le (by simp [size] at hs; omega)
    rw [htag]
    simpa [tagOf] using LittleEndian.toBytes_mod hw
  have h4 : LittleEndian.toBytes 4 h.length.toUInt32.toNat = (b.drop 2).take 4 := by
    have hw : ((b.drop 2).take 4).length = 4 :=
      List.length_take_of_le (by simp [size] at hs ⊢; omega)
    rw [hlength]
    simpa [lengthOf] using LittleEndian.toBytes_mod hw
  rw [encode, h2, h4, ← List.take_add, size]

/-- The order of the checks: the size, the tag, the sign of the length. -/
theorem decode_eq (b : Bytes) : decode b =
    if b.length < size then .error (.truncatedHeader size b.length)
    else match Kind.ofTag (tagOf b) with
      | .error e => .error e
      | .ok k =>
        if lengthOf b < 0 then .error (.negativeLength (lengthOf b)) else .ok ⟨k, lengthOf b⟩ := by
  unfold decode
  split
  · rfl
  · change Except.bind (Kind.ofTag (tagOf b)) _ = _
    cases Kind.ofTag (tagOf b) with
    | error e => rfl
    | ok k =>
      change (if lengthOf b < 0 then _ else _) = (if lengthOf b < 0 then _ else _)
      split <;> rfl

/-- What is read is the only header whose writing stands at the start. -/
theorem decode_eq_ok_iff {b : Bytes} {h : Header} :
    decode b = .ok h ↔ h.kind ≠ .empty ∧ 0 ≤ h.length ∧ ∃ t, b = h.encode ++ t := by
  constructor
  · intro hd
    rw [decode_eq] at hd
    split at hd
    · cases hd
    rename_i hlen
    split at hd
    · cases hd
    rename_i k hk
    obtain ⟨hne, htag⟩ := Kind.ofTag_eq_ok_iff.mp hk
    split at hd
    · cases hd
    rename_i hn
    cases hd
    refine ⟨hne, Int32.not_lt.mp hn, b.drop size, ?_⟩
    rw [encode_eq_take (Nat.not_lt.mp hlen) htag rfl, List.take_append_drop]
  · rintro ⟨hk, hl, t, rfl⟩
    have hlen : ¬ (h.encode ++ t).length < size := by simp
    have hof : Kind.ofTag h.kind.tag = .ok h.kind := Kind.ofTag_eq_ok_iff.mpr ⟨hk, rfl⟩
    rw [decode_eq, if_neg hlen, tagOf_encode, hof, lengthOf_encode]
    exact if_neg (Int32.not_lt.mpr hl)

end Header

/-! ## Whole values -/

theorem toInt_ofNat_of_le {n : Nat} (h : n ≤ maxLength) : (Int32.ofNat n).toInt = n :=
  Int32.toInt_ofNat_of_lt (Nat.lt_of_le_of_lt h (by decide))

namespace Value

theorem toInt_header_length {v : Value} (h : v.bodyLength ≤ maxLength) :
    v.header.length.toInt = v.bodyLength :=
  toInt_ofNat_of_le h

theorem totalLength_header {v : Value} (h : v.bodyLength ≤ maxLength) :
    v.header.totalLength = Header.size + v.bodyLength := by
  simp [Header.totalLength, toInt_header_length h]

/-- The length that is told beforehand is that of what is written. -/
theorem measure_eq (v : Value) : v.measure = v.bodyLength := by
  cases v with
  | string s => exact s.toUTF8.size_data.symm
  | bytearray b => rfl
  | _ => rfl

theorem encode?_eq_some_iff {v : Value} {e : Bytes} :
    v.encode? = some e ↔ v.bodyLength ≤ maxLength ∧ e = v.header.encode ++ v.body := by
  unfold encode?
  rw [measure_eq]
  split
  · rename_i h
    simp [h, eq_comm]
  · rename_i h
    simp [h]

theorem encode?_of_long {v : Value} (h : maxLength < v.bodyLength) : v.encode? = none := by
  unfold encode?
  rw [measure_eq, if_neg (Nat.not_le.mpr h)]

theorem header_decode_encode {v : Value} (h : v.bodyLength ≤ maxLength) (t : Bytes) :
    Header.decode (v.header.encode ++ t) = .ok v.header := by
  refine Header.decode_eq_ok_iff.mpr ⟨kind_ne_empty v, ?_, t, rfl⟩
  rw [Int32.le_iff_toInt_le, toInt_header_length h]
  exact Int.natCast_nonneg _

/-- The header, then whether the body is all there, then the body. -/
theorem decode_eq (b : Bytes) : decode b =
    match Header.decode b with
    | .error e => .error e
    | .ok h =>
      if b.length < h.totalLength then
        .error (.truncatedBody h.length.toInt.toNat (b.length - Header.size))
      else ofBody h.kind ((b.drop Header.size).take h.length.toInt.toNat) := by
  unfold decode
  cases Header.decode b with
  | error e => rfl
  | ok h =>
    change (if _ then _ else _) = (if _ then _ else _)
    split <;> rfl

/-- A value that is read out of a span has the header that announced the span. -/
theorem header_of_ofBody {h : Header} {b : Bytes} {v : Value} (hnn : 0 ≤ h.length)
    (hd : ofBody h.kind b = .ok v) (hb : b.length = h.length.toInt.toNat) :
    v.bodyLength = h.length.toInt.toNat ∧ v.header = h ∧ v.body = b := by
  obtain ⟨hk, rfl⟩ := ofBody_eq_ok_iff.mp hd
  refine ⟨hb, ?_, rfl⟩
  obtain ⟨kind, length⟩ := h
  have hl : Int32.ofNat v.bodyLength = length := by
    rw [bodyLength, hb]
    exact length.ofNat_toNatClampNeg hnn
  rw [header, hl]
  exact congrArg (Header.mk · length) hk

/-- Reading accepts what writing produces, whatever follows it, and nothing else. -/
theorem decode_eq_ok {b : Bytes} {v : Value} :
    decode b = .ok v ↔ v.bodyLength ≤ maxLength ∧ ∃ t, b = v.header.encode ++ v.body ++ t := by
  constructor
  · intro hd
    rw [decode_eq] at hd
    split at hd
    · cases hd
    rename_i h hh
    split at hd
    · cases hd
    rename_i hlen
    obtain ⟨-, hnn, r, rfl⟩ := Header.decode_eq_ok_iff.mp hh
    rw [List.drop_left' h.length_encode] at hd
    have hr : h.length.toInt.toNat ≤ r.length := by
      simp only [Header.totalLength, List.length_append, Header.length_encode] at hlen
      omega
    obtain ⟨hn, rfl, hb⟩ := header_of_ofBody hnn hd (List.length_take_of_le hr)
    refine ⟨?_, r.drop v.header.length.toInt.toNat, ?_⟩
    · have := v.header.length.toInt_lt
      rw [hn, maxLength]
      omega
    · rw [hb, List.append_assoc, List.take_append_drop]
  · rintro ⟨hl, t, rfl⟩
    have hn : v.header.length.toInt.toNat = v.body.length := by
      rw [toInt_header_length hl]
      rfl
    have hlen : ¬ (v.header.encode ++ v.body ++ t).length < v.header.totalLength := by
      simp [totalLength_header hl, bodyLength]
    rw [decode_eq, List.append_assoc, header_decode_encode hl, ← List.append_assoc]
    simp only [if_neg hlen, hn]
    rw [List.append_assoc, List.drop_left' v.header.length_encode, List.take_left' rfl]
    exact ofBody_body v

theorem header_decode_of_decode {b : Bytes} {v : Value} (h : decode b = .ok v) :
    Header.decode b = .ok v.header := by
  obtain ⟨hl, t, rfl⟩ := decode_eq_ok.mp h
  rw [List.append_assoc]
  exact header_decode_encode hl _

theorem unmarshal_eq_ok {k : Kind} {b : Bytes} {v : Value} :
    unmarshal k b = .ok v ↔ decode b = .ok v ∧ v.kind = k := by
  unfold unmarshal
  constructor
  · intro h
    cases hh : Header.decode b with
    | error e => rw [hh] at h; cases h
    | ok d =>
      rw [hh] at h
      change (if d.kind ≠ k then _ else _) = _ at h
      split at h
      · cases h
      · rename_i hk
        have hd : decode b = .ok v := h
        rw [header_decode_of_decode hd] at hh
        cases hh
        exact ⟨hd, Decidable.not_not.mp hk⟩
  · rintro ⟨hd, rfl⟩
    rw [header_decode_of_decode hd]
    change (if v.kind ≠ v.kind then _ else _) = _
    rw [if_neg (Decidable.not_not.mpr rfl)]
    exact hd

theorem take_totalLength {v : Value} (h : v.bodyLength ≤ maxLength) (t : Bytes) :
    (v.header.encode ++ v.body ++ t).take v.header.totalLength = v.header.encode ++ v.body := by
  apply List.take_left'
  simp [totalLength_header h, bodyLength]

/-- **The wire format is accepted exactly.** Bytes are read as a value if and only if they start with
its writing, and as a value of a kind if it also is of that kind. Hence reading undoes writing, writing
again what was read gives the bytes that were read, and a header announces the length of its body. -/
theorem decode_iff_encode (b : Bytes) :
    (∀ v, decode b = .ok v ↔
      v.bodyLength ≤ maxLength ∧ ∃ e t, v.encode? = some e ∧ b = e ++ t) ∧
    (∀ k v, unmarshal k b = .ok v ↔ decode b = .ok v ∧ v.kind = k) ∧
    (∀ v, v.bodyLength ≤ maxLength → ∃ e h, v.encode? = some e ∧ decode e = .ok v ∧
      Header.decode e = .ok h ∧ h.length.toInt = v.bodyLength ∧ e.length = h.totalLength) ∧
    (∀ v, decode b = .ok v →
      ∃ h, Header.decode b = .ok h ∧ v.encode? = some (b.take h.totalLength)) := by
  refine ⟨fun v => ?_, fun k v => unmarshal_eq_ok, fun v hl => ?_, fun v hd => ?_⟩
  · rw [decode_eq_ok]
    constructor
    · rintro ⟨hl, t, rfl⟩
      exact ⟨hl, _, t, encode?_eq_some_iff.mpr ⟨hl, rfl⟩, rfl⟩
    · rintro ⟨hl, e, t, he, rfl⟩
      exact ⟨hl, t, by rw [(encode?_eq_some_iff.mp he).2]⟩
  · have hd : decode (v.header.encode ++ v.body) = .ok v := decode_eq_ok.mpr ⟨hl, [], by simp⟩
    refine ⟨_, v.header, encode?_eq_some_iff.mpr ⟨hl, rfl⟩, hd, header_decode_of_decode hd,
      toInt_header_length hl, ?_⟩
    simp [totalLength_header hl, bodyLength]
  · have hh := header_decode_of_decode hd
    obtain ⟨hl, t, rfl⟩ := decode_eq_ok.mp hd
    exact ⟨v.header, hh, encode?_eq_some_iff.mpr ⟨hl, take_totalLength hl t⟩⟩

/-- A text of two bytes, with a byte behind it that belongs to something else. -/
theorem decode_iff_encode_accent :
    decode [10, 0, 2, 0, 0, 0, 0xC3, 0xA9, 7] = .ok (string "é") ∧
    (∃ h, Header.decode [10, 0, 2, 0, 0, 0, 0xC3, 0xA9, 7] = .ok h ∧
      (string "é").encode? = some (List.take h.totalLength [10, 0, 2, 0, 0, 0, 0xC3, 0xA9, 7])) ∧
    (string "é").bodyLength ≤ maxLength ∧
    ∃ e h, (string "é").encode? = some e ∧ decode e = .ok (string "é") ∧ Header.decode e = .ok h ∧
      h.length.toInt = (string "é").bodyLength ∧ e.length = h.totalLength := by
  obtain ⟨hread, -, hwrite, hagain⟩ := decode_iff_encode [10, 0, 2, 0, 0, 0, 0xC3, 0xA9, 7]
  have hl : (string "é").bodyLength ≤ maxLength := by decide
  have hd := (hread (string "é")).mpr ⟨hl, [10, 0, 2, 0, 0, 0, 0xC3, 0xA9], [7], by decide, rfl⟩
  exact ⟨hd, hagain _ hd, hl, hwrite _ hl⟩

end Value
end AspectHost
