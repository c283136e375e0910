import AspectHost.Proofs.Wire

/-! # Truncated input

Reading looks at the header and at as many bytes as the header announces, and at no others. An answer that
was found before the bytes ran out therefore stands whatever follows them (`Value.decode_append`), and
what the first bytes of a value are read as depends on nothing but their number (`Value.decode_take`). -/

namespace AspectHost

/-- The bytes ended before the header or the body did. -/
def DecodeError.Truncated : DecodeError → Prop
  | truncatedHeader _ _ | truncatedBody _ _ => True
  | _ => False

/-- The answer was found before the bytes ran out: it is a value, or a failure that is no truncation. -/
def Decided {α : Type} (r : Except DecodeError α) : Prop := ∀ e, r = .error e → ¬ e.Truncated

/-! ## Failures that are no truncations -/

theorem Kind.untruncated_of_ofTag {t : Int16} {e : DecodeError} (h : ofTag t = .error e) : ¬ e.Truncated := by
  unfold ofTag at h
  split at h <;> cases h <;> exact id

theorem Header.untruncated_of_decode {b : Bytes} {e : DecodeError} (hb : Header.size ≤ b.length)
    (h : decode b = .error e) : ¬ e.Truncated := by
  rw [decode_eq, if_neg (Nat.not_lt.mpr hb)] at h
  split at h
  · rename_i hkind
    cases h
    exact Kind.untruncated_of_ofTag hkind
  · split at h
    · cases h
      exact id
    · cases h

/-- A body of the wrong width is refused before it is looked at. -/
theorem Value.ofBody_of_width {k : Kind} {b : Bytes} {w : Nat} (hw : k.width = some w) (hb : b.length ≠ w) :
    ofBody k b = .error (.widthMismatch k.name w b.length) := by
  unfold ofBody
  rw [hw]
  simp only [if_pos hb]
  rfl

theorem Value.untruncated_of_ofBody {k : Kind} {b : Bytes} {e : DecodeError} (h : ofBody k b = .error e) :
    ¬ e.Truncated := by
  by_cases hwidth : ∃ w, k.width = some w ∧ b.length ≠ w
  · obtain ⟨w, hw, hb⟩ := hwidth
    rw [ofBody_of_width hw hb] at h
    cases h
    exact id
  · have hb : ∀ w, k.width = some w → b.length = w :=
      fun w hw => Decidable.not_not.mp fun hne => hwidth ⟨w, hw, hne⟩
    cases k with
    | empty =>
      cases h
      exact id
    | bytearray => cases h
    | string =>
      simp only [ofBody, Kind.width] at h
      split at h <;> cases h
      exact id
    | bool =>
      have hbool : boolOfByte (UInt8.ofNat (LittleEndian.ofBytes b)) = .error e := by
        simpa [ofBody, Kind.width, hb 1 rfl] using h
      unfold boolOfByte at hbool
      split at hbool
      · cases hbool
      · split at hbool <;> cases hbool
        exact id
    | _ =>
      -- the eight kinds of integers take any body of their width
      simp only [ofBody, Kind.width, hb _ rfl, ne_eq, not_true_eq_false, if_false] at h
      cases h

/-! ## What follows is not looked at -/

theorem Header.decode_of_short {b : Bytes} (h : b.length < size) :
    decode b = .error (.truncatedHeader size b.length) := by
  rw [decode_eq, if_pos h]

theorem Header.decode_append {b : Bytes} (h : size ≤ b.length) (t : Bytes) : decode (b ++ t) = decode b := by
  have htag : tagOf (b ++ t) = tagOf b := by
    unfold tagOf
    rw [List.take_append_of_le_length (by unfold size at h; omega)]
  have hlength : lengthOf (b ++ t) = lengthOf b := by
    unfold lengthOf
    rw [List.drop_append_of_le_length (by unfold size at h; omega), List.take_append_of_le_length]
    unfold size at h
    rw [List.length_drop]
    omega
  have hlong : ¬ (b ++ t).length < size := by
    rw [List.length_append]
    omega
  rw [decode_eq, decode_eq, if_neg hlong, if_neg (Nat.not_lt.mpr h), htag, hlength]

namespace Value

variable {b : Bytes} {v : Value}

theorem decode_of_short (h : b.length < Header.size) :
    decode b = .error (.truncatedHeader Header.size b.length) := by
  rw [decode_eq, Header.decode_of_short h]

/-- The header's kind is judged before anything that follows the header. -/
theorem unmarshal_eq (k : Kind) (b : Bytes) : unmarshal k b =
    match Header.decode b with
    | .error e => .error e
    | .ok h => if h.kind = k then decode b else .error (.kindMismatch k.name h.kind.name) := by
  unfold unmarshal
  cases Header.decode b with
  | error e => rfl
  | ok h =>
    change (if h.kind ≠ k then _ else _) = _
    rw [ite_not]
    rfl

theorem size_le_of_decided (h : Decided (decode b)) : Header.size ≤ b.length := by
  by_contra hshort
  exact h _ (decode_of_short (Nat.not_le.mp hshort)) trivial

/-- An answer that was found before the bytes ran out stands whatever follows them. -/
theorem decode_append (hb : Decided (decode b)) (t : Bytes) : decode (b ++ t) = decode b := by
  have hsame := Header.decode_append (size_le_of_decided hb) t
  rw [decode_eq] at hb
  rw [decode_eq, decode_eq, hsame]
  cases hd : Header.decode b with
  | error e => rfl
  | ok h =>
    rw [hd] at hb
    dsimp only at hb ⊢
    -- were the body not all there, that would have been the answer
    have hwhole : ¬ b.length < h.totalLength := by
      intro hcut
      rw [if_pos hcut] at hb
      exact hb _ rfl trivial
    have hlonger : ¬ (b ++ t).length < h.totalLength := by
      rw [List.length_append]
      omega
    have hbody : ((b ++ t).drop Header.size).take h.length.toInt.toNat =
        (b.drop Header.size).take h.length.toInt.toNat := by
      unfold Header.totalLength at hwhole
      rw [List.drop_append_of_le_length (by omega), List.take_append_of_le_length]
      rw [List.length_drop]
      omega
    rw [if_neg hwhole, if_neg hlonger, hbody]

theorem unmarshal_append {k : Kind} (hb : Decided (unmarshal k b)) (t : Bytes) :
    unmarshal k (b ++ t) = unmarshal k b := by
  have hsize : Header.size ≤ b.length := by
    by_contra hshort
    refine hb _ ?_ (show (DecodeError.truncatedHeader Header.size b.length).Truncated from trivial)
    rw [unmarshal_eq, Header.decode_of_short (Nat.not_le.mp hshort)]
  have hsame := Header.decode_append hsize t
  rw [unmarshal_eq] at hb
  rw [unmarshal_eq, unmarshal_eq, hsame]
  cases hd : Header.decode b with
  | error e => rfl
  | ok h =>
    rw [hd] at hb
    dsimp only at hb ⊢
    by_cases hk : h.kind = k
    · rw [if_pos hk] at hb
      rw [if_pos hk, if_pos hk, decode_append hb]
    · rw [if_neg hk, if_neg hk]

/-! ## The first bytes of a value -/

/-- What the first `k` bytes of `v` are read as, where the writing of `v` has `total` bytes. -/
def ofFirst (v : Value) (total k : Nat) : Except DecodeError Value :=
  if total ≤ k then .ok v
  else if Header.size ≤ k then .error (.truncatedBody (total - Header.size) (k - Header.size))
  else .error (.truncatedHeader Header.size k)

theorem length_writing (hl : v.bodyLength ≤ maxLength) :
    (v.header.encode ++ v.body).length = v.header.totalLength := by
  simp [totalLength_header hl, bodyLength]

/-- Once the header is all there it is read as the value's header. -/
theorem header_decode_take {t : Bytes} {k : Nat} (hl : v.bodyLength ≤ maxLength) (hk : Header.size ≤ k) :
    Header.decode ((v.header.encode ++ v.body ++ t).take k) = .ok v.header := by
  have hle : v.header.encode.length ≤ k := by simpa using hk
  rw [List.append_assoc, List.take_append, List.take_of_length_le hle]
  exact header_decode_encode hl _

/-- How much of a value is there decides what is read. -/
theorem decode_take (h : decode b = .ok v) (k : Nat) :
    decode (b.take k) = v.ofFirst v.header.totalLength k := by
  obtain ⟨hl, t, rfl⟩ := decode_eq_ok.mp h
  have hbytes : (v.header.encode ++ v.body ++ t).length = v.header.totalLength + t.length := by
    rw [List.length_append, length_writing hl]
  unfold ofFirst
  split
  case isTrue hall =>
    have hwhole : (v.header.encode ++ v.body).length ≤ k := length_writing hl ▸ hall
    refine decode_eq_ok.mpr ⟨hl, t.take (k - (v.header.encode ++ v.body).length), ?_⟩
    rw [List.take_append, List.take_of_length_le hwhole]
  case isFalse hcut =>
    have hlen : ((v.header.encode ++ v.body ++ t).take k).length = k :=
      List.length_take_of_le (by omega)
    split
    case isTrue hk =>
      have hexpected : v.header.totalLength - Header.size = v.header.length.toInt.toNat :=
        Nat.add_sub_cancel_left _ _
      rw [decode_eq, header_decode_take hl hk]
      dsimp only
      rw [hlen, if_pos (Nat.not_le.mp hcut), hexpected]
    case isFalse hk =>
      rw [decode_of_short (by omega), hlen]

/-- To ask for the kind of the value makes no difference, since a cut header is refused either way. -/
theorem unmarshal_take (h : decode b = .ok v) (k : Nat) :
    unmarshal v.kind (b.take k) = decode (b.take k) := by
  obtain ⟨hl, t, rfl⟩ := decode_eq_ok.mp h
  by_cases hk : Header.size ≤ k
  · rw [unmarshal_eq, header_decode_take hl hk]
    exact if_pos rfl
  · have hshort : ((v.header.encode ++ v.body ++ t).take k).length < Header.size :=
      Nat.lt_of_le_of_lt (List.length_take_le _ _) (Nat.not_le.mp hk)
    rw [unmarshal_eq, Header.decode_of_short hshort, decode_of_short hshort]

/-- **Reading is local.** What is read without running out of bytes, be it a value or a failure, is read
the same whatever follows. Of the bytes of a value, as many as its writing has are enough to read it, and
fewer are refused with the number of bytes that are there of what is cut: of the body if the header is all
there, else of the header. -/
theorem decode_local (b : Bytes) :
    (∀ t, Decided (decode b) → decode (b ++ t) = decode b) ∧
    (∀ k t, Decided (unmarshal k b) → unmarshal k (b ++ t) = unmarshal k b) ∧
    ∀ v, decode b = .ok v → ∃ e, v.encode? = some e ∧ ∀ k,
      decode (b.take k) = v.ofFirst e.length k ∧ unmarshal v.kind (b.take k) = v.ofFirst e.length k := by
  refine ⟨fun t hb => decode_append hb t, fun k t hb => unmarshal_append hb t, fun v h => ?_⟩
  obtain ⟨hl, -⟩ := decode_eq_ok.mp h
  refine ⟨_, encode?_eq_some_iff.mpr ⟨hl, rfl⟩, fun k => ?_⟩
  rw [length_writing hl, unmarshal_take h]
  exact ⟨decode_take h k, decode_take h k⟩

/-- A text of two bytes, cut inside its body and inside its header; and a truth value that is none, which
bytes behind it do not mend. -/
theorem decode_local_accent :
    decode [10, 0, 2, 0, 0, 0, 0xC3, 0xA9, 7] = .ok (string "é") ∧
    decode (List.take 7 [10, 0, 2, 0, 0, 0, 0xC3, 0xA9, 7]) = .error (.truncatedBody 2 1) ∧
    unmarshal .string (List.take 5 [10, 0, 2, 0, 0, 0, 0xC3, 0xA9, 7]) = .error (.truncatedHeader 6 5) ∧
    Decided (decode [9, 0, 1, 0, 0, 0, 2]) ∧
    (∀ t, decode ([9, 0, 1, 0, 0, 0, 2] ++ t) = .error (.invalidBool 2)) ∧
    ∀ t, unmarshal .bool ([9, 0, 1, 0, 0, 0, 2] ++ t) = .error (.invalidBool 2) := by
  have hread : decode [10, 0, 2, 0, 0, 0, 0xC3, 0xA9, 7] = .ok (string "é") :=
    decode_eq_ok.mpr ⟨by decide, [7], by decide⟩
  have hrefused : decode [9, 0, 1, 0, 0, 0, 2] = .error (.invalidBool 2) := rfl
  have hasked : unmarshal .bool [9, 0, 1, 0, 0, 0, 2] = .error (.invalidBool 2) := rfl
  have hdecided : ∀ {r : Except DecodeError Value}, r = .error (.invalidBool 2) → Decided r := by
    rintro _ rfl e he
    cases he
    exact id
  obtain ⟨-, -, hfirst⟩ := decode_local [10, 0, 2, 0, 0, 0, 0xC3, 0xA9, 7]
  obtain ⟨hvalue, hkind, -⟩ := decode_local [9, 0, 1, 0, 0, 0, 2]
  obtain ⟨e, he, hcut⟩ := hfirst _ hread
  have hlength : e.length = 8 := by
    rw [(encode?_eq_some_iff.mp he).2]
    decide
  rw [hlength] at hcut
  exact ⟨hread, (hcut 7).1, (hcut 5).2, hdecided hrefused,
    fun t => (hvalue t (hdecided hrefused)).trans hrefused,
    fun t => (hkind .bool t (hdecided hasked)).trans hasked⟩

end Value
end AspectHost
