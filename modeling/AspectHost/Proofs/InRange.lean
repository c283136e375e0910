import AspectHost.Proofs.Linked
import AspectHost.Proofs.Truncation

/-! # No access is out of range

What the guest controls is bytes, pointers and sizes. A `Strict` computation on them breaks off where an
index or a span reaches beyond the bytes, and where a number is none of the type that it is taken for.
Reading and writing so does not break off, and answers what it answers without such checks, since every
access stands behind a test (`Linked.access_in_range`). -/

namespace AspectHost

/-- A computation that breaks off at the first access that is out of range. -/
abbrev Strict (ε α : Type) := Except (Stop ε) α

namespace Strict

variable {ε ε' α β : Type}

def fail (e : ε) : Strict ε α := .error (.error e)

/-- A computation without accesses. -/
def ofExcept : Except ε α → Strict ε α
  | .ok a => .ok a
  | .error e => fail e

def mapError (f : ε → ε') : Strict ε α → Strict ε' α
  | .ok a => .ok a
  | .error e => .error (e.map f)

/-! ## Accesses and conversions -/

def byte (b : Bytes) (i : Nat) : Strict ε UInt8 :=
  match b[i]? with
  | some x => .ok x
  | none => .error .panic

/-- The bytes from `start` up to `stop`. -/
def slice (b : Bytes) (start stop : Nat) : Strict ε Bytes :=
  if start ≤ stop ∧ stop ≤ b.length then .ok ((b.drop start).take (stop - start)) else .error .panic

/-- `d` in the place of as many bytes from `start` on. -/
def overwrite (b : Bytes) (start : Nat) (d : Bytes) : Strict ε Bytes :=
  if start + d.length ≤ b.length then .ok (Buffer.splice b start d) else .error .panic

/-- The number in the first bytes. -/
def number (width : Nat) (b : Bytes) : Strict ε Nat := LittleEndian.ofBytes <$> slice b 0 width

def sub (a b : Nat) : Strict ε Nat := if b ≤ a then .ok (a - b) else .error .panic

/-- A number as an unsigned word of 64 bits. -/
def unsigned (n : Int) : Strict ε Nat := if 0 ≤ n ∧ n ≤ 0xFFFFFFFFFFFFFFFF then .ok n.toNat else .error .panic

/-- A number as a signed word of 64 bits. -/
def signed (n : Nat) : Strict ε Int64 := if n ≤ Word.max then .ok (Int64.ofNat n) else .error .panic

/-! ## Reading values -/

def header (b : Bytes) : Strict DecodeError Header :=
  if b.length < Header.size then fail (.truncatedHeader Header.size b.length)
  else do
    let tag ← number 2 (← slice b 0 2)
    let kind ← ofExcept (Kind.ofTag (UInt16.ofNat tag).toInt16)
    let length ← (fun n => (UInt32.ofNat n).toInt32) <$> number 4 (← slice b 2 Header.size)
    if length < 0 then fail (.negativeLength length) else return ⟨kind, length⟩

def totalLength (h : Header) : Strict ε Nat := do unsigned (Header.size + (← unsigned h.length.toInt))

/-- The value in a body of the right width. -/
def content (k : Kind) (b : Bytes) : Strict DecodeError Value :=
  match k with
  | .int8 => (fun x => .int8 x.toInt8) <$> byte b 0
  | .int16 => (fun n => .int16 (UInt16.ofNat n).toInt16) <$> number 2 b
  | .int32 => (fun n => .int32 (UInt32.ofNat n).toInt32) <$> number 4 b
  | .int64 => (fun n => .int64 (UInt64.ofNat n).toInt64) <$> number 8 b
  | .uint8 => .uint8 <$> byte b 0
  | .uint16 => (fun n => .uint16 (UInt16.ofNat n)) <$> number 2 b
  | .uint32 => (fun n => .uint32 (UInt32.ofNat n)) <$> number 4 b
  | .uint64 => (fun n => .uint64 (UInt64.ofNat n)) <$> number 8 b
  | .bool => do ofExcept (Value.boolOfByte (← byte b 0))
  | .string =>
    match Value.ofUtf8? b with
    | some s => .ok (.string s)
    | none => fail .invalidUtf8
  | .bytearray => .ok (.bytearray b)
  | .empty => fail (.unknownKind k.tag)

def ofBody (k : Kind) (b : Bytes) : Strict DecodeError Value :=
  match k.width with
  | some w => if b.length ≠ w then fail (.widthMismatch k.name w b.length) else content k b
  | none => content k b

def decode (b : Bytes) : Strict DecodeError Value := do
  let h ← header b
  let total ← totalLength h
  if b.length < total then
    fail (.truncatedBody (← unsigned h.length.toInt) (← sub b.length Header.size))
  else ofBody h.kind (← slice b Header.size total)

def unmarshal (k : Kind) (b : Bytes) : Strict DecodeError Value := do
  let h ← header b
  if h.kind ≠ k then fail (.kindMismatch k.name h.kind.name) else decode b

/-! ## Reading and writing memory -/

def checkBounds (ptr size : Int64) (memorySize : Nat) : Strict MemoryError Nat :=
  if ptr < 0 ∨ size < 0 then fail (.outOfBounds ptr size memorySize)
  else match Checked.add? ptr size with
    | some last => do
      if (← unsigned last.toInt) ≤ memorySize then unsigned ptr.toInt
      else fail (.outOfBounds ptr size memorySize)
    | none => fail (.outOfBounds ptr size memorySize)

section
variable {σ : Type} (bytes : σ → Except MemoryError Bytes)

def read (p : Pointer) (n : Int32) (s : σ) : Strict MemoryError Bytes := do
  let b ← ofExcept (bytes s)
  let start ← checkBounds p.toInt64 n.toInt64 b.length
  slice b start (start + (← unsigned n.toInt))

/-- The bytes of the memory once `d` is written. -/
def write (p : Pointer) (d : Bytes) (s : σ) : Strict MemoryError Bytes := do
  let b ← ofExcept (bytes s)
  let start ← checkBounds p.toInt64 (← signed d.length) b.length
  overwrite b start d

def readHeader (p : Pointer) (s : σ) : Strict HostError Header := do
  let b ← mapError .memory (read bytes p (Int32.ofNat Header.size) s)
  mapError .decode (header b)

def readValue (p : Pointer) (s : σ) : Strict HostError (Value × Nat) := do
  let h ← readHeader bytes p s
  let total ← totalLength h
  if maxLength < total then
    let memorySize := match bytes s with
      | .ok b => b.length
      | .error _ => 0
    fail (.memory (.outOfBounds p.toInt64 (← signed total) memorySize))
  else do
    let b ← mapError .memory (read bytes p (Int32.ofNat total) s)
    let v ← mapError .decode (decode b)
    return (v, ← unsigned h.length.toInt)

end

/-- The strict computation does not break off, and ends as the plain one does. -/
structure InRange (strict : Strict ε α) (plain : Except ε α) : Prop where
  unbroken : strict ≠ .error .panic
  same : strict = ofExcept plain

theorem inRange_of_eq {strict : Strict ε α} {plain : Except ε α} (h : strict = ofExcept plain) :
    InRange strict plain := by
  refine ⟨?_, h⟩
  rw [h]
  cases plain <;> exact fun h => by cases h

theorem ok_bind (a : α) (f : α → Strict ε β) : ((.ok a : Strict ε α) >>= f) = f a := rfl

/-- Steps that agree one by one agree as a whole. -/
theorem bind_eq {x : Except ε α} {f : α → Strict ε β} {g : α → Except ε β}
    (h : ∀ a, x = .ok a → f a = ofExcept (g a)) : (ofExcept x >>= f) = ofExcept (x >>= g) := by
  cases x with
  | error e => rfl
  | ok a => exact h a rfl

theorem mapError_ofExcept (f : ε → ε') (x : Except ε α) :
    mapError f (ofExcept x) = ofExcept (x.mapError f) := by
  cases x <;> rfl

/-! ## Accesses that are in range -/

theorem slice_of_le {b : Bytes} {start stop : Nat} (h : start ≤ stop) (hb : stop ≤ b.length) :
    (slice b start stop : Strict ε Bytes) = .ok ((b.drop start).take (stop - start)) := if_pos ⟨h, hb⟩

theorem number_of_le {b : Bytes} {w : Nat} (h : w ≤ b.length) :
    (number w b : Strict ε Nat) = .ok (LittleEndian.ofBytes (b.take w)) := by
  unfold number
  rw [slice_of_le (Nat.zero_le w) h]
  rfl

theorem unsigned_of_nonneg {n : Int} (h0 : 0 ≤ n) (h : n ≤ 0xFFFFFFFFFFFFFFFF) :
    (unsigned n : Strict ε Nat) = .ok n.toNat := by
  unfold unsigned
  rw [if_pos ⟨h0, h⟩]

theorem signed_of_le {n : Nat} (h : n ≤ Word.max) :
    (signed n : Strict ε Int64) = .ok (Int64.ofNat n) := if_pos h

/-- The first of a single byte is the number that it holds. -/
theorem byte_of_length {b : Bytes} (h : b.length = 1) :
    (byte b 0 : Strict ε UInt8) = .ok (UInt8.ofNat (LittleEndian.ofBytes b)) := by
  obtain ⟨x, rfl⟩ := List.length_eq_one_iff.mp h
  simp [byte, LittleEndian.ofBytes]

theorem number_of_length {b : Bytes} {w : Nat} (h : b.length = w) :
    (number w b : Strict ε Nat) = .ok (LittleEndian.ofBytes b) := by
  rw [number_of_le h.ge, List.take_of_length_le h.le]

/-! ## Reading values stays in range -/

theorem header_eq (b : Bytes) : header b = ofExcept (Header.decode b) := by
  unfold header
  rw [Header.decode_eq]
  by_cases hb : b.length < Header.size
  · rw [if_pos hb, if_pos hb]
    rfl
  · have hsize : 6 ≤ b.length := Nat.not_lt.mp hb
    have htag : (b.take 2).length = 2 := List.length_take_of_le (by omega)
    have hlength : ((b.drop 2).take 4).length = 4 :=
      List.length_take_of_le (by rw [List.length_drop]; omega)
    have hfirst : (slice b 0 2 : Strict DecodeError Bytes) = .ok (b.take 2) :=
      slice_of_le (by omega) (by omega)
    have hsecond : (slice b 2 Header.size : Strict DecodeError Bytes) = .ok ((b.drop 2).take 4) :=
      slice_of_le (by decide) hsize
    rw [if_neg hb, if_neg hb]
    simp only [hfirst, hsecond, ok_bind, number_of_length htag, number_of_length hlength]
    change (ofExcept (Kind.ofTag (Header.tagOf b)) >>= _) = _
    cases Kind.ofTag (Header.tagOf b) with
    | error e => rfl
    | ok k =>
      change (if Header.lengthOf b < 0 then _ else _) = ofExcept (if Header.lengthOf b < 0 then _ else _)
      split <;> rfl

theorem nonneg_of_decode {b : Bytes} {h : Header} (hd : Header.decode b = .ok h) : 0 ≤ h.length.toInt := by
  obtain ⟨-, hnn, -⟩ := Header.decode_eq_ok_iff.mp hd
  exact Int32.le_iff_toInt_le.mp hnn

theorem unsigned_length {h : Header} (hnn : 0 ≤ h.length.toInt) :
    (unsigned h.length.toInt : Strict ε Nat) = .ok h.length.toInt.toNat :=
  unsigned_of_nonneg hnn (by have := h.length.toInt_lt; omega)

theorem totalLength_of_nonneg {h : Header} (hnn : 0 ≤ h.length.toInt) :
    (totalLength h : Strict ε Nat) = .ok h.totalLength := by
  unfold totalLength
  rw [unsigned_length hnn]
  refine unsigned_of_nonneg (by omega) ?_
  have := h.length.toInt_lt
  unfold Header.size
  omega

/-- A body of the right width has the bytes that its kind looks at. -/
theorem content_eq {k : Kind} {b : Bytes} (hb : ∀ w, k.width = some w → b.length = w) :
    content k b = ofExcept (Value.ofBody k b) := by
  cases k with
  | empty | bytearray => rfl
  | string =>
    simp only [content, Value.ofBody, Kind.width]
    cases Value.ofUtf8? b <;> rfl
  | bool =>
    simp only [content, Value.ofBody, Kind.width, byte_of_length (hb 1 rfl), hb 1 rfl, ne_eq, not_true_eq_false,
      if_false]
    rfl
  | int8 | uint8 =>
    simp only [content, Value.ofBody, Kind.width, byte_of_length (hb 1 rfl), hb 1 rfl, ne_eq, not_true_eq_false,
      if_false]
    rfl
  | _ =>
    simp only [content, Value.ofBody, Kind.width, number_of_length (hb _ rfl), hb _ rfl, ne_eq,
      not_true_eq_false, if_false]
    rfl

theorem ofBody_eq (k : Kind) (b : Bytes) : ofBody k b = ofExcept (Value.ofBody k b) := by
  unfold ofBody
  cases hw : k.width with
  | none => exact content_eq fun w h => by rw [hw] at h; cases h
  | some w =>
    by_cases hb : b.length = w
    · refine (if_neg (not_not.mpr hb)).trans (content_eq fun w' h => ?_)
      rw [hw] at h
      exact hb.trans (Option.some.inj h)
    · rw [Value.ofBody_of_width hw hb]
      exact if_pos hb

/-- A byte that is no number of two. The test of the width keeps it from being read as one. -/
example : content .int16 [7] = .error .panic ∧ ofBody .int16 [7] = fail (.widthMismatch "int16" 2 1) := by
  decide

theorem decode_eq (b : Bytes) : decode b = ofExcept (Value.decode b) := by
  unfold decode
  rw [header_eq, Value.decode_eq]
  cases hd : Header.decode b with
  | error e => rfl
  | ok h =>
    have hnn := nonneg_of_decode hd
    have hsize : Header.size ≤ b.length := by
      by_contra hshort
      rw [Header.decode_of_short (Nat.not_le.mp hshort)] at hd
      cases hd
    change Except.bind (totalLength h) _ = _
    rw [totalLength_of_nonneg hnn]
    change (if b.length < h.totalLength then _ else _) = ofExcept (if b.length < h.totalLength then _ else _)
    by_cases hcut : b.length < h.totalLength
    · have hsub : (sub b.length Header.size : Strict DecodeError Nat) = .ok (b.length - Header.size) :=
        if_pos hsize
      rw [if_pos hcut, if_pos hcut, unsigned_length hnn, hsub]
      rfl
    · have hspan : h.totalLength - Header.size = h.length.toInt.toNat := Nat.add_sub_cancel_left _ _
      have hwhole : (slice b Header.size h.totalLength : Strict DecodeError Bytes) =
          .ok ((b.drop Header.size).take h.length.toInt.toNat) :=
        hspan ▸ slice_of_le (Nat.le_add_right _ _) (Nat.not_lt.mp hcut)
      rw [if_neg hcut, if_neg hcut, hwhole]
      exact ofBody_eq _ _

theorem unmarshal_eq (k : Kind) (b : Bytes) : unmarshal k b = ofExcept (Value.unmarshal k b) := by
  unfold unmarshal
  rw [header_eq, Value.unmarshal_eq]
  cases Header.decode b with
  | error e => rfl
  | ok h =>
    change (if h.kind ≠ k then _ else _) = ofExcept (if h.kind = k then _ else _)
    by_cases hk : h.kind = k
    · rw [if_neg (not_not.mpr hk), if_pos hk]
      exact decode_eq b
    · rw [if_pos hk, if_neg hk]
      rfl

/-! ## Memory access stays in range -/

theorem checkBounds_eq (ptr size : Int64) (n : Nat) :
    checkBounds ptr size n = ofExcept (AspectHost.checkBounds ptr size n) := by
  unfold checkBounds AspectHost.checkBounds
  by_cases hneg : ptr < 0 ∨ size < 0
  · rw [if_pos hneg, if_pos hneg]
    rfl
  · rw [if_neg hneg, if_neg hneg]
    simp only [Word.neg_iff] at hneg
    have hword : ∀ w : Int64, 0 ≤ w.toInt →
        (unsigned w.toInt : Strict MemoryError Nat) = .ok w.toInt.toNat := by
      intro w hw
      have := w.toInt_lt
      exact unsigned_of_nonneg hw (by omega)
    cases hs : Checked.add? ptr size with
    | none => rfl
    | some last =>
      -- the sum of what is not negative is not negative
      have hlast := Checked.add?_eq_some_iff.mp hs
      dsimp only
      rw [hword last (by omega), hword ptr (by omega)]
      change (if last.toInt.toNat ≤ n then _ else _) = ofExcept (if last.toInt.toNat ≤ n then _ else _)
      split <;> rfl

variable {σ : Type} {m : GuestMemory σ} {bytes : σ → Except MemoryError Bytes}

/-- A span that is inside the bounds is in range. -/
theorem read_eq (hm : m.Flat bytes) (p : Pointer) (n : Int32) (s : σ) :
    read bytes p n s = ofExcept (m.read p n s) := by
  rw [hm.read]
  refine bind_eq fun b _ => ?_
  rw [checkBounds_eq]
  refine bind_eq fun start hstart => ?_
  obtain ⟨hp, hn, hspan, rfl⟩ := checkBounds_eq_ok_iff.mp hstart
  rw [Int32.toInt_toInt64] at hp hn hspan ⊢
  rw [Int32.toInt_toInt64] at hspan
  have hlt := n.toInt_lt
  rw [unsigned_of_nonneg hn (by omega), ok_bind, slice_of_le (Nat.le_add_right _ _) (by omega),
    Nat.add_sub_cancel_left]
  rfl

/-- What is written is in range too: no byte string is longer than the largest signed word. -/
theorem write_eq (hm : m.Flat bytes) (p : Pointer) {d : Bytes} (hd : d.length ≤ Word.max) (s : σ) :
    write bytes p d s = ofExcept (m.write p d s >>= bytes) := by
  have hwrite : (m.write p d s >>= bytes) = (do
      let b ← bytes s
      let start ← AspectHost.checkBounds p.toInt64 (Int64.ofNat d.length) b.length
      return Buffer.splice b start d) := by
    have hflat := congrArg (· >>= id) (hm.write p d s)
    simp only [bind_assoc, bind_map_left] at hflat
    exact hflat
  rw [hwrite]
  refine bind_eq fun b _ => ?_
  rw [signed_of_le hd, ok_bind, checkBounds_eq]
  refine bind_eq fun start hstart => ?_
  obtain ⟨hp, -, hspan, rfl⟩ := checkBounds_eq_ok_iff.mp hstart
  rw [Word.toInt_ofNat hd] at hspan
  exact if_pos (by omega)

theorem readHeader_eq (hm : m.Flat bytes) (p : Pointer) (s : σ) :
    readHeader bytes p s = ofExcept (m.readHeader p s) := by
  unfold readHeader
  rw [read_eq hm, mapError_ofExcept]
  refine bind_eq fun b _ => ?_
  rw [header_eq, mapError_ofExcept]

theorem nonneg_of_readHeader {p : Pointer} {s : σ} {h : Header} (hh : m.readHeader p s = .ok h) :
    0 ≤ h.length.toInt := by
  obtain ⟨b, -, hb⟩ := bind_eq_ok.mp hh
  cases hd : Header.decode b <;> rw [hd] at hb <;> cases hb
  exact nonneg_of_decode hd

theorem readValue_eq (hm : m.Flat bytes) (p : Pointer) (s : σ) :
    readValue bytes p s = ofExcept (m.readValue p s) := by
  unfold readValue
  rw [readHeader_eq hm, GuestMemory.readValue_eq]
  cases hh : m.readHeader p s with
  | error e => rfl
  | ok h =>
    have hnn := nonneg_of_readHeader hh
    have htotal : (h.totalLength : Int) ≤ Word.max := by
      have := h.length.toInt_lt
      unfold Header.totalLength Header.size Word.max
      omega
    simp only [ofExcept, ok_bind, totalLength_of_nonneg hnn, signed_of_le htotal, unsigned_length hnn,
      read_eq hm]
    split
    · rw [hm.size]
      cases bytes s <;> rfl
    · cases m.read p (Int32.ofNat h.totalLength) s with
      | error e => rfl
      | ok b =>
        simp only [ofExcept, mapError, ok_bind, decode_eq]
        cases Value.decode b <;> rfl

end Strict

/-- **No access is out of range.** Whatever bytes a value, a header or a body is read from, and at
whatever pointer memory is read or written, whatever it holds: each access is in range. A span is let pass
if it starts in the memory and ends there, over the integers. -/
theorem Linked.access_in_range (L : Linked) :
    (∀ b, Strict.InRange (Strict.header b) (Header.decode b)) ∧
    (∀ k b, Strict.InRange (Strict.ofBody k b) (Value.ofBody k b)) ∧
    (∀ b, Strict.InRange (Strict.decode b) (Value.decode b)) ∧
    (∀ k b, Strict.InRange (Strict.unmarshal k b) (Value.unmarshal k b)) ∧
    (∀ ptr size n, Strict.InRange (Strict.checkBounds ptr size n) (checkBounds ptr size n)) ∧
    (∀ p n s, Strict.InRange (Strict.read L.bytes p n s) (L.memory.read p n s)) ∧
    (∀ p (d : Bytes) s, d.length ≤ Word.max →
      Strict.InRange (Strict.write L.bytes p d s) (L.memory.write p d s >>= L.bytes)) ∧
    (∀ p s, Strict.InRange (Strict.readHeader L.bytes p s) (L.memory.readHeader p s)) ∧
    (∀ p s, Strict.InRange (Strict.readValue L.bytes p s) (L.memory.readValue p s)) ∧
    ∀ (ptr size : Int64) (n start : Nat), checkBounds ptr size n = .ok start ↔
      0 ≤ ptr.toInt ∧ 0 ≤ size.toInt ∧ ptr.toInt + size.toInt ≤ min (n : Int) Word.max ∧
        start = ptr.toInt.toNat := by
  have hm := L.memory_flat
  exact ⟨fun b => Strict.inRange_of_eq (Strict.header_eq b),
    fun k b => Strict.inRange_of_eq (Strict.ofBody_eq k b),
    fun b => Strict.inRange_of_eq (Strict.decode_eq b),
    fun k b => Strict.inRange_of_eq (Strict.unmarshal_eq k b),
    fun ptr size n => Strict.inRange_of_eq (Strict.checkBounds_eq ptr size n),
    fun p n s => Strict.inRange_of_eq (Strict.read_eq hm p n s),
    fun p _ s hd => Strict.inRange_of_eq (Strict.write_eq hm p hd s),
    fun p s => Strict.inRange_of_eq (Strict.readHeader_eq hm p s),
    fun p s => Strict.inRange_of_eq (Strict.readValue_eq hm p s),
    fun _ _ _ _ => checkBounds_eq_ok_iff⟩

/-- Guest code with nothing but a memory. -/
def Linked.memoryOnly : Linked where
  module := { exports := [⟨"memory", .memory, 0⟩] }
  program := ⟨#[], #[], 0, #[], false⟩
  imports := []
  config := {}
  ready := true

/-- Two bytes at the edge of a memory of four, and one byte further. -/
theorem Linked.access_in_range_edge :
    ([5, 6] : Bytes).length ≤ Word.max ∧
    Strict.write Linked.memoryOnly.bytes 2 [5, 6] { memory := ⟨#[1, 2, 3, 4]⟩ } = .ok [1, 2, 5, 6] ∧
    Strict.write Linked.memoryOnly.bytes 3 [5, 6] { memory := ⟨#[1, 2, 3, 4]⟩ } =
      .error (.error (.outOfBounds 3 2 4)) ∧
    checkBounds 2 2 4 = .ok 2 := by
  obtain ⟨-, -, -, -, -, -, hwrite, -, -, hbounds⟩ := access_in_range memoryOnly
  have hlen : ([5, 6] : Bytes).length ≤ Word.max := by decide
  refine ⟨hlen, ?_, ?_, (hbounds 2 2 4 2).mpr (by decide)⟩
  · rw [(hwrite 2 [5, 6] _ hlen).same]
    rfl
  · rw [(hwrite 3 [5, 6] _ hlen).same]
    rfl

end AspectHost
