import AspectHost.Proofs.Arguments
import AspectHost.Proofs.Memory.Reading

/-! # Typed values are written beside each other

A buffer writes a value exactly where its allocator says, or nowhere (`Buffer.writeValue_of_answer`). When the
allocator hands out one span after the other, the spans of all values that found room are apart, and each
write leaves the earlier ones alone. `Stacked` says this of the buffer after any number of writes; one more
write keeps it, whether there is room or not. -/

namespace AspectHost

/-! ## Values at their places -/

/-- A value and the pointer at which it was written. -/
structure Placement where
  pointer : Pointer
  value : Value

namespace Placement

/-- The bytes that the value takes up. -/
def size (e : Placement) : Nat := Header.size + e.value.bodyLength

/-- The byte at that index is in the value's span. -/
def Covers (e : Placement) (i : Nat) : Prop :=
  e.pointer.toInt.toNat ≤ i ∧ i < e.pointer.toInt.toNat + e.size

/-- No byte is in both spans. -/
def Apart (e e' : Placement) : Prop := AspectHost.Apart e.pointer e.size e'.pointer e'.size

end Placement

namespace Guest

variable {γ : Type} (G : Guest γ)

/-- Writes the values one after the other, also after one that could not be written, and tells of each where
it was placed or why it was not. -/
def writeEach : List Value → World γ → List (Except (Stop HostError) Placement) × World γ
  | [], w => ([], w)
  | v :: vs, w =>
    let r := G.writeValue v w
    let (ends, w') := writeEach vs (Act.finalState r)
    ((Placement.mk · v) <$> Act.outcome r :: ends, w')

/-- What was placed while the values were written. -/
def placements (vs : List Value) (w : World γ) : List Placement :=
  (G.writeEach vs w).1.filterMap Except.toOption

variable {G} {v : Value} {vs : List Value} {w w' : World γ}

theorem placements_of_ok {p : Pointer} (h : G.writeValue v w = .ok p w') :
    G.placements (v :: vs) w = ⟨p, v⟩ :: G.placements vs w' := by
  simp only [placements, writeEach, h]
  rfl

theorem placements_of_error {e : Stop HostError} (h : G.writeValue v w = .error e w') :
    G.placements (v :: vs) w = G.placements vs w' := by
  simp only [placements, writeEach, h]
  rfl

end Guest

/-! ## One value -/

namespace Guest

variable {γ : Type} {G : Guest γ} {v : Value} {w w' : World γ} {p : Pointer}

/-- A value that is too long for the allocator to be told its size is refused before that. -/
theorem writeValue_of_long (hbody : v.bodyLength ≤ maxLength)
    (hlong : maxLength < Header.size + v.bodyLength) :
    G.writeValue v w = .error (.error (.memory (.allocationFailed Int32.maxValue))) w := by
  have hsize := v.length_encode
  rw [writeValue_eq, Value.encode?_eq_some_iff.mpr ⟨hbody, rfl⟩]
  dsimp only
  rw [if_pos (by omega)]

/-- Once the allocator has answered, it is up to the write. -/
theorem writeValue_of_allocated (hfits : Header.size + v.bodyLength ≤ maxLength)
    (ha : G.allocate (Int32.ofNat (Header.size + v.bodyLength)) w = .ok p w') : G.writeValue v w =
      match G.memory.write p (v.header.encode ++ v.body) w'.guest with
      | .error c => .error (.error (.memory c)) w'
      | .ok g => .ok p { w' with guest := g } := by
  have hsize := v.length_encode
  rw [writeValue_eq, Value.encode?_eq_some_iff.mpr ⟨by omega, rfl⟩]
  dsimp only
  rw [if_neg (by omega), hsize]
  cases hwrite : G.memory.write p (v.header.encode ++ v.body) w'.guest <;> simp only [ha, hwrite]

end Guest

namespace Buffer

variable {m : Int64} {G : Guest Buffer} {w w' : World Buffer} {s : Buffer} {b d : Bytes} {v : Value}
  {p : Pointer} {next : Nat}

theorem content_eq (hb : s.bytes = some b) : content s = .ok b := by
  unfold content
  rw [hb]

/-- A write replaces a span, or is refused for the bounds. -/
theorem write_eq (hb : s.bytes = some b) (hd : d.length ≤ maxLength) : memory.write p d s =
    if 0 ≤ p.toInt ∧ p.toInt.toNat + d.length ≤ b.length then
      .ok { s with bytes := some (splice b p.toInt.toNat d) }
    else .error (.outOfBounds p.toInt64 (Int64.ofNat d.length) b.length) := by
  have hlength : (Int64.ofNat d.length).toInt = d.length := by
    rw [← toInt64_ofNat hd, Int32.toInt_toInt64, toInt_ofNat_of_le hd]
  have hp := p.toInt_lt
  unfold maxLength at hd
  change (do
    let b ← content s
    let start ← checkBounds p.toInt64 (Int64.ofNat d.length) b.length
    return { s with bytes := some (splice b start d) }) = _
  rw [content_eq hb]
  obtain ⟨k, hk⟩ | hk := checkBounds_cases p.toInt64 (Int64.ofNat d.length) b.length
  · obtain ⟨hnonneg, -, hle, rfl⟩ := checkBounds_eq_ok_iff.mp hk
    rw [Int32.toInt_toInt64] at hnonneg hle
    rw [hlength] at hle
    simp only [bind, Except.bind, hk, Int32.toInt_toInt64]
    rw [if_pos ⟨hnonneg, by omega⟩]
    rfl
  · simp only [bind, Except.bind, hk]
    rw [if_neg]
    rintro ⟨hnonneg, hle⟩
    have hmax : p.toInt + d.length ≤ min (b.length : Int) Word.max := by
      unfold Word.max
      omega
    have hin : checkBounds p.toInt64 (Int64.ofNat d.length) b.length = .ok p.toInt.toNat := by
      rw [checkBounds_eq_ok_iff, Int32.toInt_toInt64, hlength]
      exact ⟨hnonneg, by omega, hmax, rfl⟩
    cases hk.symm.trans hin

theorem write_of_missing (hb : s.bytes = none) (p : Pointer) (d : Bytes) :
    memory.write p d s = .error (.noMemoryExport memoryName) := by
  have hnone : content s = .error (.noMemoryExport memoryName) := by
    unfold content
    rw [hb]
  change (do
    let b ← content s
    let start ← checkBounds p.toInt64 (Int64.ofNat d.length) b.length
    return { s with bytes := some (splice b start d) }) = _
  rw [hnone]
  rfl

/-- Once the allocator has answered, the value is written there, or is refused for the bounds. -/
theorem writeValue_of_answer (hmemory : G.memory = memory) (hfits : Header.size + v.bodyLength ≤ maxLength)
    (ha : G.allocate (Int32.ofNat (Header.size + v.bodyLength)) w = .ok p w')
    (hb : w'.guest.bytes = some b) : G.writeValue v w =
      if 0 ≤ p.toInt ∧ p.toInt.toNat + (Header.size + v.bodyLength) ≤ b.length then
        .ok p { w' with guest :=
          { w'.guest with bytes := some (splice b p.toInt.toNat (v.header.encode ++ v.body)) } }
      else .error (.error (.memory (.outOfBounds p.toInt64
        (Int64.ofNat (Header.size + v.bodyLength)) b.length))) w' := by
  have hsize := v.length_encode
  rw [Guest.writeValue_of_allocated hfits ha, hmemory, write_eq hb (by omega), hsize]
  by_cases hin : 0 ≤ p.toInt ∧ p.toInt.toNat + (Header.size + v.bodyLength) ≤ b.length
  · simp only [if_pos hin]
  · simp only [if_neg hin]

/-- **One write, whatever the allocator answers.** The value is written where the allocator says and nothing
else changes, or the write fails as an access to memory does and nothing changes. -/
theorem writeValue_of_answered (hmemory : G.memory = memory) {answer : Int32 → Except MemoryError Pointer}
    (ha : ∀ size, G.allocate size w = Act.ofExcept (answer size) w) (hbody : v.bodyLength ≤ maxLength) :
    (∃ p e b, v.encode? = some e ∧ answer (Int32.ofNat e.length) = .ok p ∧ w.guest.bytes = some b ∧
      0 ≤ p.toInt ∧ p.toInt.toNat + e.length ≤ b.length ∧
      G.writeValue v w =
        .ok p { w with guest := { w.guest with bytes := some (splice b p.toInt.toNat e) } }) ∨
    ∃ c, G.writeValue v w = .error (.error (.memory c)) w := by
  have hsize := v.length_encode
  rcases Nat.lt_or_ge maxLength (Header.size + v.bodyLength) with hlong | hfits
  · exact .inr ⟨_, Guest.writeValue_of_long hbody hlong⟩
  have hanswer := ha (Int32.ofNat (Header.size + v.bodyLength))
  cases hp : answer (Int32.ofNat (Header.size + v.bodyLength)) with
  | error c =>
    rw [hp] at hanswer
    exact .inr ⟨c, Guest.writeValue_of_refused (Value.room?_eq_some_iff.mpr ⟨hfits, rfl⟩) hanswer⟩
  | ok p =>
    rw [hp] at hanswer
    cases hb : w.guest.bytes with
    | none =>
      have hwrite := Guest.writeValue_of_allocated hfits hanswer
      rw [hmemory, write_of_missing hb] at hwrite
      exact .inr ⟨_, hwrite⟩
    | some b =>
      have hwrite := writeValue_of_answer hmemory hfits hanswer hb
      by_cases hin : 0 ≤ p.toInt ∧ p.toInt.toNat + (Header.size + v.bodyLength) ≤ b.length
      · rw [if_pos hin] at hwrite
        refine .inl ⟨p, _, b, Value.encode?_eq_some_iff.mpr ⟨hbody, rfl⟩, ?_, rfl, hin.1, ?_, hwrite⟩
        · rw [hsize, hp]
        · rw [hsize]
          exact hin.2
      · rw [if_neg hin] at hwrite
        exact .inr ⟨_, hwrite⟩

/-! ## One span after the other -/

theorem reserve_of_bump (hb : s.bytes = some b) (ha : s.allocator = .bump next) {n : Nat}
    (hn : n ≤ maxLength) : reserve (Int32.ofNat n) s =
      if next + n ≤ b.length then .ok (Int32.ofNat next, { s with allocator := .bump (next + n) })
      else .error (.allocationFailed (Int32.ofNat n)) := by
  have hnonneg : ¬ Int32.ofNat n < 0 := by
    rw [Int32.lt_iff_toInt_lt, toInt_ofNat_of_le hn]
    exact Int.not_lt.mpr (Int.natCast_nonneg n)
  unfold reserve
  simp only [content_eq hb, ha, bind, Except.bind, toInt_ofNat_of_le hn, hnonneg, false_or, Int.toNat_natCast]
  by_cases hroom : next + n ≤ b.length
  · rw [if_pos hroom, if_neg (Nat.not_lt.mpr hroom)]
    rfl
  · rw [if_neg hroom, if_pos (Nat.not_le.mp hroom)]
    rfl

/-- A value that finds room is written where the last one ended. -/
theorem writeValue_of_room (hb : w.guest.bytes = some b) (hlimit : b.length ≤ maxLength)
    (ha : w.guest.allocator = .bump next) (hroom : next + (Header.size + v.bodyLength) ≤ b.length) :
    (guest m).writeValue v w = .ok (Int32.ofNat next) { w with guest := { w.guest with
      bytes := some (splice b next (v.header.encode ++ v.body))
      allocator := .bump (next + (Header.size + v.bodyLength)) } } := by
  have hfits : Header.size + v.bodyLength ≤ maxLength := by omega
  have hnext : (Int32.ofNat next).toInt = next := toInt_ofNat_of_le (by omega)
  have hallocate : (guest m).allocate (Int32.ofNat (Header.size + v.bodyLength)) w =
      .ok (Int32.ofNat next) { w with guest :=
        { w.guest with allocator := .bump (next + (Header.size + v.bodyLength)) } } := by
    unfold guest
    simp only [reserve_of_bump hb ha hfits, if_pos hroom]
  rw [writeValue_of_answer rfl hfits hallocate hb, hnext, Int.toNat_natCast,
    if_pos ⟨Int.natCast_nonneg next, hroom⟩]

/-- A value that finds none is refused, and nothing changes. -/
theorem writeValue_of_full (hb : w.guest.bytes = some b) (ha : w.guest.allocator = .bump next)
    (hbody : v.bodyLength ≤ maxLength) (hfull : ¬ next + (Header.size + v.bodyLength) ≤ b.length) :
    ∃ c, (guest m).writeValue v w = .error (.error (.memory c)) w := by
  rcases Nat.lt_or_ge maxLength (Header.size + v.bodyLength) with hlong | hfits
  · exact ⟨_, Guest.writeValue_of_long hbody hlong⟩
  · have hallocate : (guest m).allocate (Int32.ofNat (Header.size + v.bodyLength)) w =
        .error (.error (.allocationFailed (Int32.ofNat (Header.size + v.bodyLength)))) w := by
      unfold guest
      simp only [reserve_of_bump hb ha hfits, if_neg hfull]
    exact ⟨_, Guest.writeValue_of_refused (Value.room?_eq_some_iff.mpr ⟨hfits, rfl⟩) hallocate⟩

/-- The values stand at their places, one behind the other and up to where the allocator goes on; all other
bytes are those of `b`. -/
structure Stacked (b : Bytes) (next : Nat) (placed : List Placement) (s : Buffer) : Prop where
  allocator : s.allocator = .bump next
  start : 0 < next
  inside : ∀ e ∈ placed, 0 < e.pointer.toInt ∧ e.pointer.toInt.toNat + e.size ≤ min next b.length
  apart : placed.Pairwise Placement.Apart
  written : ∀ e ∈ placed, Written content e.value e.pointer s
  kept : ∃ b', s.bytes = some b' ∧ b'.length = b.length ∧
    ∀ i, (∀ e ∈ placed, ¬ e.Covers i) → b'[i]? = b[i]?

namespace Stacked

variable {placed : List Placement}

theorem nil (hb : s.bytes = some b) (ha : s.allocator = .bump next) (hnext : 0 < next) :
    Stacked b next [] s where
  allocator := ha
  start := hnext
  inside := nofun
  apart := .nil
  written := nofun
  kept := ⟨b, hb, rfl, fun _ _ => rfl⟩

theorem length_splice {b d : Bytes} {start : Nat} (h : start + d.length ≤ b.length) :
    (splice b start d).length = b.length := by
  unfold splice
  rw [List.length_append, List.length_append, List.length_take_of_le (by omega), List.length_drop]
  omega

/-- One more value on top. -/
theorem writeValue_of_room (h : Stacked b next placed w.guest) (hlimit : b.length ≤ maxLength)
    (hroom : next + (Header.size + v.bodyLength) ≤ b.length) :
    ∃ w', (guest m).writeValue v w = .ok (Int32.ofNat next) w' ∧
      Stacked b (next + (Header.size + v.bodyLength)) (placed ++ [⟨Int32.ofNat next, v⟩]) w'.guest := by
  obtain ⟨b', hb', hlength, hkept⟩ := h.kept
  have hnext : (Int32.ofNat next).toInt = next := toInt_ofNat_of_le (by omega)
  have hstart := h.start
  have hsize := v.length_encode
  have hwhole : next + (v.header.encode ++ v.body).length ≤ b'.length := by omega
  have hcontent : content { w.guest with
      bytes := some (splice b' next (v.header.encode ++ v.body))
      allocator := .bump (next + (Header.size + v.bodyLength)) } =
    .ok (splice b' next (v.header.encode ++ v.body)) := rfl
  refine ⟨_, Buffer.writeValue_of_room hb' (by omega) h.allocator (by omega), rfl, by omega, ?inside, ?apart,
    ?written, ?kept⟩
  case inside =>
    intro e he
    obtain he | he := List.mem_append.mp he
    · have hin := h.inside e he
      omega
    · cases List.mem_singleton.mp he
      simp only [Placement.size, hnext, Int.toNat_natCast]
      omega
  case apart =>
    refine List.pairwise_append.mpr ⟨h.apart, List.pairwise_singleton _ _, ?_⟩
    intro e he e' he'
    cases List.mem_singleton.mp he'
    have hin := h.inside e he
    refine .inl ?_
    dsimp only
    rw [hnext, Int.toNat_natCast]
    omega
  case written =>
    intro e he
    obtain he | he := List.mem_append.mp he
    · -- what stands below the new span does not see it
      refine (h.written e he).of_span ((spanAt_of_ok hcontent _ _).trans ?_)
      have hin := h.inside e he
      unfold Placement.size at hin
      rw [spanAt_of_ok (content_eq hb'), take_drop_splice hwhole (.inl (by omega))]
    · cases List.mem_singleton.mp he
      refine ⟨by simp only [hnext]; omega, by dsimp only; omega, (spanAt_of_ok hcontent _ _).trans ?_⟩
      rw [hnext, Int.toNat_natCast, drop_splice (by omega), List.take_left' hsize]
  case kept =>
    refine ⟨_, rfl, (length_splice hwhole).trans hlength, ?_⟩
    intro i hi
    have hnew := hi _ (List.mem_append_right _ (.head _))
    unfold Placement.Covers Placement.size at hnew
    simp only [hnext, Int.toNat_natCast] at hnew
    rw [getElem?_splice hwhole (by omega)]
    exact hkept i fun e he => hi e (List.mem_append_left _ he)

/-- The value at the end of a stack of values is written if it has room; else nothing happens. -/
theorem writeValue (h : Stacked b next placed w.guest) (hlimit : b.length ≤ maxLength)
    (hbody : v.bodyLength ≤ maxLength) :
    if next + (Header.size + v.bodyLength) ≤ b.length then
      ∃ w', (guest m).writeValue v w = .ok (Int32.ofNat next) w' ∧
        Stacked b (next + (Header.size + v.bodyLength)) (placed ++ [⟨Int32.ofNat next, v⟩]) w'.guest
    else ∃ c, (guest m).writeValue v w = .error (.error (.memory c)) w := by
  split
  · rename_i hroom
    exact h.writeValue_of_room hlimit hroom
  · rename_i hfull
    obtain ⟨b', hb', hlength, -⟩ := h.kept
    exact writeValue_of_full hb' h.allocator hbody (by omega)

/-- Any number of values more. -/
theorem writeEach (h : Stacked b next placed w.guest) (hlimit : b.length ≤ maxLength) {vs : List Value}
    (hbodies : ∀ v ∈ vs, v.bodyLength ≤ maxLength) :
    ∃ next', Stacked b next' (placed ++ (guest m).placements vs w) ((guest m).writeEach vs w).2.guest := by
  induction vs generalizing next placed w with
  | nil =>
    refine ⟨next, ?_⟩
    rwa [Guest.placements, Guest.writeEach, List.filterMap_nil, List.append_nil]
  | cons v vs ih =>
    obtain ⟨hbody, hbodies⟩ := List.forall_mem_cons.mp hbodies
    have hstep := h.writeValue (m := m) hlimit hbody
    split at hstep
    · obtain ⟨w', hok, hnext⟩ := hstep
      obtain ⟨next', hrest⟩ := ih hnext hbodies
      refine ⟨next', ?_⟩
      simp only [Guest.placements_of_ok hok, Guest.writeEach, hok, Act.finalState]
      rwa [List.append_assoc] at hrest
    · obtain ⟨c, herror⟩ := hstep
      obtain ⟨next', hrest⟩ := ih h hbodies
      refine ⟨next', ?_⟩
      simp only [Guest.placements_of_error herror, Guest.writeEach, herror, Act.finalState]
      exact hrest

end Stacked

/-- What writing the values one after the other does to a buffer that holds `b`. -/
structure WritesApart (m : Int64) (b : Bytes) (vs : List Value) (w : World Buffer) : Prop where
  inside : ∀ e ∈ (guest m).placements vs w,
    e.pointer ≠ 0 ∧ 0 ≤ e.pointer.toInt ∧ e.pointer.toInt.toNat + e.size ≤ b.length
  apart : ((guest m).placements vs w).Pairwise Placement.Apart
  read : ∀ e ∈ (guest m).placements vs w,
    memory.readValue e.pointer ((guest m).writeEach vs w).2.guest = .ok (e.value, e.value.bodyLength)
  kept : ∃ b', ((guest m).writeEach vs w).2.guest.bytes = some b' ∧ b'.length = b.length ∧
    ∀ i, (∀ e ∈ (guest m).placements vs w, ¬ e.Covers i) → b'[i]? = b[i]?
  /-- Each value in turn is written if it fits behind the last one; else its write changes nothing at all. -/
  turn : ∀ before v rest, vs = before ++ v :: rest → ∃ next,
    ((guest m).writeEach before w).2.guest.allocator = .bump next ∧
    if next + (Header.size + v.bodyLength) ≤ b.length then
      ∃ w', (guest m).writeValue v ((guest m).writeEach before w).2 = .ok (Int32.ofNat next) w'
    else ∃ c, (guest m).writeValue v ((guest m).writeEach before w).2 =
      .error (.error (.memory c)) ((guest m).writeEach before w).2

theorem Stacked.writesApart {vs : List Value} (h : Stacked b next [] w.guest) (hlimit : b.length ≤ maxLength)
    (hbodies : ∀ v ∈ vs, v.bodyLength ≤ maxLength) : WritesApart m b vs w := by
  obtain ⟨next', hall⟩ := h.writeEach (m := m) hlimit hbodies
  rw [List.nil_append] at hall
  refine ⟨?inside, hall.apart, fun e he => (hall.written e he).readValue flat, hall.kept, ?turn⟩
  case inside =>
    intro e he
    obtain ⟨hpos, hle⟩ := hall.inside e he
    refine ⟨?_, by omega, by omega⟩
    intro hnull
    rw [hnull] at hpos
    exact absurd hpos (by decide)
  case turn =>
    rintro before v rest rfl
    have hearlier : ∀ u ∈ before, u.bodyLength ≤ maxLength :=
      fun u hu => hbodies u (List.mem_append_left _ hu)
    obtain ⟨next₁, hbefore⟩ := h.writeEach (m := m) hlimit hearlier
    refine ⟨next₁, hbefore.allocator, ?_⟩
    have hstep := hbefore.writeValue (m := m) hlimit (hbodies v (List.mem_append_right _ (.head _)))
    split at hstep
    · rename_i hroom
      obtain ⟨w', hok, -⟩ := hstep
      rw [if_pos hroom]
      exact ⟨w', hok⟩
    · rename_i hfull
      rw [if_neg hfull]
      exact hstep

/-- **Typed writes leave each other alone.** Where a buffer that can be addressed hands out one span after the
other, behind the null pointer, all values that are written stand apart from each other, can be read back once
all is written, and have changed no byte outside of their spans. Values that do not fit change nothing.
Whatever else an allocator answers, a value is written where it says and nothing else changes, or the write
fails and nothing changes. -/
theorem writes_apart (m : Int64) :
    (∀ (w : World Buffer) (b : Bytes) (next : Nat) (vs : List Value), w.guest.bytes = some b →
      b.length ≤ maxLength → w.guest.allocator = .bump next → 0 < next →
      (∀ v ∈ vs, v.bodyLength ≤ maxLength) → WritesApart m b vs w) ∧
    ∀ (G : Guest Buffer) (answer : Int32 → Except MemoryError Pointer) (w : World Buffer) (v : Value),
      G.memory = memory → (∀ size, G.allocate size w = Act.ofExcept (answer size) w) →
      v.bodyLength ≤ maxLength →
      (∃ p e b, v.encode? = some e ∧ answer (Int32.ofNat e.length) = .ok p ∧ w.guest.bytes = some b ∧
        0 ≤ p.toInt ∧ p.toInt.toNat + e.length ≤ b.length ∧
        G.writeValue v w =
          .ok p { w with guest := { w.guest with bytes := some (splice b p.toInt.toNat e) } }) ∨
      ∃ c, G.writeValue v w = .error (.error (.memory c)) w := by
  constructor
  · intro w b next vs hb hlimit ha hnext hbodies
    exact (Stacked.nil hb ha hnext).writesApart hlimit hbodies
  · intro G answer w v hmemory ha hbody
    exact writeValue_of_answered hmemory ha hbody

/-- Forty bytes that are not zero, and the way in which room is made. -/
def forty (allocator : Allocator) : World Buffer := { guest := ⟨some (List.replicate 40 7), allocator, 0⟩ }

/-- Of four values two find room, the last one where the third ends; and an allocator that hands out the last
bytes of the memory again and again. -/
theorem writes_apart_forty :
    ((guest 100).placements [.bool true, .bytearray (List.replicate 20 1), .uint64 5, .uint8 3]
      (forty (.bump 16)) = [⟨16, .bool true⟩, ⟨23, .uint64 5⟩] ∧
    WritesApart 100 (List.replicate 40 7) [.bool true, .bytearray (List.replicate 20 1), .uint64 5, .uint8 3]
      (forty (.bump 16))) ∧
    (∃ w', (guest 100).writeValue (.uint8 3) (forty (.fixed 33)) = .ok 33 w') ∧
    ∃ c, (guest 100).writeValue (.uint64 5) (forty (.fixed 33)) = .error (.error (.memory c))
      (forty (.fixed 33)) := by
  obtain ⟨hbump, hanswered⟩ := writes_apart 100
  have hbodies : ∀ v ∈ [Value.bool true, .bytearray (List.replicate 20 1), .uint64 5, .uint8 3],
      v.bodyLength ≤ maxLength := by decide
  have hfixed : ∀ size,
      (guest 100).allocate size (forty (.fixed 33)) = Act.ofExcept (.ok 33) (forty (.fixed 33)) := fun _ => rfl
  refine ⟨⟨rfl, hbump _ _ 16 _ rfl (by decide) rfl (by decide) hbodies⟩, ?fits, ?refused⟩
  case fits =>
    obtain ⟨p, e, b, -, hp, -, -, -, hend⟩ | ⟨c, hend⟩ :=
      hanswered (guest 100) (fun _ => .ok 33) _ (.uint8 3) rfl hfixed (by decide)
    · cases hp
      exact ⟨_, hend⟩
    · cases hend
  case refused =>
    obtain ⟨p, e, b, he, hp, hb, -, hin, -⟩ | hrefused :=
      hanswered (guest 100) (fun _ => .ok 33) _ (.uint64 5) rfl hfixed (by decide)
    · cases hp
      cases hb
      cases he
      exact absurd hin (by decide)
    · exact hrefused

end Buffer
end AspectHost
