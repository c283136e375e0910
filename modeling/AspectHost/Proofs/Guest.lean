import AspectHost.Host.Dispatch
import AspectHost.Proofs.Gas.Meter
import AspectHost.Proofs.Memory

/-! # Guests whose memory and counter behave

What host calls rely on: the memory is a block of bytes, a counter reads back as it was stored, and
neither shows in the other. Of the allocator, which is guest code, nothing is asked here. -/

namespace AspectHost

variable {γ : Type}

namespace Guest

/-- Memory and counter of the guest are two separate parts of its state; `content` shows the memory. A
counter takes every amount and the mark of an exhausted meter. -/
structure Lawful (G : Guest γ) (content : γ → Except MemoryError Bytes) : Prop where
  flat : G.memory.Flat content
  multiplier_pos : 0 < G.meter.multiplier.toInt
  store : ∀ {s c} g, G.meter.counter s = .ok c → -1 ≤ g.toInt →
    ∃ s', G.meter.store g s = .ok s' ∧ G.meter.counter s' = .ok g ∧ content s' = content s
  counter_write : ∀ {p d s s'}, G.memory.write p d s = .ok s' →
    G.meter.counter s' = G.meter.counter s

/-- The state `s'` is `s` with the counter at `c`. -/
structure Recounted (G : Guest γ) (content : γ → Except MemoryError Bytes) (c : Int64) (s s' : γ) :
    Prop where
  counter : G.meter.counter s' = .ok c
  content : content s' = content s

variable {G : Guest γ} {content : γ → Except MemoryError Bytes} {s s' : γ} {c : Int64}

theorem readValue_of_ok {p : Pointer} {w : World γ} {v : Value × Nat}
    (h : G.memory.readValue p w.guest = .ok v) : G.readValue p w = .ok v w := by
  simp only [readValue, Act.query, h]

theorem readValue_of_error {p : Pointer} {w : World γ} {e : HostError}
    (h : G.memory.readValue p w.guest = .error e) : G.readValue p w = .error (.error e) w := by
  simp only [readValue, Act.query, h]

/-- A value is written where the allocator says, if there is room for it and its size is one. -/
theorem writeValue_eq (G : Guest γ) (v : Value) (w : World γ) : G.writeValue v w =
    match v.encode? with
    | none => .error .panic w
    | some b =>
      if maxLength < b.length then .error (.error (.memory (.allocationFailed Int32.maxValue))) w
      else
        match G.allocate (Int32.ofNat b.length) w with
        | .error e w' => .error (e.map .memory) w'
        | .ok p w' =>
          match G.memory.write p b w'.guest with
          | .error e => .error (.error (.memory e)) w'
          | .ok g => .ok p { w' with guest := g } := by
  unfold writeValue
  cases v.encode? with
  | none => rfl
  | some b =>
    dsimp only
    by_cases hb : maxLength < b.length
    · rw [if_pos hb, if_pos hb]
      exact Act.bind_of_error rfl _
    · rw [if_neg hb, if_neg hb]
      cases ha : G.allocate (Int32.ofNat b.length) w with
      | error e w' =>
        exact Act.bind_of_error (Act.mapError_of_error ha _) _
      | ok p w' =>
        refine (Act.bind_of_ok (Act.mapError_of_ok ha _) _).trans ?_
        dsimp only
        cases hs : G.memory.write p b w'.guest with
        | error e =>
          have hw : G.write p b w' = .error (.error (.memory e)) w' := by
            simp only [write, hs]
          exact Act.bind_of_error hw _
        | ok g =>
          have hw : G.write p b w' = .ok () { w' with guest := g } := by
            simp only [write, hs]
          exact Act.bind_of_ok hw _

/-- Allocating costs no gas. -/
def Frugal (G : Guest γ) : Prop :=
  ∀ size w, G.meter.counter (Act.finalState (G.allocate size w)).guest = G.meter.counter w.guest

namespace Lawful

variable (hG : G.Lawful content)

include hG

theorem put (hc : G.meter.counter s = .ok c) (g : Int64) (hg : -1 ≤ g.toInt) :
    ∃ s', G.meter.put g s = .ok () s' ∧ G.Recounted content g s s' := by
  obtain ⟨s', hs, hc', hb⟩ := hG.store g hc hg
  exact ⟨s', GasMeter.put_of_ok hs, hc', hb⟩

/-- Writing a value costs no more than allocating for it. -/
theorem counter_writeValue (hA : G.Frugal) (v : Value) (w : World γ) :
    G.meter.counter (Act.finalState (G.writeValue v w)).guest = G.meter.counter w.guest := by
  rw [writeValue_eq]
  cases v.encode? with
  | none => rfl
  | some b =>
    dsimp only
    by_cases hb : maxLength < b.length
    · rw [if_pos hb]
      rfl
    · rw [if_neg hb]
      have ha := hA (Int32.ofNat b.length) w
      cases hr : G.allocate (Int32.ofNat b.length) w with
      | error e w' =>
        rw [hr] at ha
        exact ha
      | ok p w' =>
        rw [hr] at ha
        dsimp only
        cases hs : G.memory.write p b w'.guest with
        | error e => exact ha
        | ok g => exact (hG.counter_write hs).trans ha

end Lawful
end Guest

/-! ## Charges -/

namespace LinkedApi

/-- What a call owes for its payload; nothing for an empty one. -/
def dues (api : LinkedApi) (payload : Int64) : Option Int64 :=
  if 0 < payload then api.rule.cost? payload else some 0

/-- Takes the dues off a meter. -/
def collect (api : LinkedApi) (m : GasMeter γ) (payload : Int64) : GasM γ Unit :=
  if 0 < payload then api.rule.charge m payload else pure ()

end LinkedApi

namespace Guest.Lawful

variable {G : Guest γ} {content : γ → Except MemoryError Bytes} {s : γ} {c : Int64}

/-- The dues are taken off exactly if the counter covers them; else the meter is exhausted. -/
theorem collect_cases (hG : G.Lawful content) (api : LinkedApi) (payload : Int64)
    (hc : G.meter.counter s = .ok c) (h0 : 0 ≤ c.toInt) :
    (∃ k c' s', api.dues payload = some k ∧ 0 ≤ k.toInt ∧ c'.toInt = c.toInt - k.toInt ∧
      0 ≤ c'.toInt ∧ api.collect G.meter payload s = .ok () s' ∧ G.Recounted content c' s s') ∨
    ((∀ k, api.dues payload = some k → k.toInt < 0 ∨ c.toInt < k.toInt) ∧
      ∃ s', api.collect G.meter payload s = .error .outOfGas s' ∧
        G.Recounted content GasMeter.exhausted s s') := by
  unfold LinkedApi.dues LinkedApi.collect
  by_cases hp : 0 < payload
  · simp only [if_pos hp]
    by_cases hk : ∃ k, api.rule.cost? payload = some k ∧ 0 ≤ k.toInt ∧ k.toInt ≤ c.toInt
    · obtain ⟨k, hk, hk0, hkc⟩ := hk
      have hsub := Word.toInt_sub hk0 hkc
      have hput : -1 ≤ (c - k).toInt := by omega
      obtain ⟨s', hs, hr⟩ := hG.put hc _ hput
      exact .inl ⟨k, c - k, s', hk, hk0, hsub, by omega,
        (GasRule.charge_of_le hk hc hk0 hkc).trans hs, hr⟩
    · have hno : ∀ k, api.rule.cost? payload = some k → k.toInt < 0 ∨ c.toInt < k.toInt := by
        intro k hk'
        rcases Int.lt_or_le k.toInt 0 with hk0 | hk0
        · exact .inl hk0
        · exact .inr (Int.not_le.mp fun hle => hk ⟨k, hk', hk0, hle⟩)
      obtain ⟨s', hs, hc', hb⟩ := hG.store GasMeter.exhausted hc (by decide)
      exact .inr ⟨hno, s', GasRule.charge_of_uncovered hc h0 hno hs, hc', hb⟩
  · simp only [if_neg hp]
    exact .inl ⟨0, c, s, rfl, by decide, by simp, h0, rfl, hc, rfl⟩

end Guest.Lawful

/-! ## The buffer -/

namespace Buffer

theorem flat : memory.Flat content where
  size _ := rfl
  read _ _ _ := rfl
  write p d s := by
    change content <$> (do
      let b ← content s
      let start ← checkBounds p.toInt64 (Int64.ofNat d.length) b.length
      return { s with bytes := some (splice b start d) }) = _
    cases content s with
    | error e => rfl
    | ok b =>
      simp only [bind, Except.bind]
      cases checkBounds p.toInt64 (Int64.ofNat d.length) b.length <;> rfl

theorem lawful {m : Int64} (hm : 0 < m.toInt) : (guest m).Lawful content where
  flat := flat
  multiplier_pos := hm
  store g _ _ := ⟨_, rfl, rfl, rfl⟩
  counter_write {p d s s'} h := by
    change (do
      let b ← content s
      let start ← checkBounds p.toInt64 (Int64.ofNat d.length) b.length
      return { s with bytes := some (splice b start d) }) = _ at h
    cases hb : content s with
    | error e => rw [hb] at h; cases h
    | ok b =>
      simp only [hb, bind, Except.bind] at h
      cases hk : checkBounds p.toInt64 (Int64.ofNat d.length) b.length with
      | error e => rw [hk] at h; cases h
      | ok k =>
        rw [hk] at h
        cases h
        rfl

/-- Reserving changes nothing but the allocator. -/
theorem eq_of_reserve {size : Int32} {s s' : Buffer} {p : Pointer} (h : reserve size s = .ok (p, s')) :
    s' = { s with allocator := s'.allocator } := by
  unfold reserve at h
  cases hb : content s with
  | error e => rw [hb] at h; cases h
  | ok b =>
    simp only [hb, bind, Except.bind] at h
    cases ha : s.allocator with
    | missing => rw [ha] at h; cases h
    | fixed q =>
      simp only [ha] at h
      split at h
      · cases h
      · cases h
        rfl
    | bump next =>
      simp only [ha] at h
      split at h
      · cases h
      · cases h
        rfl

theorem counter_of_reserve {size : Int32} {s s' : Buffer} {p : Pointer}
    (h : reserve size s = .ok (p, s')) : s'.counter = s.counter := by
  rw [eq_of_reserve h]

theorem frugal (m : Int64) : (guest m).Frugal := by
  intro size w
  change (Except.ok (Act.finalState ((guest m).allocate size w)).guest.counter : Except GasError _) =
    .ok w.guest.counter
  unfold guest
  dsimp only
  cases hr : reserve size w.guest with
  | error e => rfl
  | ok r => exact congrArg _ (counter_of_reserve hr)

/-- A guest with a value at address sixteen, so much room behind it, and one budget. -/
def holding (v : Value) (room : Nat) (gas : Int64) : World Buffer where
  guest := {
    bytes := some (List.replicate 16 0 ++ (v.header.encode ++ v.body ++ List.replicate room 0))
    allocator := .bump (16 + (Header.size + v.bodyLength))
    counter := gas }
  contexts := #[0]

theorem readValue_holding {v : Value} (hfit : Header.size + v.bodyLength ≤ maxLength) (room : Nat)
    (gas m : Int64) :
    (guest m).memory.readValue 16 (holding v room gas).guest = .ok (v, v.bodyLength) := by
  have hdrop : (List.replicate 16 0 ++ (v.header.encode ++ v.body ++ List.replicate room 0)).drop 16 =
      v.header.encode ++ v.body ++ List.replicate room 0 := List.drop_left' rfl
  exact flat.readValue_of_encode rfl (by decide) hdrop hfit

end Buffer
end AspectHost
