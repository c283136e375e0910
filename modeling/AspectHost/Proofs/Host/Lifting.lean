import AspectHost.Proofs.Host.Course

/-! # Host calls lift host functions through memory

A host call applies its function once, to the values at the pointers and to a budget that the counter
determines (`dispatch_loads`). A value that the function returns can be read back at the pointer that the
call returns (`deliver_of_some`); a function that returns nothing leaves the memory alone. -/

namespace AspectHost

variable {γ : Type} {G : Guest γ} {content : γ → Except MemoryError Bytes} {api : LinkedApi}
  {ps : List Pointer} {vs : List (Value × Nat)} {w : World γ} {s : γ} {c c' payload rest : Int64}

theorem GuestMemory.readValues_eq_ok_iff {m : GuestMemory γ} :
    m.readValues s ps = .ok vs ↔ ps.map (m.readValue · s) = vs.map .ok := by
  induction ps generalizing vs with
  | nil => cases vs <;> simp [readValues]
  | cons p ps ih =>
    rw [readValues]
    cases vs with
    | nil =>
      cases m.readValue p s with
      | error e => simp
      | ok v => cases m.readValues s ps <;> simp
    | cons u us =>
      rw [List.map_cons, List.map_cons, List.cons.injEq, ← ih]
      cases m.readValue p s with
      | error e => simp
      | ok v => cases m.readValues s ps <;> simp

/-- The world in which a function runs, once the dues left `s` with `c'` on the counter: its budget is
what that is in whole outer units. -/
def loaded (G : Guest γ) (api : LinkedApi) (c' : Int64) (s : γ) (w : World γ) : World γ :=
  World.setContext api.slot (c' / G.meter.multiplier).toUInt64 { w with guest := s }

/-- The world after a function that started in `w` left so much of its budget: that and the rest of the
division are back on the counter. -/
structure Settled (G : Guest γ) (content : γ → Except MemoryError Bytes) (api : LinkedApi) (rest : Int64)
    (left : Quota) (w settled : World γ) : Prop where
  counter : ∃ g, g.toInt = left.toNat * G.meter.multiplier.toInt + rest.toInt ∧
    G.meter.put g w.guest = .ok () settled.guest ∧ G.Recounted content g w.guest settled.guest
  budget : settled = { w.setContext api.slot left with guest := settled.guest }

/-- The function of a host call is called once, on the values at the pointers and the whole outer units
that the dues leave. -/
theorem dispatch_loads (hG : G.Lawful content) (hslot : api.slot < w.contexts.size)
    (hc : G.meter.counter w.guest = .ok c) (h0 : 0 ≤ c.toInt)
    (hvs : G.memory.readValues w.guest ps = .ok vs)
    (hs : api.collect G.meter (payloadOf (totalBody vs)) w.guest = .ok () s) :
    ∃ k c', api.dues (payloadOf (totalBody vs)) = some k ∧ c'.toInt = c.toInt - k.toInt ∧
      0 ≤ c'.toInt ∧ G.Recounted content c' w.guest s ∧
      ((loaded G api c' s w).context api.slot).toNat = c'.toInt / G.meter.multiplier.toInt ∧
      ∀ f, dispatch G { api with function := f } ps w =
        conclude G api (payloadOf (totalBody vs)) (c' % G.meter.multiplier) (loaded G api c' s w)
          (f.call (vs.map Prod.fst) ((loaded G api c' s w).context api.slot)) := by
  obtain ⟨k, c', s', hk, -, hkc, hc0, hs', hrec⟩ | ⟨-, s', hs', -⟩ :=
    hG.collect_cases api (payloadOf (totalBody vs)) hc h0
  · rw [hs] at hs'
    cases hs'
    have hl := GasMeter.remaining_of_nonneg hrec.counter hc0
    refine ⟨k, c', hk, hkc, hc0, hrec, ?_, ?_⟩
    · rw [loaded, World.context_setContext _ (by exact hslot)]
      exact Word.toNat_div hc0 hG.multiplier_pos
    · intro f
      have hd : dispatch G { api with function := f } ps w = _ := dispatch_of_collected hvs hs hl
      have hcongr : conclude G { api with function := f } = conclude G api := conclude_congr rfl rfl
      rw [hcongr] at hd
      exact hd
  · rw [hs] at hs'
    cases hs'

/-- A function that returns has its budget settled, if the meter takes what it left. -/
theorem conclude_of_le (hG : G.Lawful content) (hslot : api.slot < w.contexts.size)
    (hc : G.meter.counter w.guest = .ok c) (hr : 0 ≤ rest.toInt) (v : Option Value) {left : Quota}
    (hcap : left.toNat * G.meter.multiplier.toInt + rest.toInt ≤ G.meter.capacity) :
    ∃ settled, Settled G content api rest left w settled ∧
      conclude G api payload rest w (.ok v left) = deliver G api payload settled (.ok v) := by
  have hreturned : ¬ ((.ok v : Report).isOk = false ∧
      (w.setContext api.slot left).context api.slot = 0) := fun h => nomatch h.1
  obtain ⟨g, s, hg, hs, hput, hrec⟩ := hG.reconcile_of_le (w := w.setContext api.slot left) hr
    hreturned hc (by rwa [w.context_setContext hslot])
  rw [w.context_setContext hslot] at hg
  exact ⟨{ w.setContext api.slot left with guest := s }, ⟨⟨g, hg, hput, hrec⟩, rfl⟩,
    finish_of_settled hs⟩

/-- A function that leaves more than the meter takes ends the call, and the guest is left alone. -/
theorem conclude_of_lt (hG : G.Lawful content) (hslot : api.slot < w.contexts.size)
    (hr : 0 ≤ rest.toInt) (v : Option Value) {left : Quota}
    (hover : G.meter.capacity < left.toNat * G.meter.multiplier.toInt + rest.toInt) :
    ∃ t, conclude G api payload rest w (.ok v left) =
      .error (.error (.gasOverflow t)) (w.setContext api.slot left) := by
  have hreturned : ¬ ((.ok v : Report).isOk = false ∧
      (w.setContext api.slot left).context api.slot = 0) := fun h => nomatch h.1
  obtain ⟨t, ht⟩ := hG.reconcile_of_lt (w := w.setContext api.slot left) hr hreturned
    (by rwa [w.context_setContext hslot])
  exact ⟨t, finish_of_unsettled ht⟩

/-- The `n` bytes from `p` on are memory. -/
def InMemory (content : γ → Except MemoryError Bytes) (p : Pointer) (n : Nat) (s : γ) : Prop :=
  ∃ b, content s = .ok b ∧ 0 ≤ p.toInt ∧ p.toInt.toNat + n ≤ b.length

theorem Value.length_encode (v : Value) :
    (v.header.encode ++ v.body).length = Header.size + v.bodyLength := by
  rw [List.length_append, Header.length_encode]
  rfl

/-- A value is written into the memory that the allocator hands out. -/
theorem Guest.writeValue_of_le (hm : G.memory.Flat content) {v : Value} {p : Pointer} {w' : World γ}
    {b : Bytes}
    (hfit : Header.size + v.bodyLength ≤ maxLength)
    (ha : G.allocate (Int32.ofNat (Header.size + v.bodyLength)) w = .ok p w')
    (hb : content w'.guest = .ok b) (hp : 0 ≤ p.toInt)
    (hlen : p.toInt.toNat + (Header.size + v.bodyLength) ≤ b.length) :
    ∃ s', G.memory.write p (v.header.encode ++ v.body) w'.guest = .ok s' ∧
      G.writeValue v w = .ok p { w' with guest := s' } ∧
      content s' = .ok (Buffer.splice b p.toInt.toNat (v.header.encode ++ v.body)) := by
  have henc : v.encode? = some (v.header.encode ++ v.body) :=
    Value.encode?_eq_some_iff.mpr ⟨by omega, rfl⟩
  have hsize := v.length_encode
  obtain ⟨s', hs, hb'⟩ := hm.write_of_le hb hp (hsize ▸ hfit) (hsize ▸ hlen)
  refine ⟨s', hs, ?_, hb'⟩
  rw [writeValue_eq, henc]
  dsimp only
  rw [if_neg (by omega), hsize, ha]
  simp only [hs]

/-- A value that is written into a span of memory can be read there. -/
theorem deliver_of_some (hG : G.Lawful content) {v : Value} {p : Pointer} {w' : World γ}
    (hfit : Header.size + v.bodyLength ≤ maxLength)
    (ha : G.allocate (Int32.ofNat (Header.size + v.bodyLength)) w = .ok p w')
    (hin : InMemory content p (Header.size + v.bodyLength) w'.guest) :
    ∃ w'', deliver G api payload w (.ok (some v)) = .ok (some p) w'' ∧
      G.memory.readValue p w''.guest = .ok (v, v.bodyLength) := by
  obtain ⟨b, hb, hp, hlen⟩ := hin
  obtain ⟨s', -, hwrite, hb'⟩ := Guest.writeValue_of_le hG.flat hfit ha hb hp hlen
  have hread := hG.flat.readValue_of_encode hb' hp
    (Buffer.drop_splice (by omega) (v.header.encode ++ v.body)) hfit
  refine ⟨({ w' with guest := s' } : World γ).record (.hostCallDone api.name payload), ?_, hread⟩
  simp only [deliver, hwrite]

/-- **A host call is its function, lifted through guest memory.** With the values read and the dues taken,
the function is called once, on these values, over the whole outer units that the dues leave. A value that
it returns stands where the call says, if the allocator can be told its size; if it returns nothing, the
memory is what it was. More outer units than the meter takes are an overflow either way. -/
theorem dispatch_lifts (hG : G.Lawful content) (hslot : api.slot < w.contexts.size)
    (hc : G.meter.counter w.guest = .ok c) (h0 : 0 ≤ c.toInt)
    (hvs : ps.map (G.memory.readValue · w.guest) = vs.map .ok)
    (hs : api.collect G.meter (payloadOf (totalBody vs)) w.guest = .ok () s) :
    ∃ k c', api.dues (payloadOf (totalBody vs)) = some k ∧ c'.toInt = c.toInt - k.toInt ∧
      0 ≤ c'.toInt ∧ G.Recounted content c' w.guest s ∧
      ((loaded G api c' s w).context api.slot).toNat = c'.toInt / G.meter.multiplier.toInt ∧
      (∀ f, dispatch G { api with function := f } ps w =
        conclude G api (payloadOf (totalBody vs)) (c' % G.meter.multiplier) (loaded G api c' s w)
          (f.call (vs.map Prod.fst) ((loaded G api c' s w).context api.slot))) ∧
      (∀ v left, api.function.call (vs.map Prod.fst) ((loaded G api c' s w).context api.slot) =
          .ok (some v) left →
        left.toNat * G.meter.multiplier.toInt + (c' % G.meter.multiplier).toInt ≤ G.meter.capacity →
        Header.size + v.bodyLength ≤ maxLength →
        ∃ settled, Settled G content api (c' % G.meter.multiplier) left (loaded G api c' s w) settled ∧
          ∀ p w', G.allocate (Int32.ofNat (Header.size + v.bodyLength)) settled = .ok p w' → p ≠ 0 →
            InMemory content p (Header.size + v.bodyLength) w'.guest →
            ∃ q w'', dispatch G api ps w = .ok (some q) w'' ∧ q ≠ 0 ∧
              G.memory.readValue q w''.guest = .ok (v, v.bodyLength)) ∧
      (∀ left, api.function.call (vs.map Prod.fst) ((loaded G api c' s w).context api.slot) =
          .ok none left →
        (left.toNat * G.meter.multiplier.toInt + (c' % G.meter.multiplier).toInt ≤ G.meter.capacity →
          ∃ w', dispatch G api ps w = .ok none w' ∧ content w'.guest = content w.guest) ∧
        (G.meter.capacity < left.toNat * G.meter.multiplier.toInt + (c' % G.meter.multiplier).toInt →
          ∃ t w', dispatch G api ps w = .error (.error (.gasOverflow t)) w' ∧
            content w'.guest = content w.guest)) := by
  have hread := GuestMemory.readValues_eq_ok_iff.mpr hvs
  obtain ⟨k, c', hk, hkc, hc0, hrec, hquota, hcall⟩ := dispatch_loads hG hslot hc h0 hread hs
  have hslot' : api.slot < (loaded G api c' s w).contexts.size := by
    rwa [loaded, World.size_setContext]
  have hr0 := Word.mod_nonneg hc0 hG.multiplier_pos
  have hd := hcall api.function
  refine ⟨k, c', hk, hkc, hc0, hrec, hquota, hcall, ?_, ?_⟩
  · intro v left hv hcap hfit
    rw [hv] at hd
    obtain ⟨settled, hset, hend⟩ := conclude_of_le hG hslot' hrec.counter hr0 (some v) hcap
    refine ⟨settled, hset, ?_⟩
    intro p w' ha hp hin
    obtain ⟨w'', hw, hback⟩ := deliver_of_some hG hfit ha hin
    exact ⟨p, w'', hd.trans (hend.trans hw), hp, hback⟩
  · intro left hv
    rw [hv] at hd
    refine ⟨?_, ?_⟩
    · intro hcap
      obtain ⟨settled, hset, hend⟩ := conclude_of_le hG hslot' hrec.counter hr0 none hcap
      obtain ⟨g, -, -, hcount⟩ := hset.counter
      exact ⟨_, hd.trans hend, hcount.content.trans hrec.content⟩
    · intro hover
      obtain ⟨t, ht⟩ := conclude_of_lt hG hslot' hr0 none hover
      exact ⟨t, _, hd.trans ht, hrec.content⟩

/-- Negates a flag and spends all it has. -/
def negator : LinkedApi where
  name := "m::n.negate"
  slot := 0
  function := .lower fun b : Bool => (⟨fun _ => .ok (!b) 0⟩ : Computation Empty Bool)
  rule := .fixed 7

theorem dispatch_lifts_negator :
    ∃ q w, dispatch (Buffer.guest 100) negator [16] (Buffer.holding (.bool true) 9 1050) =
        .ok (some q) w ∧ q ≠ 0 ∧
      (Buffer.guest 100).memory.readValue q w.guest = .ok (.bool false, 1) := by
  have hread : [16].map ((Buffer.guest 100).memory.readValue ·
      (Buffer.holding (.bool true) 9 1050).guest) = [(Value.bool true, 1)].map .ok :=
    congrArg (fun r => [r]) (Buffer.readValue_holding (by decide) 9 1050 100)
  have hpaid : ∃ s, negator.collect (Buffer.guest 100).meter
      (payloadOf (totalBody [(Value.bool true, 1)])) (Buffer.holding (.bool true) 9 1050).guest =
        .ok () s ∧ s = { (Buffer.holding (.bool true) 9 1050).guest with counter := 1043 } := by
    have hk : negator.rule.cost? (payloadOf 1) = some 7 := rfl
    have hc : (Buffer.guest 100).meter.counter (Buffer.holding (.bool true) 9 1050).guest =
      .ok 1050 := rfl
    exact ⟨_, (GasRule.charge_of_le hk hc (by decide) (by decide)).trans rfl, rfl⟩
  obtain ⟨s, hpaid, hs⟩ := hpaid
  obtain ⟨k, c', hk, hc', -, -, -, -, hsome, -⟩ :=
    dispatch_lifts (Buffer.lawful (by decide)) (by decide) rfl (by decide) hread hpaid
  have hc43 : (c' % 100).toInt = 43 := by
    cases hk
    rw [Word.toInt_mod (by rw [hc']; decide), hc']
    decide
  have hcap : (0 : UInt64).toNat * (Buffer.guest 100).meter.multiplier.toInt + (c' % 100).toInt ≤
      (Buffer.guest 100).meter.capacity := by
    rw [hc43]
    decide
  obtain ⟨settled, hset, hall⟩ := hsome (.bool false) 0 rfl hcap (by decide)
  obtain ⟨g, -, hput, -⟩ := hset.counter
  have hg : settled.guest = { s with counter := g } := by
    have h : (EStateM.Result.ok () { s with counter := g } :
        EStateM.Result GasError Buffer Unit) = .ok () settled.guest := hput
    injection h with _ h
    exact h.symm
  have ha : (Buffer.guest 100).allocate 7 settled = .ok 23
      { settled with guest := { s with counter := g, allocator := .bump 30 } } := by
    simp only [Buffer.guest, hg, hs]
    rfl
  exact hall 23 _ ha (by decide) ⟨_, by rw [hs]; rfl, by decide, by decide⟩

/-- Returns nothing and sets its budget to its argument. -/
def refueler : LinkedApi where
  name := "m::n.refuel"
  slot := 0
  function := .lower fun n : UInt64 => (⟨fun _ => .ok () n⟩ : Computation String Unit)
  rule := .fixed 7

/-- The largest amount there is. -/
def plenty : UInt64 := 0xFFFFFFFFFFFFFFFF

/-- A function that returns nothing still overflows the meter if it leaves too much. -/
theorem refueler_overflows :
    refueler.function.signature.check = .ok () ∧
    (Buffer.guest 100).meter.counter (Buffer.holding (.uint64 plenty) 0 1000).guest = .ok 1000 ∧
    (Buffer.guest 100).memory.readValue 16 (Buffer.holding (.uint64 plenty) 0 1000).guest =
      .ok (.uint64 plenty, 8) ∧
    (∃ s, refueler.collect (Buffer.guest 100).meter (payloadOf (totalBody [(.uint64 plenty, 8)]))
      (Buffer.holding (.uint64 plenty) 0 1000).guest = .ok () s) ∧
    (∀ quota, refueler.function.call [.uint64 plenty] quota = .ok none plenty) ∧
    ∃ t w, dispatch (Buffer.guest 100) refueler [16] (Buffer.holding (.uint64 plenty) 0 1000) =
      .error (.error (.gasOverflow t)) w := by
  have hread : (Buffer.guest 100).memory.readValue 16 (Buffer.holding (.uint64 plenty) 0 1000).guest =
      .ok (.uint64 plenty, 8) := Buffer.readValue_holding (by decide) 0 1000 100
  have hvs : (Buffer.guest 100).memory.readValues (Buffer.holding (.uint64 plenty) 0 1000).guest [16] =
      .ok [(.uint64 plenty, 8)] :=
    GuestMemory.readValues_eq_ok_iff.mpr (congrArg (fun r => [r]) hread)
  have hk : refueler.rule.cost? (payloadOf 8) = some 7 := rfl
  have hc : (Buffer.guest 100).meter.counter (Buffer.holding (.uint64 plenty) 0 1000).guest =
    .ok 1000 := rfl
  have hpaid : refueler.collect (Buffer.guest 100).meter
      (payloadOf (totalBody [(.uint64 plenty, 8)])) (Buffer.holding (.uint64 plenty) 0 1000).guest =
        .ok () _ :=
    (GasRule.charge_of_le hk hc (by decide) (by decide)).trans rfl
  obtain ⟨k, c', hk, hc', hc0, hrec, -, hcall⟩ :=
    dispatch_loads (Buffer.lawful (by decide)) (by decide) hc (by decide) hvs hpaid
  refine ⟨rfl, rfl, hread, ⟨_, hpaid⟩, fun _ => rfl, ?_⟩
  have hr : 0 ≤ (c' % 100).toInt := Word.mod_nonneg hc0 (by decide)
  have hover : (Buffer.guest 100).meter.capacity <
      plenty.toNat * (Buffer.guest 100).meter.multiplier.toInt + (c' % 100).toInt := by
    have : (Buffer.guest 100).meter.capacity <
        plenty.toNat * (Buffer.guest 100).meter.multiplier.toInt := by decide
    omega
  have hslot : ∀ s, refueler.slot < (loaded (Buffer.guest 100) refueler c' s
      (Buffer.holding (.uint64 plenty) 0 1000)).contexts.size := by
    intro s
    rw [loaded, World.size_setContext]
    exact Nat.one_pos
  obtain ⟨t, ht⟩ := conclude_of_lt (Buffer.lawful (by decide)) (hslot _) hr none hover
  exact ⟨t, _, (hcall refueler.function).trans ht⟩

end AspectHost
