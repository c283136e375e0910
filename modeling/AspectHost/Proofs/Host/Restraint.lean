import AspectHost.Proofs.Host.Failures
import AspectHost.Proofs.Host.Solvency

/-! # Failing host calls leave the guest alone

Before the result of a host call is written, all that the call does to the guest is to store on its counter.
So whatever the counter does not show in, such as the memory and the state of the allocator, is kept until
then (`Hidden.serve`). A host call that fails by then fails in the same way whatever the allocator is
(`Unallocated.of_serve`). After that only the allocator runs, and a write that fails writes nothing
(`Guest.Tidy.dispatch`). -/

namespace AspectHost

/-! ## What the counter does not show in -/

namespace GasMeter

variable {σ α : Type} {m : GasMeter σ} {view : σ → α}

/-- What is stored on the counter does not show in the view. -/
def Hidden (m : GasMeter σ) (view : σ → α) : Prop :=
  ∀ ⦃g s s'⦄, m.store g s = .ok s' → view s' = view s

namespace Hidden

variable (hm : m.Hidden view)

include hm

theorem put (g : Int64) (s : σ) : view (Act.finalState (m.put g s)) = view s := by
  unfold GasMeter.put
  cases hs : m.store g s with
  | ok s' => exact hm hs
  | error e => rfl

theorem exhaust (s : σ) :
    view (Act.finalState ((do m.put exhausted; throw .outOfGas : GasM σ Unit) s)) = view s := by
  rw [Act.finalState_bind (fun _ _ => rfl)]
  exact hm.put exhausted s

theorem consume (g : Int64) (s : σ) : view (Act.finalState (m.consume g s)) = view s := by
  obtain ⟨e, -, hend⟩ | ⟨c, -, ⟨-, hend⟩ | ⟨-, hend⟩ | ⟨-, -, hend⟩⟩ := m.consume_cases s g <;>
    rw [hend]
  · rfl
  · rfl
  · exact hm.exhaust s
  · exact hm.put (c - g) s

theorem charge (rule : GasRule) (payload : Int64) (s : σ) :
    view (Act.finalState (rule.charge m payload s)) = view s := by
  unfold GasRule.charge
  cases rule.cost? payload with
  | some cost => exact hm.consume cost s
  | none => exact hm.exhaust s

theorem set (g : Int64) (s : σ) : view (Act.finalState (m.set g s)) = view s := by
  unfold GasMeter.set
  split
  · exact hm.put exhausted s
  · split
    · rfl
    · exact hm.put g s

end Hidden
end GasMeter

variable {γ α : Type} {G : Guest γ} {content : γ → Except MemoryError Bytes} {view reserve : γ → α}
  {api : LinkedApi} {ps : List Pointer} {vs : List (Value × Nat)} {w w' : World γ} {s s' s'' : γ}
  {c payload rest : Int64} {left : Quota} {e : Stop HostError}

namespace GasMeter.Hidden

variable (hG : G.meter.Hidden view)

include hG

theorem collect (api : LinkedApi) (payload : Int64) (s : γ) :
    view (Act.finalState (api.collect G.meter payload s)) = view s := by
  unfold LinkedApi.collect
  split
  · exact hG.charge api.rule payload s
  · rfl

theorem reconcile (api : LinkedApi) (rest : Int64) (report : Report) (w : World γ) :
    view (Act.finalState (AspectHost.reconcile G api rest report w)).guest = view w.guest := by
  rw [reconcile_eq]
  split
  · rw [Act.finalState_bind (fun _ _ => rfl), finalState_metered]
    exact hG.set exhausted w.guest
  · split
    · rfl
    · rw [finalState_metered]
      exact hG.set _ w.guest

theorem settle (api : LinkedApi) (payload rest : Int64) (report : Report) (w : World γ) :
    view (Act.finalState (AspectHost.settle G api payload rest report w)).guest = view w.guest := by
  unfold AspectHost.settle
  rw [Act.finalState_bind]
  · exact hG.reconcile api rest report w
  · intro _ w'
    cases report <;> rfl

/-- Serving a host call does nothing to the guest but store on its counter. -/
theorem serve (api : LinkedApi) (ps : List Pointer) (w : World γ) :
    view (Act.finalState (AspectHost.serve G api ps w)).guest = view w.guest := by
  unfold AspectHost.serve
  cases G.memory.readValues w.guest ps with
  | error e => rfl
  | ok vs =>
    dsimp only
    have hcollect := hG.collect api (payloadOf (totalBody vs)) w.guest
    cases hs : api.collect G.meter (payloadOf (totalBody vs)) w.guest with
    | error e s =>
      rw [hs] at hcollect
      exact hcollect
    | ok u s =>
      rw [hs] at hcollect
      dsimp only
      cases G.meter.remaining s with
      | error e => exact hcollect
      | ok c =>
        dsimp only
        unfold answer
        split
        · exact (hG.settle api _ _ _ _).trans hcollect
        · exact (hG.settle api _ _ _ _).trans hcollect
        · exact hcollect
        · exact hcollect

end GasMeter.Hidden

/-! ## Memory -/

/-- No byte of the memory is another one than before. The memory may have grown. -/
def Intact (content : γ → Except MemoryError Bytes) (s s' : γ) : Prop :=
  ∀ b, content s = .ok b → ∃ more, content s' = .ok (b ++ more)

namespace Intact

theorem of_eq (h : content s' = content s) : Intact content s s' := by
  intro b hb
  exact ⟨[], by rw [h, hb, List.append_nil]⟩

theorem trans (h : Intact content s s') (h' : Intact content s' s'') : Intact content s s'' := by
  intro b hb
  obtain ⟨more, hmore⟩ := h b hb
  obtain ⟨more', hmore'⟩ := h' _ hmore
  exact ⟨more ++ more', by rw [hmore', List.append_assoc]⟩

end Intact

namespace Guest

/-- Allocating does not write memory. It may add some. -/
def Tidy (G : Guest γ) (content : γ → Except MemoryError Bytes) : Prop :=
  ∀ size w, Intact content w.guest (Act.finalState (G.allocate size w)).guest

/-- A value that cannot be written leaves the world alone, or as the allocator left it: the bounds are checked
before a byte is written. -/
theorem writeValue_eq_error {v : Value} (h : G.writeValue v w = .error e w') :
    w' = w ∨ ∃ size, w' = Act.finalState (G.allocate size w) := by
  rw [writeValue_eq] at h
  cases hb : v.encode? with
  | none =>
    rw [hb] at h
    cases h
    exact .inl rfl
  | some b =>
    rw [hb] at h
    dsimp only at h
    split at h
    · cases h
      exact .inl rfl
    · refine .inr ⟨Int32.ofNat b.length, ?_⟩
      cases ha : G.allocate (Int32.ofNat b.length) w with
      | error e w'' =>
        rw [ha] at h
        cases h
        rfl
      | ok p w'' =>
        rw [ha] at h
        dsimp only at h
        split at h
        · cases h
          rfl
        · cases h

/-- A host call that fails has changed no byte of the memory, wherever it failed. -/
theorem Tidy.dispatch (hA : G.Tidy content) (hcontent : G.meter.Hidden content)
    (h : AspectHost.dispatch G api ps w = .error e w') : Intact content w.guest w'.guest := by
  have hserved := hcontent.serve api ps w
  rw [dispatch_eq_serve] at h
  cases hr : serve G api ps w with
  | error e' w'' =>
    rw [hr] at h hserved
    cases h
    exact .of_eq hserved
  | ok x w'' =>
    rw [hr] at h hserved
    obtain ⟨v, payload⟩ := x
    refine Intact.trans (.of_eq hserved) ?_
    cases v with
    | none => cases h
    | some v =>
      simp only [handBack, deliver] at h
      split at h
      · cases h
      · rename_i hw
        cases h
        obtain rfl | ⟨size, rfl⟩ := writeValue_eq_error hw
        · exact .of_eq rfl
        · exact hA size w''

end Guest

/-! ## Failures before anything is allocated -/

/-- The host call fails like this whatever the allocator is, so without asking it for anything; the memory and
what the allocator keeps stay as they are. -/
structure Unallocated (G : Guest γ) (content : γ → Except MemoryError Bytes) (reserve : γ → α)
    (api : LinkedApi) (ps : List Pointer) (w : World γ) (e : Stop HostError) (w' : World γ) : Prop where
  ends : ∀ allocate, dispatch { G with allocate } api ps w = .error e w'
  content : content w'.guest = content w.guest
  reserve : reserve w'.guest = reserve w.guest

/-- Serving does not ask the allocator. -/
theorem Unallocated.of_serve (hcontent : G.meter.Hidden content) (hreserve : G.meter.Hidden reserve)
    (h : serve G api ps w = .error e w') : Unallocated G content reserve api ps w e w' where
  ends allocate := by
    have hserve : serve { G with allocate } = serve G := serve_congr rfl rfl
    rw [dispatch_eq_serve, hserve, h]
    rfl
  content := by
    have hserved := hcontent.serve api ps w
    rwa [h] at hserved
  reserve := by
    have hserved := hreserve.serve api ps w
    rwa [h] at hserved

/-- One pointer without a value is enough. -/
theorem GuestMemory.readValues_of_unread {m : GuestMemory γ} {p : Pointer} {e : HostError} (hp : p ∈ ps)
    (he : m.readValue p s = .error e) : ∃ e', m.readValues s ps = .error e' := by
  cases hvs : m.readValues s ps with
  | error e' => exact ⟨e', rfl⟩
  | ok vs =>
    have hmem := List.mem_map_of_mem (f := (m.readValue · s)) hp
    rw [readValues_eq_ok_iff.mp hvs, he] at hmem
    obtain ⟨v, -, hv⟩ := List.mem_map.mp hmem
    cases hv

/-! ## Functions that fail, and budgets that overflow -/

/-- The end of a function with this report and so much of its budget left. -/
def Report.ended (left : Quota) : Report → EStateM.Result (Stop HostError) Quota (Option Value)
  | .ok v => .ok v left
  | .error e => .error (.error e) left

/-- The guest units that stand for so many outer units and what `c` is beyond whole ones. -/
def GasMeter.due (m : GasMeter γ) (c : Int64) (left : Quota) : Int :=
  left.toNat * m.multiplier.toInt + c.toInt % m.multiplier.toInt

theorem answer_of_ended (G : Guest γ) (api : LinkedApi) (payload rest : Int64) (w : World γ) (report : Report)
    (left : Quota) :
    answer G api payload rest w (report.ended left) =
      settle G api payload rest report (w.setContext api.slot left) := by
  cases report <;> rfl

/-- A function that failed or broke off has the host call fail, however its budget is settled. -/
theorem answer_of_failed (G : Guest γ) (api : LinkedApi) (payload rest : Int64) (w : World γ)
    (e : Stop HostError) (left : Quota) :
    ∃ e' w', answer G api payload rest w (.error e left) = .error e' w' := by
  cases e with
  | error e =>
    change ∃ e' w', settle G api payload rest (.error e) (w.setContext api.slot left) = .error e' w'
    cases hr : reconcile G api rest (.error e) (w.setContext api.slot left) with
    | ok u w' => exact ⟨.error e, w', Act.bind_of_ok hr _⟩
    | error e' w' => exact ⟨e', w', Act.bind_of_error hr _⟩
  | panic => exact ⟨_, _, rfl⟩
  | unanswered => exact ⟨_, _, rfl⟩

/-- With the values read and the dues taken, the function runs over the whole outer units that are left. -/
theorem serve_of_collected (hslot : api.slot < w.contexts.size)
    (hvs : G.memory.readValues w.guest ps = .ok vs)
    (hs : api.collect G.meter (payloadOf (totalBody vs)) w.guest = .ok () s)
    (hc : G.meter.remaining s = .ok c) :
    serve G api ps w =
      answer G api (payloadOf (totalBody vs)) (c % G.meter.multiplier) (loaded G api c s w)
        (api.function.call (vs.map Prod.fst) (c / G.meter.multiplier).toUInt64) := by
  have hquota : (loaded G api c s w).context api.slot = (c / G.meter.multiplier).toUInt64 := by
    rw [loaded, World.context_setContext _ (by exact hslot)]
  rw [← hquota]
  simp only [serve, hvs, hs, hc]
  rfl

section

variable {report : Report} (hslot : api.slot < w.contexts.size)
  (hvs : G.memory.readValues w.guest ps = .ok vs)
  (hs : api.collect G.meter (payloadOf (totalBody vs)) w.guest = .ok () s)
  (hc : G.meter.remaining s = .ok c)
  (hcall : api.function.call (vs.map Prod.fst) (c / G.meter.multiplier).toUInt64 = Report.ended left report)

include hslot hvs hs hc hcall

/-- The budget of a function that reported is settled in the guest that the dues left. -/
theorem serve_of_ended :
    serve G api ps w =
      settle G api (payloadOf (totalBody vs)) (c % G.meter.multiplier) report
        { w.setContext api.slot left with guest := s } := by
  rw [serve_of_collected hslot hvs hs hc, hcall, answer_of_ended, loaded, World.setContext_setContext]
  rfl

theorem serve_of_overflow (hm : 0 < G.meter.multiplier.toInt) (hleft : ¬ (report.isOk = false ∧ left = 0))
    (hover : G.meter.capacity < G.meter.due c left) :
    ∃ t, serve G api ps w =
      .error (.error (.gasOverflow t)) { w.setContext api.slot left with guest := s } := by
  obtain ⟨-, h0⟩ := GasMeter.remaining_eq_ok hc
  have hcontext : ({ w.setContext api.slot left with guest := s } : World γ).context api.slot = left :=
    w.context_setContext hslot left
  obtain ⟨t, ht⟩ : ∃ t, reconcile G api (c % G.meter.multiplier) report
      { w.setContext api.slot left with guest := s } =
        .error (.error (.gasOverflow t)) { w.setContext api.slot left with guest := s } :=
    reconcile_of_over hm (Word.mod_nonneg h0 hm) (by rwa [hcontext]) (by rwa [hcontext, Word.toInt_mod h0])
  exact ⟨t, (serve_of_ended hslot hvs hs hc hcall).trans (Act.bind_of_error ht _)⟩

end

/-! ## Guests whose counter is apart from all else -/

theorem Buffer.hidden {m : Int64} {view : Buffer → α} (h : ∀ s g, view { s with counter := g } = view s) :
    (Buffer.guest m).meter.Hidden view := by
  rintro g s s' hs
  cases hs
  exact h s g

theorem Buffer.tidy (m : Int64) : (Buffer.guest m).Tidy Buffer.content := by
  intro size w
  refine .of_eq ?_
  unfold Buffer.guest
  dsimp only
  cases hr : Buffer.reserve size w.guest with
  | error e => rfl
  | ok r =>
    have hkeeps := congrArg Buffer.content (Buffer.eq_of_reserve hr)
    exact hkeeps

namespace Linked

variable (L : Linked) (invoke : Invocation)

/-- The store but for the counter, whether that is a global or the fuel. -/
def besides (s : Wasm.Store) : Wasm.Store :=
  match L.config.gas.metering with
  | .fuel => { s with fuel := {} }
  | .globalCounter =>
    match L.counterIndex with
    | .ok i => { s with globals := s.globals.setIfInBounds i (.i64 0) }
    | .error _ => s

theorem bytes_hidden : (L.guest invoke).meter.Hidden L.bytes := fun _ _ _ h => L.bytes_store h

/-- What the host stores on the counter changes nothing else in the store. -/
theorem besides_hidden : (L.guest invoke).meter.Hidden L.besides := by
  intro g s s' h
  change L.meter.store g s = .ok s' at h
  unfold meter at h
  dsimp only at h
  unfold besides
  cases hmode : L.config.gas.metering with
  | fuel =>
    rw [hmode] at h
    cases h
    rfl
  | globalCounter =>
    rw [hmode] at h
    obtain ⟨i, hi, h⟩ := bind_eq_ok.mp h
    simp only [hi]
    split at h <;> cases h
    simp

end Linked

/-! ## Host calls that fail -/

/-- **A failing host call leaves the guest's data alone**, if allocating does not write memory. No byte of the
memory changes, wherever the call fails. If some pointer has no value, the failure is that of the first such
pointer, and nothing at all changes. If the charge fails, nothing but the counter can have changed. In neither
case has the function run. If the function fails, or leaves more than the counter takes, nothing has been
allocated. -/
theorem dispatch_restrained (hm : 0 < G.meter.multiplier.toInt) (hcontent : G.meter.Hidden content)
    (hreserve : G.meter.Hidden reserve) (hA : G.Tidy content) (api : LinkedApi)
    (hslot : api.slot < w.contexts.size) (ps : List Pointer) :
    (∀ e w', dispatch G api ps w = .error e w' → Intact content w.guest w'.guest) ∧
    ((∃ p ∈ ps, ∃ e, G.memory.readValue p w.guest = .error e) →
      ∃ before p after e, ps = before ++ p :: after ∧
        (∀ q ∈ before, ∃ v, G.memory.readValue q w.guest = .ok v) ∧
        G.memory.readValue p w.guest = .error e ∧
        ∀ f, Unallocated G content reserve { api with function := f } ps w (.error e) w) ∧
    ∀ vs, ps.map (G.memory.readValue · w.guest) = vs.map .ok →
      (∀ e s, 0 < payloadOf (totalBody vs) →
        api.rule.charge G.meter (payloadOf (totalBody vs)) w.guest = .error e s →
        ∀ f, Unallocated G content reserve { api with function := f } ps w (.error (.ofGas e))
          { w with guest := s }) ∧
      ∀ s c, api.collect G.meter (payloadOf (totalBody vs)) w.guest = .ok () s →
        G.meter.remaining s = .ok c →
        (∀ e left, api.function.call (vs.map Prod.fst) (c / G.meter.multiplier).toUInt64 = .error e left →
          ∃ e' w', Unallocated G content reserve api ps w e' w') ∧
        ∀ report left, api.function.call (vs.map Prod.fst) (c / G.meter.multiplier).toUInt64 =
            Report.ended left report →
          ¬ (report.isOk = false ∧ left = 0) → G.meter.capacity < G.meter.due c left →
          ∃ t w', Unallocated G content reserve api ps w (.error (.gasOverflow t)) w' := by
  refine ⟨fun e w' => hA.dispatch hcontent, ?unread, ?read⟩
  case unread =>
    rintro ⟨p, hp, e, he⟩
    obtain ⟨e', hvs⟩ := GuestMemory.readValues_of_unread hp he
    obtain ⟨before, q, after, hps, hbefore, hq⟩ := GuestMemory.readValues_unread hvs
    refine ⟨before, q, after, e', hps, hbefore, hq, fun f => .of_serve hcontent hreserve ?_⟩
    simp only [serve, hvs]
  case read =>
    intro vs hread
    have hvs := GuestMemory.readValues_eq_ok_iff.mpr hread
    refine ⟨?uncharged, ?charged⟩
    case uncharged =>
      intro e s hpayload he f
      refine .of_serve hcontent hreserve ?_
      have hcollect : LinkedApi.collect { api with function := f } G.meter (payloadOf (totalBody vs)) w.guest =
          .error e s := by
        rw [LinkedApi.collect, if_pos hpayload]
        exact he
      simp only [serve, hvs, hcollect]
    case charged =>
      intro s c hs hc
      refine ⟨?failed, ?overflowed⟩
      case failed =>
        intro e left hcall
        have hserve := serve_of_collected hslot hvs hs hc
        rw [hcall] at hserve
        obtain ⟨e', w', hend⟩ := answer_of_failed G api (payloadOf (totalBody vs)) (c % G.meter.multiplier)
          (loaded G api c s w) e left
        exact ⟨e', w', .of_serve hcontent hreserve (hserve.trans hend)⟩
      case overflowed =>
        intro report left hcall hleft hover
        obtain ⟨t, hend⟩ := serve_of_overflow hslot hvs hs hc hcall hm hleft hover
        exact ⟨t, _, .of_serve hcontent hreserve hend⟩

/-- Where the result has no room; where a pointer has no value; where the dues are not covered; where the
function fails; and where it leaves too much. -/
theorem dispatch_restrained_hundred :
    (∃ e w', dispatch (Buffer.guest 100) negator [16] (Buffer.holding (.bool true) 0 1050) = .error e w' ∧
      Intact Buffer.content (Buffer.holding (.bool true) 0 1050).guest w'.guest) ∧
    (∃ e, ∀ f, Unallocated (Buffer.guest 100) Buffer.content Buffer.allocator { negator with function := f }
      [16, -1] (Buffer.holding (.bool true) 0 1050) (.error e) (Buffer.holding (.bool true) 0 1050)) ∧
    (∃ s, ∀ f, Unallocated (Buffer.guest 100) Buffer.content Buffer.allocator { negator with function := f }
      [16] (Buffer.holding (.bool true) 0 5) (.error .outOfGas)
      { Buffer.holding (.bool true) 0 5 with guest := s }) ∧
    (∃ e w', Unallocated (Buffer.guest 100) Buffer.content Buffer.allocator refuser [16]
      (Buffer.holding (.bool true) 0 1050) e w') ∧
    ∃ t w', Unallocated (Buffer.guest 100) Buffer.content Buffer.allocator refueler [16]
      (Buffer.holding (.uint64 plenty) 0 1050) (.error (.gasOverflow t)) w' := by
  have hpos : 0 < (Buffer.guest 100).meter.multiplier.toInt := by decide
  have hcontent : (Buffer.guest 100).meter.Hidden Buffer.content := Buffer.hidden fun _ _ => rfl
  have hreserve : (Buffer.guest 100).meter.Hidden Buffer.allocator := Buffer.hidden fun _ _ => rfl
  have hA := Buffer.tidy 100
  refine ⟨?full, ?unread, ?uncharged, ?failed, ?overflowed⟩
  case full =>
    have hend : (Act.success? (dispatch (Buffer.guest 100) negator [16]
        (Buffer.holding (.bool true) 0 1050))).isNone := by decide +kernel
    cases hfails : dispatch (Buffer.guest 100) negator [16] (Buffer.holding (.bool true) 0 1050) with
    | ok p w' =>
      rw [hfails] at hend
      cases hend
    | error e w' =>
      exact ⟨e, w', rfl,
        (dispatch_restrained hpos hcontent hreserve hA negator (by decide) [16]).1 e w' hfails⟩
  case unread =>
    have hslot : negator.slot < (Buffer.holding (.bool true) 0 1050).contexts.size := by decide
    obtain ⟨before, p, after, e, -, -, -, hends⟩ :=
      (dispatch_restrained hpos hcontent hreserve hA negator hslot [16, -1]).2.1 ⟨-1, by simp, _, rfl⟩
    exact ⟨e, hends⟩
  case uncharged =>
    have huncovered : ∀ k, negator.rule.cost? (payloadOf 1) = some k →
        k.toInt < 0 ∨ (5 : Int64).toInt < k.toInt := by
      intro k hk
      cases hk
      decide
    exact ⟨_, ((dispatch_restrained hpos hcontent hreserve hA negator (by decide) [16]).2.2 _
      (reads_flag 5)).1 _ _ (by decide) (GasRule.charge_of_uncovered rfl (by decide) huncovered rfl)⟩
  case failed =>
    obtain ⟨s, hs⟩ := collect_refuser 1050 (by decide)
    have hs' : (Buffer.guest 100).meter.remaining s = .ok 1043 := by
      cases hs
      rfl
    exact (((dispatch_restrained hpos hcontent hreserve hA refuser (by decide) [16]).2.2 _
      (reads_flag 1050)).2 s 1043 hs hs').1 _ _ (refuser_call true 10)
  case overflowed =>
    have hread : [16].map ((Buffer.guest 100).memory.readValue ·
        (Buffer.holding (.uint64 plenty) 0 1050).guest) = [(.uint64 plenty, 8)].map .ok :=
      congrArg (fun r => [r]) (Buffer.readValue_holding (by decide) 0 1050 100)
    have hk : refueler.rule.cost? (payloadOf 8) = some 7 := rfl
    have hc : (Buffer.guest 100).meter.counter (Buffer.holding (.uint64 plenty) 0 1050).guest =
      .ok 1050 := rfl
    have hs : refueler.collect (Buffer.guest 100).meter (payloadOf (totalBody [(.uint64 plenty, 8)]))
        (Buffer.holding (.uint64 plenty) 0 1050).guest = .ok () _ :=
      (GasRule.charge_of_le hk hc (by decide) (by decide)).trans rfl
    exact (((dispatch_restrained hpos hcontent hreserve hA refueler (by decide) [16]).2.2 _ hread).2 _ 1043 hs
      rfl).2 (.ok none) plenty rfl nofun (by decide)

end AspectHost
