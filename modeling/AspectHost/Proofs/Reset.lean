import AspectHost.Proofs.Running
import AspectHost.Wasm.Interpreter

/-! # A reset aspect is like a new one

What a reset keeps of an aspect is its module and its configuration, and no use of an aspect changes those.
So a reset makes the instance that a build would make, up to what the budgets of host functions hold, and
nothing depends on that. -/

namespace AspectHost

/-! ## Budgets that hold something else -/

/-- The same host functions over budgets that hold something else. -/
def Registry.holding (r : Registry) (held : ApiKey → Quota) : Registry :=
  ⟨r.modules.map fun module => NameMap.map fun space => NameMap.map fun method api =>
    { api with context := held ⟨module, space, method⟩ }⟩

section

variable (r : Registry) (held : ApiKey → Quota)

theorem toList_holding :
    (r.holding held).toList = r.toList.map fun e => (e.1, { e.2 with context := held e.1 }) := by
  unfold Registry.toList Registry.entries Registry.holding NameMap.map
  simp only [List.flatMap_map, List.map_flatMap, List.map_map, Function.comp_def]

theorem ofRegistry_holding : LinkedApi.ofRegistry (r.holding held) = LinkedApi.ofRegistry r := by
  unfold LinkedApi.ofRegistry
  rw [toList_holding, List.zipIdx_map, List.map_map]
  rfl

theorem keys_holding : (r.holding held).toList.map (·.1) = r.toList.map (·.1) := by
  rw [toList_holding, List.map_map]
  rfl

theorem size_contexts_holding : (r.holding held).contexts.size = r.contexts.size := by
  simp [Registry.contexts, toList_holding]

/-- Linking does not look at budgets. -/
theorem linker_holding : Linker.ofRegistry (r.holding held) = Linker.ofRegistry r := by
  unfold Linker.ofRegistry Linker.ofApis
  rw [keys_holding, ofRegistry_holding]

end

/-- The instances differ at most in what their budgets hold. -/
structure Live.Alike (l l' : Live) : Prop where
  linked : l.linked = l'.linked
  store : l.store = l'.store
  size : l.contexts.size = l'.contexts.size

namespace Compiled

theorem prepare_holding (m : Wasm.Module) (r : Registry) (held : ApiKey → Quota) (config : Config) :
    (∃ e, (⟨m, r.holding held⟩ : Compiled).prepare config = .error e ∧
      (⟨m, r⟩ : Compiled).prepare config = .error e) ∨
    ∃ l, l.contexts = r.contexts ∧ (⟨m, r⟩ : Compiled).prepare config = .ok l ∧
      (⟨m, r.holding held⟩ : Compiled).prepare config =
        .ok { l with contexts := (r.holding held).contexts } := by
  have hprogram : (⟨m, r.holding held⟩ : Compiled).program config =
      (⟨m, r⟩ : Compiled).program config := rfl
  have hrange : (⟨m, r.holding held⟩ : Compiled).memoryRange config =
      (⟨m, r⟩ : Compiled).memoryRange config := rfl
  have hblank : (⟨m, r.holding held⟩ : Compiled).blankStore config =
      (⟨m, r⟩ : Compiled).blankStore config := rfl
  unfold prepare
  dsimp only
  rw [linker_holding, hprogram, hrange, hblank]
  simp only [bind, Except.bind, throw, throwThe, MonadExceptOf.throw, pure, Except.pure]
  cases Linker.ofRegistry r with
  | error e => exact .inl ⟨e, rfl, rfl⟩
  | ok l =>
    dsimp only
    cases l.resolve m with
    | error e => exact .inl ⟨e, rfl, rfl⟩
    | ok imports =>
      dsimp only
      cases (⟨m, r⟩ : Compiled).program config with
      | none => exact .inl ⟨_, rfl, rfl⟩
      | some program =>
        dsimp only
        split
        · exact .inl ⟨_, rfl, rfl⟩
        · cases m.elements.foldlM placeElements ((⟨m, r⟩ : Compiled).blankStore config) with
          | error e => exact .inl ⟨e, rfl, rfl⟩
          | ok s =>
            dsimp only
            cases m.data.foldlM placeData s with
            | error e => exact .inl ⟨e, rfl, rfl⟩
            | ok s => exact .inr ⟨_, rfl, rfl, rfl⟩

/-- Instantiating does not look at budgets. -/
theorem instantiate_holding [Wasm.Engine] (m : Wasm.Module) (r : Registry) (held : ApiKey → Quota)
    (config : Config) :
    (∃ e, ((⟨m, r.holding held⟩ : Compiled).instantiate config).1 = .error e ∧
      ((⟨m, r⟩ : Compiled).instantiate config).1 = .error e) ∨
    ∃ l l', ((⟨m, r.holding held⟩ : Compiled).instantiate config).1 = .ok l ∧
      ((⟨m, r⟩ : Compiled).instantiate config).1 = .ok l' ∧ l.Alike l' := by
  unfold instantiate
  obtain ⟨e, hheld, hfresh⟩ | ⟨l, hcontexts, hfresh, hheld⟩ := prepare_holding m r held config
  · rw [hheld, hfresh]
    exact .inl ⟨_, rfl, rfl⟩
  · have hsize : (r.holding held).contexts.size = l.contexts.size := by
      rw [hcontexts, size_contexts_holding]
    rw [hheld, hfresh]
    dsimp only
    cases m.start with
    | none => exact .inr ⟨_, _, rfl, rfl, rfl, rfl, hsize⟩
    | some f =>
      dsimp only
      obtain ⟨a, w, w', hr, hr', hw⟩ | ⟨e, w, w', hr, hr', hw⟩ := (l.linked.blind_invoke f []
        ⟨l.store, (r.holding held).contexts, #[]⟩ ⟨l.store, l.contexts, #[]⟩ ⟨rfl, rfl, hsize⟩).ends
      · rw [hr, hr']
        exact .inr ⟨_, _, rfl, rfl, rfl, hw.guest, hw.size⟩
      · rw [hr, hr']
        exact .inl ⟨_, rfl, rfl⟩

end Compiled

/-! ## Histories -/

/-- What can be done with an aspect short of destroying it. -/
inductive Use where
  | call (method : String) (gas : Int64) (args : List Value)
  | reset (apis : Registry)
  | release

namespace Aspect

section

variable [Wasm.Engine]

def use (a : Aspect) : Use → Aspect
  | .call method gas args => (a.call method gas args).state
  | .reset apis => (a.reset apis).state
  | .release => a.release

/-- The aspect after a history. -/
def after (a : Aspect) (history : List Use) : Aspect := history.foldl use a

/-- Whether a host function breaks off. -/
def breaksOff (a : Aspect) : Use → Bool
  | .call method gas args =>
    match (a.call method gas args).result with
    | .error .panic => true
    | _ => false
  | .reset apis =>
    match (a.reset apis).result with
    | .error .panic => true
    | _ => false
  | .release => false

/-- No host function breaks off in the history. -/
def Quiet : Aspect → List Use → Prop
  | _, [] => True
  | a, u :: us => a.breaksOff u = false ∧ Quiet (a.use u) us

/-- The aspect can be reset to the module and the configuration that it was built with. -/
structure Keeps (module : Wasm.Module) (config : Config) (a : Aspect) : Prop where
  sound : a.poisoned = false
  config : a.config = config
  compiled : ∃ apis, a.compiled = some ⟨module, apis⟩

variable {a b : Aspect} {module : Wasm.Module} {config : Config}

theorem Keeps.call (h : a.Keeps module config) {method : String} {gas : Int64} {args : List Value}
    (hu : a.breaksOff (.call method gas args) = false) :
    (a.call method gas args).state.Keeps module config := by
  unfold breaksOff at hu
  unfold Aspect.call at hu ⊢
  cases hc : a.callable with
  | error e => exact h
  | ok live =>
    simp only [hc] at hu ⊢
    cases hr : live.linked.toInstance.call a.config.initExport method gas args
      ⟨live.store, live.contexts, #[]⟩ with
    | ok output w => exact ⟨h.sound, h.config, h.compiled⟩
    | error e w =>
      simp only [hr] at hu
      refine ⟨?_, h.config, h.compiled⟩
      cases e with
      | error e => exact (Bool.or_false _).trans h.sound
      | panic => cases hu
      | unanswered => exact (Bool.or_false _).trans h.sound

theorem reset_eq (h : a.Keeps module config) (apis : Registry) :
    a.reset apis =
      match (⟨module, apis⟩ : Compiled).instantiate config with
      | (.ok live, events) =>
        ⟨.ok (), ⟨config, some ⟨module, apis⟩, some live, false⟩, events.toList⟩
      | (.error e, events) =>
        ⟨.error e, ⟨config, some ⟨module, apis⟩, none, e = .panic⟩, events.toList⟩ := by
  obtain ⟨old, hc⟩ := h.compiled
  unfold reset
  rw [if_neg (by rw [h.sound]; decide), hc, h.config]
  dsimp only
  rcases (⟨module, apis⟩ : Compiled).instantiate config with ⟨r, events⟩
  cases r with
  | ok live => simp only [h.sound]
  | error e => cases e <;> rfl

theorem Keeps.reset (h : a.Keeps module config) {apis : Registry}
    (hu : a.breaksOff (.reset apis) = false) : (a.reset apis).state.Keeps module config := by
  simp only [breaksOff] at hu
  rw [reset_eq h] at hu ⊢
  rcases hr : (⟨module, apis⟩ : Compiled).instantiate config with ⟨r, events⟩
  cases r with
  | ok live => exact ⟨rfl, rfl, apis, rfl⟩
  | error e =>
    rw [hr] at hu
    cases e with
    | error e => exact ⟨rfl, rfl, apis, rfl⟩
    | panic => cases hu
    | unanswered => exact ⟨rfl, rfl, apis, rfl⟩

theorem Keeps.use (h : a.Keeps module config) {u : Use} (hu : a.breaksOff u = false) :
    (a.use u).Keeps module config := by
  cases u with
  | call method gas args => exact h.call hu
  | reset apis => exact h.reset hu
  | release => exact ⟨h.sound, h.config, h.compiled⟩

theorem Keeps.after (h : a.Keeps module config) {history : List Use} (hq : a.Quiet history) :
    (a.after history).Keeps module config := by
  induction history generalizing a with
  | nil => exact h
  | cons u us ih => exact ih (h.use hq.1) hq.2

/-! ## Replies -/

/-- The aspects differ at most in what their budgets hold. -/
structure Alike (a b : Aspect) : Prop where
  config : a.config = b.config
  poisoned : a.poisoned = b.poisoned
  compiled : ∃ c c', a.compiled = some c ∧ b.compiled = some c'
  live : ∃ l l', a.live = some l ∧ b.live = some l' ∧ l.Alike l'

omit [Wasm.Engine] in
theorem Alike.state (h : a.Alike b) : a.state = b.state := by
  obtain ⟨c, c', hc, hc'⟩ := h.compiled
  obtain ⟨l, l', hl, hl', -⟩ := h.live
  simp only [Aspect.state, h.poisoned, hc, hc', hl, hl']

/-- Calls do not tell such aspects apart, and leave such aspects. -/
theorem Alike.call (h : a.Alike b) (method : String) (gas : Int64) (args : List Value) :
    (a.call method gas args).result = (b.call method gas args).result ∧
      (a.call method gas args).events = (b.call method gas args).events ∧
      (a.call method gas args).state.Alike (b.call method gas args).state := by
  obtain ⟨c, c', hc, hc'⟩ := h.compiled
  obtain ⟨⟨linked, store, contexts⟩, ⟨linked', store', contexts'⟩, hl, hl', hlinked, hstore, hsize⟩ :=
    h.live
  simp only at hlinked hstore hsize
  subst hlinked hstore
  unfold Aspect.call
  cases hp : b.poisoned with
  | true =>
    have ha : a.callable = .error .failedLockEngine := by simp only [callable, h.poisoned, hp]; rfl
    have hb : b.callable = .error .failedLockEngine := by simp only [callable, hp]; rfl
    rw [ha, hb]
    exact ⟨rfl, rfl, h⟩
  | false =>
    have ha : a.callable = .ok ⟨linked, store, contexts⟩ := by
      simp only [callable, h.poisoned, hp, hc, hl]
      rfl
    have hb : b.callable = .ok ⟨linked, store, contexts'⟩ := by
      simp only [callable, hp, hc', hl']
      rfl
    have hblind := Instance.blind_call (I := linked.toInstance)
      (linked.blind_guest linked.blind_invoke) linked.blind_invoke b.config.initExport method gas args
    rw [ha, hb]
    dsimp only
    rw [h.config]
    obtain ⟨output, w, w', hr, hr', hw⟩ | ⟨e, w, w', hr, hr', hw⟩ :=
      (hblind ⟨store, contexts, #[]⟩ ⟨store, contexts', #[]⟩ ⟨rfl, rfl, hsize⟩).ends
    · simp only [hr, hr']
      exact ⟨trivial, congrArg Array.toList hw.events, rfl, h.poisoned, ⟨c, c', hc, hc'⟩,
        _, _, rfl, rfl, rfl, hw.guest, hw.size⟩
    · simp only [hr, hr', h.poisoned]
      exact ⟨trivial, congrArg Array.toList hw.events, rfl, rfl, ⟨c, c', hc, hc'⟩,
        _, _, rfl, rfl, rfl, hw.guest, hw.size⟩

structure Request where
  method : String
  gas : Int64
  args : List Value

/-- All that shows of a call. -/
structure Reply where
  result : Except (Stop CallError) CallOutput
  events : List Event
  state : Lifecycle

/-- What the aspect answers to one call after the other. -/
def replies (a : Aspect) : List Request → List Reply
  | [] => []
  | r :: rs =>
    let answer := a.call r.method r.gas r.args
    ⟨answer.result, answer.events, answer.state.state⟩ :: replies answer.state rs

theorem Alike.replies (h : a.Alike b) (requests : List Request) :
    a.replies requests = b.replies requests := by
  induction requests generalizing a b with
  | nil => rfl
  | cons r rs ih =>
    obtain ⟨hresult, hevents, hstate⟩ := h.call r.method r.gas r.args
    simp only [Aspect.replies]
    rw [hresult, hevents, hstate.state, ih hstate]

/-! ## Resetting -/

theorem build_eq {code : Bytes} (hcheck : config.check = .ok ())
    (hread : compile code config = .ok module) (apis : Registry) :
    (build code apis config).1 =
      match ((⟨module, apis⟩ : Compiled).instantiate config).1 with
      | .ok live => .ok ⟨config, some ⟨module, apis⟩, some live, false⟩
      | .error e => .error e := by
  unfold build
  rw [hcheck, hread]
  dsimp only
  rcases (⟨module, apis⟩ : Compiled).instantiate config with ⟨r, events⟩
  cases r <;> rfl

/-- What is built was compiled, and keeps what it was built with. -/
theorem Keeps.of_build {code : Bytes} {apis : Registry} (h : (build code apis config).1 = .ok a) :
    config.check = .ok () ∧ ∃ module, compile code config = .ok module ∧ a.Keeps module config := by
  cases hcheck : config.check with
  | error f =>
    simp only [build, hcheck] at h
    cases h
  | ok u =>
    cases hread : compile code config with
    | error e =>
      simp only [build, hcheck, hread] at h
      cases h
    | ok module =>
      rw [build_eq hcheck hread] at h
      refine ⟨rfl, module, rfl, ?_⟩
      cases hr : ((⟨module, apis⟩ : Compiled).instantiate config).1 with
      | error e =>
        rw [hr] at h
        cases h
      | ok live =>
        rw [hr] at h
        cases h
        exact ⟨rfl, rfl, apis, rfl⟩

/-- **A reset aspect is like a new one.** After any history in which no host function broke off, a reset
succeeds or fails as a build would; if it succeeds, the aspect answers to whatever comes as the new one
does. What the budgets of the host functions held before does not show. -/
theorem reset_like_build {code : Bytes} {apis : Registry} (h : (build code apis config).1 = .ok a)
    {history : List Use} (hq : a.Quiet history) (r : Registry) (held : ApiKey → Quota) :
    ((a.after history).reset (r.holding held)).result =
        (build code r config).1.map (fun _ => ()) ∧
      ∀ b, (build code r config).1 = .ok b →
        ((a.after history).reset (r.holding held)).state.state = b.state ∧
        ∀ requests, ((a.after history).reset (r.holding held)).state.replies requests =
          b.replies requests := by
  obtain ⟨hcheck, module, hread, hkeeps⟩ := Keeps.of_build h
  -- Reset and build both instantiate the module; only the budgets can differ.
  have hreset := reset_eq (hkeeps.after hq) (r.holding held)
  rcases hi : (⟨module, r.holding held⟩ : Compiled).instantiate config with ⟨i, events⟩
  obtain ⟨e, hheld, hfresh⟩ | ⟨l, l', hheld, hfresh, hl⟩ :=
    Compiled.instantiate_holding module r held config
  · rw [hi] at hheld hreset
    cases hheld
    rw [hreset, build_eq hcheck hread, hfresh]
    refine ⟨rfl, ?_⟩
    intro b hb
    cases hb
  · rw [hi] at hheld hreset
    cases hheld
    rw [hreset, build_eq hcheck hread, hfresh]
    refine ⟨rfl, ?_⟩
    intro b hb
    cases hb
    have halike : Alike ⟨config, some ⟨module, r.holding held⟩, some l, false⟩
        ⟨config, some ⟨module, r⟩, some l', false⟩ :=
      ⟨rfl, rfl, ⟨_, _, rfl, rfl⟩, l, l', rfl, rfl, hl⟩
    exact ⟨halike.state, halike.replies⟩

end

/-- A module that exports one function, which does nothing. -/
def idleCode : Bytes :=
  [0x00, 0x61, 0x73, 0x6d, 0x01, 0x00, 0x00, 0x00, 0x01, 0x04, 0x01, 0x60, 0x00, 0x00, 0x03, 0x02,
    0x01, 0x00, 0x07, 0x05, 0x01, 0x01, 0x66, 0x00, 0x00, 0x0a, 0x04, 0x01, 0x02, 0x00, 0x0b]

def fuelled : Config := { gas := { metering := .fuel } }

/-- One host function, whose budget starts empty. -/
def oneFunction : Registry :=
  Registry.empty.insert ⟨"m", "n", "negate"⟩
    { function := .lower fun b : Bool => (⟨fun _ => .ok (!b) 0⟩ : Computation Empty Bool) }

def idle : Aspect :=
  match (build idleCode oneFunction fuelled).1 with
  | .ok a => a
  | .error _ => ⟨{}, none, none, false⟩

theorem build_idle : (build idleCode oneFunction fuelled).1 = .ok idle := by
  have hok : (build idleCode oneFunction fuelled).1.isOk = true := by decide +kernel
  unfold idle
  cases hb : (build idleCode oneFunction fuelled).1 with
  | error e =>
    rw [hb] at hok
    cases hok
  | ok a => rfl

theorem reset_like_build_idle :
    ∃ b, (build idleCode oneFunction fuelled).1 = .ok b ∧ ∀ requests,
      ((idle.after [.call "f" 5 [], .release]).reset (oneFunction.holding fun _ => 7)).state.replies
        requests = b.replies requests := by
  have quiet : idle.Quiet [.call "f" 5 [], .release] :=
    ⟨by decide +kernel, by decide +kernel, trivial⟩
  obtain ⟨-, hlike⟩ := reset_like_build build_idle quiet oneFunction fun _ => 7
  exact ⟨idle, build_idle, (hlike idle build_idle).2⟩

end Aspect

end AspectHost
