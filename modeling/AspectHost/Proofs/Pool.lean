import AspectHost.Proofs.Instantiation
import AspectHost.Proofs.Pool.Exits
import AspectHost.Proofs.Reset

/-! # The pool is transparent

An aspect holds on to the module that its code was read to, whatever is done with it, and comes back under
the key of that code. So what is idle under a key stems from the code with that key, and handing it out
after a reset, or building a new one, comes to the same. -/

namespace AspectHost

/-! ## What an aspect is made of -/

namespace Aspect

variable [Wasm.Engine] {a b : Aspect} {code : Bytes} {config : Config}

/-- The module of the aspect is that of the code, as long as it has one. -/
structure StemsFrom (code : Bytes) (config : Config) (a : Aspect) : Prop where
  checked : config.check = .ok ()
  module : ∀ c, a.compiled = some c → compile code config = .ok c.module
  config : a.config = config

namespace StemsFrom

theorem of_build {apis : Registry} (h : (build code apis config).1 = .ok a) :
    a.StemsFrom code config := by
  obtain ⟨hcheck, module, hread, hkeeps⟩ := Keeps.of_build h
  obtain ⟨apis, hc⟩ := hkeeps.compiled
  refine ⟨hcheck, ?_, hkeeps.config⟩
  intro c hc'
  cases hc.symm.trans hc'
  exact hread

variable (h : a.StemsFrom code config)

include h

theorem call (method : String) (gas : Int64) (args : List Value) :
    (a.call method gas args).state.StemsFrom code config := by
  unfold Aspect.call
  cases a.callable with
  | error e => exact h
  | ok live =>
    dsimp only
    split <;> exact ⟨h.checked, h.module, h.config⟩

theorem reset (apis : Registry) : (a.reset apis).state.StemsFrom code config := by
  unfold Aspect.reset
  split
  · exact h
  · cases hc : a.compiled with
    | none => exact h
    | some c =>
      have hmodule : ∀ c', some (⟨c.module, apis⟩ : Compiled) = some c' →
          compile code config = .ok c'.module := by
        intro c' hc'
        cases hc'
        exact h.module c hc
      dsimp only
      split <;> exact ⟨h.checked, hmodule, h.config⟩

theorem use (u : Use) : (a.use u).StemsFrom code config := by
  cases u with
  | call method gas args => exact h.call method gas args
  | reset apis => exact h.reset apis
  | release => exact ⟨h.checked, h.module, h.config⟩

theorem destroy : a.destroy.StemsFrom code config :=
  ⟨h.checked, nofun, h.config⟩

/-- An aspect that can be reset keeps the module of its code; another one refuses. -/
theorem keeps_or_refuses (apis : Registry) :
    (∃ module, compile code config = .ok module ∧ a.Keeps module config) ∨
      ∃ e, (a.reset apis).result = .error (.error e) := by
  cases hp : a.poisoned with
  | true =>
    right
    exact ⟨.failedLockEngine, by simp [Aspect.reset, hp]⟩
  | false =>
    cases hc : a.compiled with
    | none =>
      right
      exact ⟨.destroyed, by simp [Aspect.reset, hp, hc]⟩
    | some c => exact .inl ⟨c.module, h.module c hc, hp, h.config, c.apis, hc⟩

end StemsFrom

/-- The aspect is ready with an instance that joins the module of the code with the host functions. -/
structure Serves (code : Bytes) (apis : Registry) (config : Config) (a : Aspect) : Prop where
  state : a.state = .ready
  instance_ : ∃ module live, compile code config = .ok module ∧ a.compiled = some ⟨module, apis⟩ ∧
    a.live = some live ∧ live.linked.Joins ⟨module, apis⟩ config

/-- The result is that of a new build over budgets that hold something else. -/
inductive LikeBuild (code : Bytes) (r : Registry) (held : ApiKey → Quota) (config : Config) :
    Except (Stop HostError) Aspect → Prop
  | error {e : Stop HostError} (build : (build code r config).1 = .error e) :
    LikeBuild code r held config (.error e)
  | ok {a b : Aspect} (build : (build code r config).1 = .ok b) (alike : a.Alike b)
    (serves : a.Serves code (r.holding held) config) : LikeBuild code r held config (.ok a)

variable {module : Wasm.Module} (hcheck : config.check = .ok ())
  (hread : compile code config = .ok module) (r : Registry) (held : ApiKey → Quota)

include hcheck hread

/-- What a build and a reset both come down to. -/
theorem LikeBuild.of_instantiate : LikeBuild code r held config
    (match ((⟨module, r.holding held⟩ : Compiled).instantiate config).1 with
      | .ok live => .ok ⟨config, some ⟨module, r.holding held⟩, some live, false⟩
      | .error e => .error e) := by
  have hbuild := build_eq hcheck hread r
  obtain ⟨e, hheld, hfresh⟩ | ⟨l, l', hheld, hfresh, hl⟩ :=
    Compiled.instantiate_holding module r held config
  · rw [hfresh] at hbuild
    rw [hheld]
    exact .error hbuild
  · rw [hfresh] at hbuild
    have hjoins := (Compiled.instantiate_eq_ok hheld).1
    rw [hheld]
    exact .ok hbuild ⟨rfl, rfl, ⟨_, _, rfl, rfl⟩, l, l', rfl, rfl, hl⟩
      ⟨rfl, module, l, hread, rfl, rfl, hjoins⟩

omit hcheck hread in
theorem LikeBuild.of_build : LikeBuild code r held config (build code (r.holding held) config).1 := by
  cases hcheck : config.check with
  | error f =>
    have hbuild : ∀ apis, (build code apis config).1 = .error (.error f.toError) := by
      intro apis
      simp only [build, hcheck]
    rw [hbuild]
    exact .error (hbuild r)
  | ok u =>
    cases hread : compile code config with
    | error e =>
      have hbuild : ∀ apis, (build code apis config).1 = .error (.error e) := by
        intro apis
        simp only [build, hcheck, hread]
      rw [hbuild]
      exact .error (hbuild r)
    | ok module =>
      rw [build_eq hcheck hread]
      exact of_instantiate hcheck hread r held

theorem LikeBuild.of_reset (h : a.Keeps module config) : LikeBuild code r held config
    ((a.reset (r.holding held)).result.map fun _ => (a.reset (r.holding held)).state) := by
  have hlike := of_instantiate hcheck hread r held
  rw [reset_eq h]
  rcases hi : (⟨module, r.holding held⟩ : Compiled).instantiate config with ⟨i, events⟩
  rw [hi] at hlike
  cases i <;> exact hlike

end Aspect

/-! ## What is kept and what is handed out -/

/-- A pool and what it has handed out, each aspect with the key that it is to come back under. -/
structure Custody where
  pool : Pool
  out : List (String × Aspect) := []

/-- What happens to a pool and to what it has handed out. Aspects that are out go by their place. -/
inductive Move where
  | checkout (code : Bytes) (apis : Registry) (refresh : Bool)
  | use (place : Nat) (u : Use)
  | destroy (place : Nat)
  | giveBack (place : Nat)

/-- Only these codes are asked for. -/
def Move.Within (codes : Set Bytes) : Move → Prop
  | checkout code _ _ => code ∈ codes
  | _ => True

namespace Custody

variable [Wasm.Engine]

def move (c : Custody) : Move → Custody
  | .checkout code apis refresh =>
    let x := c.pool.checkout code apis refresh
    match x.result with
    | .ok e => ⟨x.pool, e :: c.out⟩
    | .error _ => ⟨x.pool, c.out⟩
  | .use place u => { c with out := c.out.modify place fun e => (e.1, e.2.use u) }
  | .destroy place => { c with out := c.out.modify place fun e => (e.1, e.2.destroy) }
  | .giveBack place =>
    match c.out[place]? with
    | none => c
    | some (key, a) => ⟨(c.pool.giveBack key a).pool, c.out.eraseIdx place⟩

/-- A new pool after a history. -/
def after (capacity : Nat) (config : Config) (moves : List Move) : Custody :=
  moves.foldl move ⟨Pool.new capacity config, []⟩

end Custody

/-- An aspect stems from one of the codes, and its key is that of this code. -/
def Filed [Wasm.Engine] (codes : Set Bytes) (config : Config) (e : String × Aspect) : Prop :=
  ∃ code ∈ codes, e.1 = poolKey code ∧ e.2.StemsFrom code config

variable {codes : Set Bytes} {config : Config}

namespace Pool

variable [Wasm.Engine] {p : Pool} {code : Bytes}

/-- Every idle aspect is filed. -/
structure Ordered (codes : Set Bytes) (config : Config) (p : Pool) : Prop where
  idle : ∀ e ∈ p.idle, Filed codes config e
  config : p.config = config

theorem Ordered.giveBack (h : p.Ordered codes config) {key : String} {a : Aspect}
    (ha : Filed codes config (key, a)) : (p.giveBack key a).pool.Ordered codes config := by
  obtain ⟨code, hcode, hkey, hstems⟩ := ha
  have hreleased : Filed codes config (key, a.release) := ⟨code, hcode, hkey, hstems.use .release⟩
  rw [giveBack_pool]
  refine ⟨?_, h.config⟩
  intro e he
  rcases Idle.mem_of_put e he with rfl | he
  · exact hreleased
  · exact h.idle e he

/-- A checkout takes at most the idle aspect under the key of the code, and what it hands out is that
aspect after a reset, or a new one. -/
theorem checkout_cases (p : Pool) (code : Bytes) (apis : Registry) (refresh : Bool) :
    (∃ idle, (∀ e ∈ idle, e ∈ p.idle) ∧ (p.checkout code apis refresh).pool = { p with idle }) ∧
    ((p.checkout code apis refresh).result =
        (Aspect.build code apis p.config).1.map (fun a => (poolKey code, a)) ∨
      ∃ a, (poolKey code, a) ∈ p.idle ∧ (∀ e, (a.reset apis).result ≠ .error (.error e)) ∧
        (p.checkout code apis refresh).result =
          ((a.reset apis).result.map fun _ => (a.reset apis).state).map fun a => (poolKey code, a)) := by
  have hgoes := p.checkout_goes code apis refresh
  generalize p.checkout code apis refresh = x at hgoes
  cases hgoes with
  | miss missing =>
    rw [buildFresh_pool, buildFresh_result]
    exact ⟨⟨p.idle, fun e he => he, rfl⟩, .inl rfl⟩
  | refresh taken =>
    rw [buildFresh_pool, buildFresh_result]
    exact ⟨⟨_, (Idle.mem_of_take? taken).2, rfl⟩, .inl rfl⟩
  | @hit a idle taken reset =>
    refine ⟨⟨idle, (Idle.mem_of_take? taken).2, rfl⟩, .inr ⟨a, (Idle.mem_of_take? taken).1, ?_, ?_⟩⟩
    · rw [reset]
      exact nofun
    · rw [reset]
      rfl
  | rebuild taken reset =>
    rw [buildFresh_pool, buildFresh_result]
    exact ⟨⟨_, (Idle.mem_of_take? taken).2, rfl⟩, .inl rfl⟩
  | @breakOff a idle e taken reset unreported =>
    refine ⟨⟨idle, (Idle.mem_of_take? taken).2, rfl⟩, .inr ⟨a, (Idle.mem_of_take? taken).1, ?_, ?_⟩⟩
    · rw [reset]
      intro cause hcause
      exact unreported cause (Except.error.inj hcause)
    · rw [reset]
      rfl

theorem Ordered.checkout_pool (h : p.Ordered codes config) (code : Bytes) (apis : Registry) (refresh : Bool) :
    (p.checkout code apis refresh).pool.Ordered codes config := by
  obtain ⟨⟨idle, hidle, hpool⟩, -⟩ := p.checkout_cases code apis refresh
  rw [hpool]
  exact ⟨fun e he => h.idle e (hidle e he), h.config⟩

theorem Ordered.checkout_out (h : p.Ordered codes config) (hcode : code ∈ codes) {apis : Registry}
    {refresh : Bool} {e : String × Aspect} (he : (p.checkout code apis refresh).result = .ok e) :
    Filed codes config e := by
  obtain ⟨-, hresult⟩ := p.checkout_cases code apis refresh
  rw [he] at hresult
  obtain hresult | ⟨a, ha, -, hresult⟩ := hresult
  · cases hbuild : (Aspect.build code apis p.config).1 with
    | error e =>
      rw [hbuild] at hresult
      cases hresult
    | ok a =>
      rw [hbuild] at hresult
      cases hresult
      rw [h.config] at hbuild
      exact ⟨code, hcode, rfl, .of_build hbuild⟩
  · obtain ⟨code', hcode', hkey, hstems⟩ := h.idle _ ha
    cases hreset : (a.reset apis).result with
    | error e =>
      rw [hreset] at hresult
      cases hresult
    | ok u =>
      rw [hreset] at hresult
      cases hresult
      exact ⟨code', hcode', hkey, hstems.reset apis⟩

/-- Where keys do not collide, a checkout does what a build does. -/
theorem Ordered.checkout_result (h : p.Ordered codes config) (hinj : codes.InjOn poolKey)
    (hcode : code ∈ codes) (r : Registry) (held : ApiKey → Quota) (refresh : Bool) :
    ∃ x, Aspect.LikeBuild code r held config x ∧
      (p.checkout code (r.holding held) refresh).result = x.map fun a => (poolKey code, a) := by
  obtain ⟨-, hresult | ⟨a, ha, hanswers, hresult⟩⟩ := p.checkout_cases code (r.holding held) refresh
  · rw [h.config] at hresult
    exact ⟨_, .of_build r held, hresult⟩
  · obtain ⟨code', hcode', hkey, hstems⟩ := h.idle _ ha
    -- What is idle under the key of the code stems from the code.
    cases hinj hcode hcode' hkey
    obtain ⟨module, hread, hkeeps⟩ | ⟨e, he⟩ := hstems.keeps_or_refuses (r.holding held)
    · exact ⟨_, .of_reset hstems.checked hread r held hkeeps, hresult⟩
    · exact absurd he (hanswers e)

end Pool

namespace Custody

section

variable [Wasm.Engine]

/-- Everything in custody is filed, idle or out. -/
structure Ordered (codes : Set Bytes) (config : Config) (c : Custody) : Prop where
  pool : c.pool.Ordered codes config
  out : ∀ e ∈ c.out, Filed codes config e

variable {c : Custody}

theorem Ordered.change (h : c.Ordered codes config) (place : Nat) {f : Aspect → Aspect}
    (hf : ∀ {code a}, Aspect.StemsFrom code config a → (f a).StemsFrom code config) :
    Ordered codes config { c with out := c.out.modify place fun e => (e.1, f e.2) } := by
  refine ⟨h.pool, ?_⟩
  intro e he
  obtain ⟨i, hi, rfl⟩ := List.getElem_of_mem he
  rw [List.getElem_modify]
  have hfiled := h.out _ (List.getElem_mem (by simpa using hi))
  split
  · obtain ⟨code, hcode, hkey, hstems⟩ := hfiled
    exact ⟨code, hcode, hkey, hf hstems⟩
  · exact hfiled

theorem Ordered.move (h : c.Ordered codes config) {m : Move} (hm : m.Within codes) :
    (c.move m).Ordered codes config := by
  cases m with
  | checkout code apis refresh =>
    have hpool := h.pool.checkout_pool code apis refresh
    unfold Custody.move
    dsimp only
    cases hx : (c.pool.checkout code apis refresh).result with
    | error e => exact ⟨hpool, h.out⟩
    | ok e =>
      refine ⟨hpool, ?_⟩
      intro x hx'
      rcases List.mem_cons.mp hx' with rfl | hx'
      · exact h.pool.checkout_out hm hx
      · exact h.out x hx'
  | use place u => exact h.change place fun hstems => hstems.use u
  | destroy place => exact h.change place fun hstems => hstems.destroy
  | giveBack place =>
    unfold Custody.move
    dsimp only
    cases hplace : c.out[place]? with
    | none => exact h
    | some e =>
      have he := h.out e (List.mem_of_getElem? hplace)
      exact ⟨h.pool.giveBack he, fun x hx => h.out x (List.mem_of_mem_eraseIdx hx)⟩

theorem ordered_after (config : Config) (capacity : Nat) {moves : List Move}
    (h : ∀ m ∈ moves, m.Within codes) :
    (after capacity config moves).Ordered codes config := by
  have hnew : Ordered codes config ⟨Pool.new capacity config, []⟩ :=
    ⟨⟨List.forall_mem_nil _, rfl⟩, List.forall_mem_nil _⟩
  unfold after
  generalize (⟨Pool.new capacity config, []⟩ : Custody) = c at hnew ⊢
  induction moves generalizing c with
  | nil => exact hnew
  | cons m ms ih =>
    exact ih (fun m hm => h m (.tail _ hm)) _ (hnew.move (h m (.head _)))

/-- **The pool is transparent.** After any history of checkouts, uses and returns, a checkout succeeds or
fails as a build does. If it succeeds, what it hands out is ready, joins the code with the host functions
asked for, and answers to whatever comes as the new aspect does. -/
theorem checkout_like_build (hinj : codes.InjOn poolKey) (capacity : Nat) {moves : List Move}
    (hmoves : ∀ m ∈ moves, m.Within codes) {code : Bytes} (hcode : code ∈ codes) (r : Registry)
    (held : ApiKey → Quota) (refresh : Bool) :
    let x := (after capacity config moves).pool.checkout code (r.holding held) refresh
    x.result.map (fun _ => ()) = (Aspect.build code r config).1.map (fun _ => ()) ∧
      ∀ b, (Aspect.build code r config).1 = .ok b →
        ∃ a, x.result = .ok (poolKey code, a) ∧ a.Serves code (r.holding held) config ∧
          ∀ requests, a.replies requests = b.replies requests := by
  obtain ⟨x, hlike, hresult⟩ :=
    (ordered_after config capacity hmoves).pool.checkout_result hinj hcode r held refresh
  dsimp only
  rw [hresult]
  -- Nothing below is about what the key is.
  generalize poolKey code = key
  cases hlike with
  | error hbuild =>
    rw [hbuild]
    refine ⟨rfl, ?_⟩
    intro b hb
    cases hb
  | ok hbuild halike hserves =>
    rw [hbuild]
    refine ⟨rfl, ?_⟩
    intro b hb
    cases hb
    exact ⟨_, rfl, hserves, halike.replies⟩

end

open Aspect in
theorem checkout_like_build_idle :
    ∃ a, ((after 1 fuelled [.checkout idleCode oneFunction false, .use 0 (.call "f" 5 []),
        .giveBack 0]).pool.checkout idleCode (oneFunction.holding fun _ => 7) false).result =
      .ok (poolKey idleCode, a) ∧ a.Serves idleCode (oneFunction.holding fun _ => 7) fuelled ∧
        ∀ requests, a.replies requests = idle.replies requests := by
  have hinj : Set.InjOn poolKey {idleCode} := Set.injOn_singleton poolKey idleCode
  have hmoves : ∀ m ∈ [Move.checkout idleCode oneFunction false, .use 0 (.call "f" 5 []), .giveBack 0],
      m.Within {idleCode} := by
    intro m hm
    simp only [List.mem_cons, List.not_mem_nil, or_false] at hm
    rcases hm with rfl | rfl | rfl
    · exact Set.mem_singleton idleCode
    · trivial
    · trivial
  exact (checkout_like_build hinj 1 hmoves (Set.mem_singleton idleCode) oneFunction (fun _ => 7)
    false).2 idle build_idle

end Custody
end AspectHost
