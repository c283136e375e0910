import AspectHost.Linked
import AspectHost.Session

/-! Aspects: compiled guest code with at most one live instance. An aspect is built ready for calls. Releasing
it drops the instance, resetting it makes a new one, and destroying it is the end. A host function that
breaks off poisons the aspect: nothing can be called on it any more, but it can still be torn down. -/

namespace AspectHost

/-- Guest code and the host functions that its instances are linked to. -/
structure Compiled where
  module : Wasm.Module
  apis : Registry

/-- A live instance with everything that calls change. -/
structure Live where
  linked : Linked
  store : Wasm.Store
  contexts : Array UInt64

/-- The module of code, as an engine set up for the configuration reads it. -/
def compile [Wasm.Engine] (code : Bytes) (config : Config) : Except HostError Wasm.Module := do
  (Wasm.Engine.setUp config).mapError .compilation
  (Wasm.Engine.read code).mapError .compilation

/-! ## Instantiation -/

namespace Compiled

variable (c : Compiled)

/-- The memory that an instance starts with and the most that it may have, in bytes. -/
def memoryRange (config : Config) : Nat × Nat :=
  match c.module.memorySpace with
  | [] => (0, 0)
  | l :: _ =>
    let declared := (l.max.getD Wasm.maxPages) * Wasm.pageSize
    (l.min * Wasm.pageSize, min declared config.maxMemorySize.toNat)

def functions : Option (List Wasm.Function) := do
  let m := c.module
  let imported ← m.importedFunctions.mapM fun t => Wasm.Function.imported <$> m.types[t]?
  let defined ← (m.functions.zip m.code).mapM fun (t, b) => do
    let type ← m.types[t]?
    let vars := b.locals.flatMap fun (n, t) => List.replicate n (Wasm.Val.initial t)
    return Wasm.Function.defined type vars b.code
  return imported ++ defined

/-- The largest table. -/
def maxTable : Nat := 0xFFFFFFFF

def program (config : Config) : Option Wasm.Program := do
  let functions ← c.functions
  return {
    types := c.module.types.toArray
    functions := functions.toArray
    memoryLimit := (c.memoryRange config).2
    tableLimits := (c.module.tableSpace.map fun t => t.limits.max.getD maxTable).toArray
    fuelled := config.gas.metering = .fuel }

/-- What an initial value stands for. Globals are never imported from the host, so none has a value yet. -/
def initialValue (t : Wasm.ValType) : Wasm.Initial → Wasm.Val
  | .value v => v
  | .func f => .func (some f)
  | .global _ => .initial t

def offset : Wasm.Initial → Nat
  | .value (.i32 n) => n.toNat
  | _ => 0

/-- The store before any segment is copied. Only passive segments are there to be used later. -/
def blankStore (config : Config) : Wasm.Store where
  memory := Wasm.LinearMemory.grow ((c.memoryRange config).1 / Wasm.pageSize) ByteArray.empty
  globals := (c.module.globals.map fun g => initialValue g.type.type g.value).toArray
  tables := (c.module.tableSpace.map fun t =>
    Array.replicate t.limits.min (Wasm.Val.initial t.element)).toArray
  elements := (c.module.elements.map fun e =>
    if e.mode = .passive then e.items.map (initialValue e.type) else []).toArray
  data := (c.module.data.map fun d => if d.mode = .passive then d.bytes else []).toArray

/-- Copies an active element segment into its table. -/
def placeElements (s : Wasm.Store) (e : Wasm.ElementSegment) : Except HostError Wasm.Store :=
  match e.mode with
  | .active t at_ =>
    if offset at_ + e.items.length ≤ (s.table t).size then
      .ok (s.setEntries t (offset at_) (e.items.map (initialValue e.type)))
    else .error (.link (Wasm.Trap.message .tableOutOfBounds))
  | _ => .ok s

/-- Copies an active data segment into the memory. -/
def placeData (s : Wasm.Store) (d : Wasm.DataSegment) : Except HostError Wasm.Store :=
  match d.mode with
  | .active _ at_ =>
    if s.inMemory (offset at_) d.bytes.length then .ok (s.write (offset at_) d.bytes)
    else .error (.link (Wasm.Trap.message .memoryOutOfBounds))
  | _ => .ok s

/-- The instance before its start function has run. -/
def prepare (config : Config) : Except HostError Live := do
  let imports ← (← Linker.ofRegistry c.apis).resolve c.module
  let some program := c.program config | throw (.link "unknown type")
  if config.maxMemorySize.toNat < (c.memoryRange config).1 then
    throw (.link "memory minimum size exceeds memory limits")
  let store ← c.module.elements.foldlM placeElements (c.blankStore config)
  let store ← c.module.data.foldlM placeData store
  return {
    linked := { module := c.module, program, imports, config, ready := false }
    store, contexts := c.apis.contexts }

/-- Links the host functions, makes a fresh instance and runs its start function. Whatever fails on the way
is a failure to link. -/
def instantiate [Wasm.Engine] (config : Config) : Except (Stop HostError) Live × Array Event :=
  match c.prepare config with
  | .error e => (.error (.error e), #[])
  | .ok live =>
    let ready : Linked := { live.linked with ready := true }
    match c.module.start with
    | none => (.ok { live with linked := ready }, #[])
    | some f =>
      match live.linked.invoke f [] ⟨live.store, live.contexts, #[]⟩ with
      | .ok _ w => (.ok ⟨ready, w.guest, w.contexts⟩, w.events)
      | .error e w => (.error (e.map fun e => .link e.message), w.events)

end Compiled

/-! ## Lifecycle -/

/-- Where an aspect is in its life. -/
inductive Lifecycle where
  | uninstantiated
  | ready
  | destroyed
  deriving DecidableEq

structure Aspect where
  config : Config
  /-- Nothing once it is destroyed. -/
  compiled : Option Compiled
  live : Option Live
  /-- Whether a host function broke off. -/
  poisoned : Bool := false

/-- What an operation answers, what it leaves and what it recorded. -/
structure Answer (σ α : Type) where
  result : α
  state : σ
  events : List Event := []

namespace Aspect

/-- Compiles code, links host functions to it and makes an instance. -/
def build [Wasm.Engine] (code : Bytes) (apis : Registry) (config : Config) :
    Except (Stop HostError) Aspect × List Event :=
  match config.check with
  | .error f => (.error (.error f.toError), [])
  | .ok () =>
    match compile code config with
    | .error e => (.error (.error e), [])
    | .ok module =>
      let compiled : Compiled := ⟨module, apis⟩
      match compiled.instantiate config with
      | (.ok live, events) =>
        (.ok { config, compiled := some compiled, live := some live },
          events.toList ++ [.ready code.length apis.size])
      | (.error e, events) => (.error e, events.toList)

def state (a : Aspect) : Lifecycle :=
  if a.poisoned then .destroyed
  else match a.compiled, a.live with
    | none, _ => .destroyed
    | some _, none => .uninstantiated
    | some _, some _ => .ready

/-- The live instance, or why there is none to call. -/
def callable (a : Aspect) : Except HostError Live :=
  if a.poisoned then .error .failedLockEngine
  else match a.compiled, a.live with
    | none, _ => .error .destroyed
    | some _, none => .error .notInstantiated
    | some _, some live => .ok live

/-- Calls a method within a budget of outer units. -/
def call [Wasm.Engine] (a : Aspect) (method : String) (gas : Int64) (args : List Value) :
    Answer Aspect (Except (Stop CallError) CallOutput) :=
  match a.callable with
  | .error e => { result := .error (.error ⟨e, 0⟩), state := a }
  | .ok ⟨linked, store, contexts⟩ =>
    let { config, compiled, live := _, poisoned } := a
    match linked.toInstance.call config.initExport method gas args ⟨store, contexts, #[]⟩ with
    | .ok output w =>
      { result := .ok output
        state := { config, compiled, live := some ⟨linked, w.guest, w.contexts⟩, poisoned }
        events := w.events.toList }
    | .error e w =>
      { result := .error e
        state :=
          { config, compiled, live := some ⟨linked, w.guest, w.contexts⟩
            poisoned := poisoned || match e with
              | .panic => true
              | _ => false }
        events := w.events.toList }

/-- Makes a new instance in place of the one there is, linked to `apis`. Nothing of the old one survives,
even if this fails. -/
def reset [Wasm.Engine] (a : Aspect) (apis : Registry) : Answer Aspect (Except (Stop HostError) Unit) :=
  if a.poisoned then { result := .error (.error .failedLockEngine), state := a }
  else match a.compiled with
    | none => { result := .error (.error .destroyed), state := a }
    | some c =>
      let compiled : Compiled := ⟨c.module, apis⟩
      match compiled.instantiate a.config with
      | (.ok live, events) =>
        { result := .ok ()
          state := { a with compiled := some compiled, live := some live }
          events := events.toList }
      | (.error e, events) =>
        { result := .error e
          state :=
            { a with
              compiled := some compiled
              live := none
              poisoned := match e with
                | .panic => true
                | _ => false }
          events := events.toList }

/-- Drops the instance. -/
def release (a : Aspect) : Aspect := { a with live := none }

/-- Drops everything. -/
def destroy (a : Aspect) : Aspect := { a with compiled := none, live := none }

end Aspect
end AspectHost
