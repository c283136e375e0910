import AspectHost.Config
import AspectHost.Instance
import AspectHost.Linker
import AspectHost.Wasm.Engine

/-! Linked guest code: a program with host functions behind its imports. The host finds its memory, its
counter and its allocator among its exports, and has an engine run it, as long as the engine's patience
lasts. -/

namespace AspectHost

structure Linked where
  module : Wasm.Module
  program : Wasm.Program
  /-- What stands behind the imported functions. -/
  imports : List Offer
  config : Config
  /-- Whether instantiation is over. Until then the host finds no instance. -/
  ready : Bool

namespace Linked

variable (L : Linked)

def notReady : String := "instance is not ready"

/-! ## Memory and gas -/

/-- The memory, if the guest exports one. -/
def content (s : Wasm.Store) : Except MemoryError Wasm.LinearMemory :=
  if !L.ready then .error (.engine notReady)
  else match L.module.exportIndex? .memory L.config.memoryExport with
    | some _ => .ok s.memory
    | none => .error (.noMemoryExport L.config.memoryExport)

def memory : GuestMemory Wasm.Store where
  size s := ByteArray.size <$> L.content s
  read p n s := do
    let m ← L.content s
    let start ← checkBounds p.toInt64 n.toInt64 m.size
    return m.bytes start n.toInt.toNat
  write p b s := do
    let start ← checkBounds p.toInt64 (Int64.ofNat b.length) (← ByteArray.size <$> L.content s)
    return s.write start b

/-- The index of the exported global that counts gas. -/
def counterIndex : Except GasError Nat :=
  if !L.ready then .error (.counterUnavailable (MemoryError.engine notReady).message)
  else
    let name := L.config.gas.counterGlobal
    match L.module.exportIndex? .global name with
    | some g => .ok g
    | none => .error (.counterUnavailable s!"guest does not export global '{name}'")

/-- The counter as a global holds it. -/
def globalCounter (s : Wasm.Store) : Except GasError Int64 := do
  match s.globals[← L.counterIndex]? with
  | some (.i64 n) => return n.toInt64
  | _ => throw (.counterUnavailable "gas counter is not an i64")

def storeGlobalCounter (gas : Int64) (s : Wasm.Store) : Except GasError Wasm.Store := do
  let g ← L.counterIndex
  match L.module.globalSpace[g]? with
  | some ⟨.i64, true⟩ => return { s with globals := s.globals.setIfInBounds g (.i64 gas.toUInt64) }
  | some ⟨_, false⟩ => throw (.counterUnavailable "immutable global cannot be set")
  | _ => throw (.counterUnavailable "type mismatch: attempt to set global to value of wrong type")

/-- The counter as fuel shows it. Debts read as nothing left. -/
def fuelCounter (f : Wasm.Fuel) : Int64 :=
  if f.exhausted then GasMeter.exhausted else Int64.ofInt (max 0 f.amount)

def fuelOf (gas : Int64) : Wasm.Fuel := ⟨max 0 gas.toInt, gas < 0⟩

def meter : GasMeter Wasm.Store where
  multiplier := L.config.gas.multiplier
  counter s :=
    match L.config.gas.metering with
    | .globalCounter => L.globalCounter s
    | .fuel => .ok (fuelCounter s.fuel)
  store gas s :=
    match L.config.gas.metering with
    | .globalCounter => L.storeGlobalCounter gas s
    | .fuel => .ok { s with fuel := fuelOf gas }

/-- Marks the fuel as exhausted. -/
def exhaust (s : Wasm.Store) : Wasm.Store := { s with fuel := { s.fuel with exhausted := true } }

/-- Marks the fuel as exhausted if guest code stopped for lack of it. -/
def noteTrap : Stop Failure → Wasm.Store → Wasm.Store
  | .error (.trap .outOfFuel), s => exhaust s
  | _, s => s

/-! ## Running -/

/-- The allocator, if the guest exports one of the right type. -/
def allocator : Except MemoryError Nat :=
  let name := L.config.allocatorExport
  if !L.ready then .error (.engine notReady)
  else match L.module.exportIndex? .func name with
    | none => .error (.noAllocator name)
    | some f =>
      if Wasm.Function.type <$> L.program.functions[f]? = some ⟨[.i32], [.i32]⟩ then .ok f
      else .error (.noAllocator name)

/-- Calls a function of the guest. -/
abbrev Invocation := Nat → List Wasm.Val → Act Failure (World Wasm.Store) (List Wasm.Val)

/-- Asks the allocator for `size` bytes. -/
def allocate (invoke : Invocation) (size : Int32) : Act MemoryError (World Wasm.Store) Pointer := do
  let f ← Act.ofExcept L.allocator
  let results ← (noting noteTrap (invoke f [.i32 size.toUInt32])).mapError fun e => .engine e.message
  match results with
  | [.i32 p] => if p = 0 then Act.fail (.allocationFailed size) else return p.toInt32
  | _ => throw .unanswered

/-- The guest as host functions meet it. -/
def guest (invoke : Invocation) : Guest Wasm.Store where
  memory := L.memory
  meter := L.meter
  allocate := L.allocate invoke

/-- The pointers among the arguments of an import; all of them, since imports take nothing else. -/
def pointers (args : List Wasm.Val) : List Pointer :=
  args.filterMap fun v => match v with
    | .i32 n => some n.toInt32
    | _ => none

/-- Calls what stands behind an import. -/
def callOffer (invoke : Invocation) : Offer → List Pointer → HostM Wasm.Store (List Wasm.Val)
  | .api a, args => do
    let p ← dispatch (L.guest invoke) a args
    return if a.function.signature.returnsValue then [.i32 (p.getD 0).toUInt32] else []
  | .abort, [message, file, line, column] => do
    modify (·.record (.guestAbort message file line column))
    return []
  | .abort, _ => throw .unanswered

/-- The guest as the host calls it, with its code run by `invoke`. -/
def around (invoke : Invocation) : Instance Wasm.Store where
  toGuest := L.guest invoke
  function? name := do
    let f ← L.module.exportIndex? .func name
    let g ← L.program.functions[f]?
    return (g.type, f)
  invoke
  noteTrap

section

variable [Wasm.Engine]

/-- Runs a thread to its end, at most `budget` steps of it and of each thread that it starts. -/
def run : (budget : Nat) → Wasm.Step Wasm.Engine.Thread → Array UInt64 → Array Event →
    EStateM.Result (Stop Failure) (World Wasm.Store) (List Wasm.Val)
  | _, .done results s, contexts, events => .ok results ⟨s, contexts, events⟩
  | _, .trap cause s, contexts, events => .error (.error (.trap cause)) ⟨s, contexts, events⟩
  | _, .stuck s, contexts, events => .error .unanswered ⟨s, contexts, events⟩
  | 0, .next _ s, contexts, events => .error .unanswered ⟨s, contexts, events⟩
  | 0, .callOut _ _ _ s, contexts, events => .error .unanswered ⟨s, contexts, events⟩
  | n + 1, .next t s, contexts, events => run n (Wasm.Engine.step L.program t s) contexts events
  | n + 1, .callOut i args t s, contexts, events =>
    match L.imports[i]? with
    | none => .error .unanswered ⟨s, contexts, events⟩
    | some offer =>
      let invoke : Invocation := fun f args w =>
        run n (Wasm.Engine.start L.program (some t) f args w.guest) w.contexts w.events
      match L.callOffer invoke offer (pointers args) ⟨s, contexts, events⟩ with
      | .ok results w => run n (.next (Wasm.Engine.resume t results) w.guest) w.contexts w.events
      | .error e w => .error (e.map .host) w

def invoke : Invocation := fun f args w =>
  L.run Wasm.Engine.patience (Wasm.Engine.start L.program none f args w.guest) w.contexts w.events

def toInstance : Instance Wasm.Store := L.around L.invoke

end

end Linked
end AspectHost
