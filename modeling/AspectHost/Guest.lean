import AspectHost.Event
import AspectHost.Gas.Meter
import AspectHost.Memory

/-! A guest as host calls meet it: its memory and gas, the budgets of the host functions linked to it, the
record of events, and the allocator that it exports. -/

namespace AspectHost

/-- Everything that a host call can change. Memory and gas are parts of `guest`. -/
structure World (γ : Type) where
  guest : γ
  /-- The budget of each linked host function, by its place in the registry. -/
  contexts : Array UInt64 := #[]
  events : Array Event := #[]

namespace World

variable {γ : Type}

/-- The budget at a place; zero where there is none. -/
def context (w : World γ) (slot : Nat) : UInt64 := w.contexts.getD slot 0

def setContext (slot : Nat) (gas : UInt64) (w : World γ) : World γ :=
  { w with contexts := w.contexts.setIfInBounds slot gas }

def record (e : Event) (w : World γ) : World γ := { w with events := w.events.push e }

end World

/-- An activity of the host on a guest. -/
abbrev HostM (γ α : Type) := Act HostError (World γ) α

/-- What the host can do with a guest. The allocator is guest code, so it may change anything. -/
structure Guest (γ : Type) where
  memory : GuestMemory γ
  meter : GasMeter γ
  allocate : (size : Int32) → Act MemoryError (World γ) Pointer

/-- Runs a gas operation on the guest's part of the world. -/
def metered {γ α : Type} (x : GasM γ α) : HostM γ α := fun w =>
  match x w.guest with
  | .ok a g => .ok a { w with guest := g }
  | .error e g => .error (.error (.ofGas e)) { w with guest := g }

namespace Guest

variable {γ : Type} (G : Guest γ)

def readValue (p : Pointer) : HostM γ (Value × Nat) :=
  Act.query fun w => G.memory.readValue p w.guest

/-- Overwrites memory from `p` on. -/
def write (p : Pointer) (b : Bytes) : HostM γ Unit := fun w =>
  match G.memory.write p b w.guest with
  | .ok g => .ok () { w with guest := g }
  | .error e => .error (.error (.memory e)) w

/-- Writes a value into memory that the guest's allocator hands out. A value too long for the wire breaks
the host off; one too long for a signed size is refused. -/
def writeValue (v : Value) : HostM γ Pointer := do
  match v.encode? with
  | none => throw .panic
  | some b =>
    if maxLength < b.length then Act.fail (.memory (.allocationFailed Int32.maxValue))
    let p ← (G.allocate (Int32.ofNat b.length)).mapError .memory
    G.write p b
    return p

end Guest
end AspectHost
