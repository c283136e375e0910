import AspectHost.Guest

/-! A guest without guest code: a flat buffer, a simple allocator and a plain counter. -/

namespace AspectHost

/-- How a buffer hands out memory. -/
inductive Allocator where
  /-- One span after the other. -/
  | bump (next : Nat)
  /-- Always the same pointer; null never succeeds. -/
  | fixed (p : Pointer)
  | missing
  deriving DecidableEq

/-- A buffer of bytes, if the guest has memory at all. -/
structure Buffer where
  bytes : Option Bytes
  allocator : Allocator
  counter : Int64 := 0

namespace Buffer

def zeroed (size : Option Nat) (allocator : Allocator) : Buffer :=
  ⟨size.map (List.replicate · 0), allocator, 0⟩

/-- The names under which a guest would export what the buffer stands for. -/
def memoryName : String := "memory"

def allocatorName : String := "allocate"

def content (s : Buffer) : Except MemoryError Bytes :=
  match s.bytes with
  | some b => .ok b
  | none => .error (.noMemoryExport memoryName)

/-- `b` written over `bytes` from `start` on. -/
def splice (bytes : Bytes) (start : Nat) (b : Bytes) : Bytes :=
  bytes.take start ++ b ++ bytes.drop (start + b.length)

def memory : GuestMemory Buffer where
  size s := List.length <$> s.content
  read p n s := do
    let b ← s.content
    let start ← checkBounds p.toInt64 n.toInt64 b.length
    return (b.drop start).take n.toInt.toNat
  write p d s := do
    let b ← s.content
    let start ← checkBounds p.toInt64 (Int64.ofNat d.length) b.length
    return { s with bytes := some (splice b start d) }

def meter (multiplier : Int64) : GasMeter Buffer where
  multiplier
  counter s := .ok s.counter
  store gas s := .ok { s with counter := gas }

/-- Answers a request for `size` bytes. -/
def reserve (size : Int32) (s : Buffer) : Except MemoryError (Pointer × Buffer) := do
  let b ← s.content
  match s.allocator with
  | .missing => throw (.noAllocator allocatorName)
  | .fixed p => if p = 0 then throw (.allocationFailed size) else return (p, s)
  | .bump next =>
    if size < 0 ∨ b.length < next + size.toInt.toNat then throw (.allocationFailed size)
    return (Int32.ofNat next, { s with allocator := .bump (next + size.toInt.toNat) })

def guest (multiplier : Int64) : Guest Buffer where
  memory := memory
  meter := meter multiplier
  allocate size := fun w =>
    match reserve size w.guest with
    | .ok (p, s) => .ok p { w with guest := s }
    | .error e => .error (.error e) w

/-- A buffer's guest with so many guest units per outer unit; there has to be at least one. -/
def guest? (multiplier : Int64) : Option (Guest Buffer) :=
  if 0 < multiplier then some (guest multiplier) else none

end Buffer
end AspectHost
