import AspectHost.Gas.Checked
import AspectHost.Outcome
import AspectHost.Wire

/-! Guest memory as the host sees it: reads hand out copies, every access is checked against the bounds, and
room is made only by the guest's own allocator. Typed values are read and written through these. -/

namespace AspectHost

/-- A guest pointer. Zero is reserved and never a valid allocation. -/
abbrev Pointer := Int32

/-- The start of a span that lies inside the memory. -/
def checkBounds (ptr size : Int64) (memorySize : Nat) : Except MemoryError Nat :=
  if ptr < 0 ∨ size < 0 then .error (.outOfBounds ptr size memorySize)
  else match Checked.add? ptr size with
    | some last =>
      if last.toInt.toNat ≤ memorySize then .ok ptr.toInt.toNat
      else .error (.outOfBounds ptr size memorySize)
    | none => .error (.outOfBounds ptr size memorySize)

/-- The memory that is part of a state of type `σ`. -/
structure GuestMemory (σ : Type) where
  /-- The current size in bytes. -/
  size : σ → Except MemoryError Nat
  read : Pointer → (size : Int32) → σ → Except MemoryError Bytes
  write : Pointer → Bytes → σ → Except MemoryError σ

namespace GuestMemory

variable {σ : Type} (m : GuestMemory σ)

/-- The header of the value at `p`. -/
def readHeader (p : Pointer) (s : σ) : Except HostError Header := do
  let b ← (m.read p (Int32.ofNat Header.size) s).mapError .memory
  (Header.decode b).mapError .decode

/-- The value at `p` and the length of its body. -/
def readValue (p : Pointer) (s : σ) : Except HostError (Value × Nat) := do
  let h ← m.readHeader p s
  if maxLength < h.totalLength then
    let size := match m.size s with
      | .ok n => n
      | .error _ => 0
    throw (.memory (.outOfBounds p.toInt64 (Int64.ofNat h.totalLength) size))
  let b ← (m.read p (Int32.ofNat h.totalLength) s).mapError .memory
  let v ← (Value.decode b).mapError .decode
  return (v, h.length.toInt.toNat)

end GuestMemory
end AspectHost
