import AspectHost.LittleEndian

/-! Linear memory: a block of bytes that is a whole number of pages long. -/

namespace AspectHost.Wasm

abbrev LinearMemory := ByteArray

namespace LinearMemory

/-- The bytes from `start` on. -/
def bytes (m : LinearMemory) (start size : Nat) : Bytes := (m.extract start (start + size)).data.toList

/-- `b` written over the bytes from `start` on. -/
def write (m : LinearMemory) (start : Nat) (b : Bytes) : LinearMemory :=
  (ByteArray.mk b.toArray).copySlice 0 m start b.length

def fill (b : UInt8) : (size start : Nat) → LinearMemory → LinearMemory
  | 0, _, m => m
  | n + 1, start, m => fill b n (start + 1) (m.set! start b)

/-- A page of zeros. -/
def zeroPage : ByteArray := ⟨Array.replicate 65536 0⟩

def grow : (pages : Nat) → LinearMemory → LinearMemory
  | 0, m => m
  | n + 1, m => grow n (m ++ zeroPage)

end LinearMemory
end AspectHost.Wasm
