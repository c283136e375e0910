import AspectHost.Value
import AspectHost.Wasm.Type

/-! Reading the parts that every section of a binary module is made of: bytes, numbers in groups of seven
bits, lists, names and types. A reader takes what it needs from the front of the input. -/

namespace AspectHost.Wasm

/-- Takes a part off the front of the input, or fails. -/
abbrev Reader := StateT Bytes Option

namespace Reader

variable {α : Type}

def byte : Reader UInt8
  | [] => none
  | b :: r => some (b, r)

/-- Exactly the byte `b`. -/
def expect (b : UInt8) : Reader Unit := do guard ((← byte) = b)

def bytes (n : Nat) : Reader Bytes := fun input =>
  if n ≤ input.length then some (input.take n, input.drop n) else none

def peek : Reader UInt8 := fun input => (·, input) <$> input.head?

/-- Runs a reader that has to use up its input. -/
def whole (x : Reader α) (input : Bytes) : Option α :=
  match x input with
  | some (a, []) => some a
  | _ => none

/-- An unsigned number of at most `bits` bits: seven to a byte, the lowest first, and a high bit on every
byte but the last. -/
def unsigned : (bits : Nat) → Reader Nat
  | _, [] => none
  | bits, b :: r =>
    if b < 128 then if b.toNat < 1 <<< bits then some (b.toNat, r) else none
    else if bits ≤ 7 then none
    else (fun (n, r) => (b.toNat - 128 + 128 * n, r)) <$> unsigned (bits - 7) r

/-- A number of at most `bits` bits, sign included; the last byte holds the sign. -/
def signed : (bits : Nat) → Reader Int
  | _, [] => none
  | bits, b :: r =>
    if b < 128 then
      let n : Int := if b < 64 then b.toNat else b.toNat - 128
      let bound : Nat := 1 <<< (bits - 1)
      if -(bound : Int) ≤ n ∧ n < bound then some (n, r) else none
    else if bits ≤ 7 then none
    else (fun (n, r) => (b.toNat - 128 + 128 * n, r)) <$> signed (bits - 7) r

/-- An index, a count or a size. -/
def index : Reader Nat := unsigned 32

/-- `n` items, after those read so far, the latest first. -/
def times (x : Reader α) : Nat → List α → Reader (List α)
  | 0, read => pure read.reverse
  | n + 1, read => do times x n ((← x) :: read)

/-- A list with its length in front. -/
def list (x : Reader α) : Reader (List α) := do times x (← index) []

/-- Something with its size in bytes in front. -/
def sized (x : Reader α) : Reader α := do
  let input ← bytes (← index)
  fun rest => (·, rest) <$> whole x input

/-- The longest name. -/
def maxName : Nat := 100000

def name : Reader String := do
  let n ← index
  guard (n ≤ maxName)
  fun input => do
    let (b, rest) ← bytes n input
    return (← Value.ofUtf8? b, rest)

/-- A reference type by its own byte, or as a nullable reference to any function or outside thing. -/
def refType : Reader ValType := do
  let b ← byte
  let b ← if b = 0x63 then byte else pure b
  match b with
  | 0x70 => return .funcref
  | 0x6F => return .externref
  | _ => failure

def valType : Reader ValType := do
  match ← peek with
  | 0x7F => byte *> return .i32
  | 0x7E => byte *> return .i64
  | 0x7D => byte *> return .f32
  | 0x7C => byte *> return .f64
  | _ => refType

def funcType : Reader FuncType := do
  expect 0x60
  return ⟨← list valType, ← list valType⟩

def limits : Reader Limits := do
  match ← byte with
  | 0 => return ⟨← index, none⟩
  | 1 =>
    let min ← index
    return ⟨min, some (← index)⟩
  | _ => failure

def tableType : Reader TableType := do
  let element ← refType
  return ⟨element, ← limits⟩

def globalType : Reader GlobalType := do
  let type ← valType
  match ← byte with
  | 0 => return ⟨type, false⟩
  | 1 => return ⟨type, true⟩
  | _ => failure

end Reader
end AspectHost.Wasm
