import AspectHost.Wasm.Instr

/-! Integer arithmetic. Integers are bit vectors; each operator says whether it reads them as signed. -/

namespace AspectHost.Wasm

/-- Why guest code cannot go on. -/
inductive Trap where
  | unreachable
  | divideByZero
  | overflow
  /-- A number that is none was to become an integer. -/
  | notInteger
  | memoryOutOfBounds
  | tableOutOfBounds
  | nullElement
  | elementType
  | stackExhausted
  | outOfFuel
  deriving DecidableEq

def Trap.message : Trap → String
  | unreachable => "wasm trap: wasm `unreachable` instruction executed"
  | divideByZero => "wasm trap: integer divide by zero"
  | overflow => "wasm trap: integer overflow"
  | notInteger => "wasm trap: invalid conversion to integer"
  | memoryOutOfBounds => "wasm trap: out of bounds memory access"
  | tableOutOfBounds => "wasm trap: undefined element: out of bounds table access"
  | nullElement => "wasm trap: uninitialized element"
  | elementType => "wasm trap: indirect call type mismatch"
  | stackExhausted => "wasm trap: call stack exhausted"
  | outOfFuel => "wasm trap: all fuel consumed by WebAssembly"

variable {w : Nat}

def IntUnary.eval : IntUnary → BitVec w → BitVec w
  | clz, a => a.clz
  | ctz, a => a.ctz
  | popcnt, a => a.cpop
  | extendLow n, a => (a.setWidth n).signExtend w

/-- Shifts and rotations take their amount modulo the width. Division by zero and the one quotient that is
out of range trap. -/
def IntBinary.eval : IntBinary → BitVec w → BitVec w → Except Trap (BitVec w)
  | add, a, b => .ok (a + b)
  | sub, a, b => .ok (a - b)
  | mul, a, b => .ok (a * b)
  | divS, a, b =>
    if b = 0 then .error .divideByZero
    else if a = BitVec.intMin w ∧ b = -1 then .error .overflow
    else .ok (a.sdiv b)
  | divU, a, b => if b = 0 then .error .divideByZero else .ok (a / b)
  | remS, a, b => if b = 0 then .error .divideByZero else .ok (a.srem b)
  | remU, a, b => if b = 0 then .error .divideByZero else .ok (a % b)
  | and, a, b => .ok (a &&& b)
  | or, a, b => .ok (a ||| b)
  | xor, a, b => .ok (a ^^^ b)
  | shl, a, b => .ok (a <<< (b.toNat % w))
  | shrS, a, b => .ok (a.sshiftRight (b.toNat % w))
  | shrU, a, b => .ok (a >>> (b.toNat % w))
  | rotl, a, b => .ok (a.rotateLeft (b.toNat % w))
  | rotr, a, b => .ok (a.rotateRight (b.toNat % w))

def IntCompare.eval : IntCompare → BitVec w → BitVec w → Bool
  | eq, a, b => a == b
  | ne, a, b => a != b
  | ltS, a, b => a.slt b
  | ltU, a, b => a.ult b
  | gtS, a, b => b.slt a
  | gtU, a, b => b.ult a
  | leS, a, b => a.sle b
  | leU, a, b => a.ule b
  | geS, a, b => b.sle a
  | geU, a, b => b.ule a

namespace Val

/-- The bits of an integer of that width. -/
def bits? : (w : Width) → Val → Option (BitVec w.bits)
  | .w32, i32 n => some n.toBitVec
  | .w64, i64 n => some n.toBitVec
  | _, _ => none

def ofBits : (w : Width) → BitVec w.bits → Val
  | .w32, b => i32 (UInt32.ofBitVec b)
  | .w64, b => i64 (UInt64.ofBitVec b)

theorem type_ofBits {w : Width} (b : BitVec w.bits) : (ofBits w b).type = w.type := by cases w <;> rfl

theorem bits?_of_type {w : Width} {v : Val} (h : v.type = w.type) : ∃ b, v.bits? w = some b := by
  cases w <;> cases v <;> first | exact ⟨_, rfl⟩ | cases h

def ofBool (b : Bool) : Val := i32 (if b then 1 else 0)

/-- The value of `bytes` bytes read as a number, sign-extended if `signed`. -/
def ofLoaded (t : ValType) (bytes : Nat) (signed : Bool) (n : Nat) : Val :=
  let n : Int := if signed then Int.bmod n (1 <<< (8 * bytes)) else n
  match t with
  | .i32 => i32 (UInt32.ofInt n)
  | .i64 => i64 (UInt64.ofInt n)
  | .f32 => f32 (UInt32.ofInt n)
  | .f64 => f64 (UInt64.ofInt n)
  | .funcref => func none
  | .externref => foreign

/-- The bits of a number; nothing for references. -/
def stored? : Val → Option Nat
  | i32 n => some n.toNat
  | i64 n => some n.toNat
  | f32 n => some n.toNat
  | f64 n => some n.toNat
  | func _ | foreign => none

end Val
end AspectHost.Wasm
