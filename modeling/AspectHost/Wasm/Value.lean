import AspectHost.Wasm.Type

/-! The values that guest code computes with. Floating-point numbers are kept as their bits. -/

namespace AspectHost.Wasm

inductive Val where
  | i32 (n : UInt32)
  | i64 (n : UInt64)
  | f32 (bits : UInt32)
  | f64 (bits : UInt64)
  /-- A reference to the function of that index, or null. -/
  | func (index : Option Nat)
  /-- The null reference to something outside. There are no others. -/
  | foreign
  deriving DecidableEq

namespace Val

def type : Val → ValType
  | i32 _ => .i32
  | i64 _ => .i64
  | f32 _ => .f32
  | f64 _ => .f64
  | func _ => .funcref
  | foreign => .externref

/-- The value that a variable starts with. -/
def initial : ValType → Val
  | .i32 => i32 0
  | .i64 => i64 0
  | .f32 => f32 0
  | .f64 => f64 0
  | .funcref => func none
  | .externref => foreign

theorem type_initial (t : ValType) : (initial t).type = t := by cases t <;> rfl

/-- Whether a reference is null; nothing for other values. -/
def isNull? : Val → Option Bool
  | func f => some f.isNone
  | foreign => some true
  | _ => none

end Val
end AspectHost.Wasm
