import AspectHost.Wasm.Arith

/-! Floating-point arithmetic. Numbers are kept as their bits and calculated with as unpacked floats of the
core library, whose operations round to the nearest number and, halfway between two, to the even one. What
it does not tell apart are NaNs. Which one an operation answers is left open by the standard; here it is the
first among the operands, or one of negative sign where there is none. -/

namespace AspectHost.Wasm

open Float.Model (Format UnpackedFloat)
open Float.Model.UnpackedFloat (Sign ExtendedMantissa)

/-- The format of the floating-point numbers of a width. -/
def Width.format : Width → Format
  | w32 => .binary32
  | w64 => .binary64

/-! ## Numbers as bits -/

namespace FloatBits

variable {F : Format}

def isNaN (a : BitVec F.numBits) : Bool := (UnpackedFloat.unpack F a).isNaN

/-- A NaN with the bit set that makes it a quiet one. -/
def quiet (a : BitVec F.numBits) : BitVec F.numBits :=
  a ||| 1#_ <<< (F.mantissaBitsWithoutImplicit - 1)

/-- The bits of a rounded result. Where there is no result they are those of a NaN of negative sign. -/
def ofResult (x : UnpackedFloat) : BitVec F.numBits :=
  if x.isNaN then .intMin _ ||| UnpackedFloat.packedNaN F else UnpackedFloat.pack F x

/-- Hands on the first NaN among two operands; only without one does the result count. -/
def orNaN (a b result : BitVec F.numBits) : BitVec F.numBits :=
  if isNaN a then quiet a else if isNaN b then quiet b else result

/-- The nearest number of another format. A NaN keeps its sign and the uppermost of its other bits. -/
def resize (G : Format) (a : BitVec F.numBits) : BitVec G.numBits :=
  match UnpackedFloat.unpack F a with
  | .notANumber =>
    let sign := Sign.ofBitVec (UnpackedFloat.unpackSign a)
    let payload := (UnpackedFloat.unpackMantissa a).toNat
    let payload := payload <<< G.mantissaBitsWithoutImplicit >>> F.mantissaBitsWithoutImplicit
    quiet (UnpackedFloat.packComponents G sign (-1#_) (.ofNat _ payload))
  | .finite sign m e _ => ofResult (UnpackedFloat.round G sign m e)
  | x => ofResult x

end FloatBits

/-! ## Operators -/

namespace Rounding

/-- The natural number for a mantissa with a fraction, of a number of that sign. -/
def apply (sign : Sign) (m : ExtendedMantissa) : Rounding → Nat
  | up => m.mantissa + (sign == .positive && (m.roundBit || m.stickyBit)).toNat
  | down => m.mantissa + (sign == .negative && (m.roundBit || m.stickyBit)).toNat
  | towardsZero => m.mantissa
  | nearest => m.roundedMantissa

/-- Rounds to an integer, which keeps the sign even as zero. -/
def toIntegral (F : Format) (r : Rounding) : UnpackedFloat → UnpackedFloat
  | .finite sign m e _ =>
    let (m, e) := UnpackedFloat.shiftToExponent m e .exact 0
    UnpackedFloat.round F sign (r.apply sign m) e
  | x => x

end Rounding

variable {F : Format}

/-- The sign is a bit like any other; everything else hands NaNs on. -/
def FloatUnary.eval (op : FloatUnary) (a : BitVec F.numBits) : BitVec F.numBits :=
  let x := UnpackedFloat.unpack F a
  match op with
  | abs => a &&& ~~~ .intMin _
  | neg => a ^^^ .intMin _
  | round r => FloatBits.orNaN a a (FloatBits.ofResult (r.toIntegral F x))
  | sqrt => FloatBits.orNaN a a (FloatBits.ofResult (x.sqrt F))

/-- Negative zero is less than zero to `min` and `max`, although the two compare equal. -/
def FloatBinary.eval (op : FloatBinary) (a b : BitVec F.numBits) : BitVec F.numBits :=
  let x := UnpackedFloat.unpack F a
  let y := UnpackedFloat.unpack F b
  match op with
  | add => FloatBits.orNaN a b (FloatBits.ofResult (x.add F y))
  | sub => FloatBits.orNaN a b (FloatBits.ofResult (x.sub F y))
  | mul => FloatBits.orNaN a b (FloatBits.ofResult (x.mul F y))
  | div => FloatBits.orNaN a b (FloatBits.ofResult (x.div F y))
  | min => FloatBits.orNaN a b (if x.lt y then a else if y.lt x then b else a ||| b)
  | max => FloatBits.orNaN a b (if x.lt y then b else if y.lt x then a else a &&& b)
  | copysign => a &&& ~~~ .intMin _ ||| b &&& .intMin _

/-- Nothing but `ne` holds of a NaN. -/
def FloatCompare.eval (op : FloatCompare) (a b : BitVec F.numBits) : Bool :=
  let x := UnpackedFloat.unpack F a
  let y := UnpackedFloat.unpack F b
  match op with
  | eq => x.beq y
  | ne => !x.beq y
  | lt => x.lt y
  | gt => y.lt x
  | le => x.le y
  | ge => y.le x

/-! ## Conversions -/

namespace Width

/-- The least and the greatest integer of a width. -/
def range (w : Width) (signed : Bool) : Int × Int :=
  if signed then ((BitVec.intMin w.bits).toInt, (BitVec.intMax w.bits).toInt)
  else (0, (BitVec.allOnes w.bits).toNat)

/-- The integer that is next to a number towards zero. What is outside of the range traps unless it is
clamped. -/
def truncate (w : Width) (signed clamp : Bool) (a : BitVec F.numBits) : Except Trap (BitVec w.bits) :=
  let x := UnpackedFloat.unpack F a
  let (least, greatest) := w.range signed
  let n := x.toInt (least - 1) (greatest + 1)
  if clamp then .ok (.ofInt _ (max least (min n greatest)))
  else if x.isNaN then .error .notInteger
  else if n < least ∨ greatest < n then .error .overflow
  else .ok (.ofInt _ n)

/-- Clamping changes nothing but what would trap. -/
theorem truncate_clamp {w : Width} {signed : Bool} {a : BitVec F.numBits} {n : BitVec w.bits}
    (h : w.truncate signed false a = .ok n) : w.truncate signed true a = .ok n := by
  unfold truncate at h ⊢
  simp only [Bool.false_eq_true, if_false, if_true] at h ⊢
  split at h
  · cases h
  · split at h
    · cases h
    · rename_i hrange
      rw [← h, Int.min_eq_left (by omega), Int.max_eq_right (by omega)]

/-- The number that is nearest to an integer. -/
def convert (w : Width) (signed : Bool) (n : BitVec w.bits) : BitVec F.numBits :=
  FloatBits.ofResult (UnpackedFloat.ofInt F (if signed then n.toInt else n.toNat))

end Width

namespace Val

/-- The bits of a floating-point number of that width. -/
def floatBits? : (w : Width) → Val → Option (BitVec w.format.numBits)
  | .w32, f32 n => some n.toBitVec
  | .w64, f64 n => some n.toBitVec
  | _, _ => none

def ofFloatBits : (w : Width) → BitVec w.format.numBits → Val
  | .w32, b => f32 (UInt32.ofBitVec b)
  | .w64, b => f64 (UInt64.ofBitVec b)

theorem type_ofFloatBits {w : Width} (b : BitVec w.format.numBits) :
    (ofFloatBits w b).type = w.floatType := by
  cases w <;> rfl

theorem floatBits?_of_type {w : Width} {v : Val} (h : v.type = w.floatType) :
    ∃ b, v.floatBits? w = some b := by
  cases w <;> cases v <;> first | exact ⟨_, rfl⟩ | cases h

end Val
end AspectHost.Wasm
