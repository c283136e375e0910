/-! Arithmetic on signed 64-bit words that answers nothing where the exact result does not fit. -/

namespace AspectHost.Checked

/-- The word of an integer, if there is one. -/
def ofInt? (n : Int) : Option Int64 :=
  if -0x8000000000000000 ≤ n ∧ n < 0x8000000000000000 then some (Int64.ofInt n) else none

def add? (a b : Int64) : Option Int64 := ofInt? (a.toInt + b.toInt)

def mul? (a b : Int64) : Option Int64 := ofInt? (a.toInt * b.toInt)

/-- A sum that stays at the bound it would cross. -/
def saturatingAdd (a b : Int64) : Int64 :=
  match add? a b with
  | some s => s
  | none => if b < 0 then Int64.minValue else Int64.maxValue

/-- The signed word of an unsigned one, if it is small enough. -/
def ofUnsigned? (n : UInt64) : Option Int64 := ofInt? n.toNat

end AspectHost.Checked
