/-! Reading a decimal number into a machine word: an optional sign, then digits only. -/

namespace AspectHost.Text.Decimal

inductive Malformed where
  | empty
  | invalidDigit
  | tooLarge
  | tooSmall
  deriving DecidableEq

def Malformed.message : Malformed → String
  | empty => "cannot parse integer from empty string"
  | invalidDigit => "invalid digit found in string"
  | tooLarge => "number too large to fit in target type"
  | tooSmall => "number too small to fit in target type"

def digit? (c : Char) : Option Nat := if c.isDigit then some (c.toNat - 48) else none

/-- Reads digits after `acc`, stopping at the first one that is no digit or leaves the range. -/
def magnitude (limit : Nat) (overflow : Malformed) (acc : Nat) : List Char → Except Malformed Nat
  | [] => .ok acc
  | c :: r =>
    match digit? c with
    | none => .error .invalidDigit
    | some d =>
      if acc * 10 + d ≤ limit then magnitude limit overflow (acc * 10 + d) r
      else .error overflow

/-- A number of the signed 64-bit range. A sign without digits is no number. -/
def readInt64 (s : String) : Except Malformed Int64 :=
  match s.toList with
  | [] => .error .empty
  | ['+'] | ['-'] => .error .invalidDigit
  | '-' :: r => (fun n => Int64.ofInt (-(n : Int))) <$> magnitude 0x8000000000000000 .tooSmall 0 r
  | '+' :: r => Int64.ofNat <$> magnitude 0x7FFFFFFFFFFFFFFF .tooLarge 0 r
  | r => Int64.ofNat <$> magnitude 0x7FFFFFFFFFFFFFFF .tooLarge 0 r

end AspectHost.Text.Decimal
