import AspectHost.Gas.Meter

/-! What a host call costs on top of what the host function charges itself, by the bytes that the guest
passes in. -/

namespace AspectHost

inductive GasRule where
  /-- The same for every call. -/
  | fixed (cost : Int64)
  /-- A base and so much per byte. -/
  | perByte (base rate : Int64)
  deriving DecidableEq

namespace GasRule

def free : GasRule := fixed 0

/-- The cost of a payload, if the exact amount fits a word. -/
def cost? : GasRule → Int64 → Option Int64
  | fixed c, _ => some c
  | perByte base rate, payload => do
    let c ← Checked.mul? payload rate
    Checked.add? c base

/-- Charges a payload. A cost that fits no word exhausts the meter. -/
def charge {σ : Type} (r : GasRule) (m : GasMeter σ) (payload : Int64) : GasM σ Unit :=
  match r.cost? payload with
  | some c => m.consume c
  | none => do
    m.put GasMeter.exhausted
    throw .outOfGas

end GasRule
end AspectHost
