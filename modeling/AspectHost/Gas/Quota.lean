import AspectHost.Gas.Meter

/-! The budget that a host function sees while it runs, in outer units. -/

namespace AspectHost

abbrev Quota := UInt64

namespace Quota

/-- Charges an amount. One that is not covered drains the quota. -/
def consume (gas : UInt64) : GasM Quota Unit := do
  let left ← get
  if left < gas then
    set (0 : Quota)
    throw .outOfGas
  set (left - gas)

end Quota
end AspectHost
