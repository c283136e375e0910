import AspectHost.Error
import AspectHost.Gas.Checked
import AspectHost.Outcome

/-! Gas is counted in guest units by a signed counter; outer units are worth `multiplier` guest units each
and are always derived from the counter by division. A counter that ran dry is parked at `exhausted`, and
every negative counter reads as out of gas. -/

namespace AspectHost

/-- Raw access to a counter that is part of a state of type `σ`. -/
structure GasMeter (σ : Type) where
  /-- Guest units per outer unit; positive. -/
  multiplier : Int64
  counter : σ → Except GasError Int64
  store : Int64 → σ → Except GasError σ

/-- An activity on a metered state whose failures are gas failures. -/
abbrev GasM (σ α : Type) := EStateM GasError σ α

/-- Reads an amount off the state. -/
def GasM.query {σ α : Type} (f : σ → Except GasError α) : GasM σ α := fun s =>
  match f s with
  | .ok a => .ok a s
  | .error e => .error e s

namespace GasMeter

/-- The counter of a meter that ran dry. -/
def exhausted : Int64 := -1

variable {σ : Type} (m : GasMeter σ)

/-- The largest outer amount whose guest units fit the counter. -/
def maxOuter : Int64 := Int64.maxValue / m.multiplier

def read : GasM σ Int64 := .query m.counter

def put (gas : Int64) : GasM σ Unit := fun s =>
  match m.store gas s with
  | .ok s' => .ok () s'
  | .error e => .error e s

/-- The guest units left. -/
def remaining (s : σ) : Except GasError Int64 := do
  let gas ← m.counter s
  if gas < 0 then throw .outOfGas
  return gas

/-- The whole outer units left. -/
def remainingOuter (s : σ) : Except GasError Int64 := do
  let gas ← m.remaining s
  return gas / m.multiplier

/-- Burns guest units. A negative amount, or more than is left, exhausts the meter. -/
def consume (gas : Int64) : GasM σ Unit := do
  let left ← m.read
  if left < 0 then throw .outOfGas
  if gas < 0 ∨ left < gas then
    m.put exhausted
    throw .outOfGas
  m.put (left - gas)

/-- Sets the counter. A negative amount exhausts the meter. -/
def set (gas : Int64) : GasM σ Unit := do
  if gas < 0 then
    m.put exhausted
  else if m.maxOuter * m.multiplier < gas then
    throw (.overflow gas (m.maxOuter * m.multiplier))
  else
    m.put gas

/-- Replaces what is left by an outer amount. -/
def fund (gas : Int64) : GasM σ Unit := do
  if gas < 0 ∨ m.maxOuter < gas then throw (.overflow gas m.maxOuter)
  m.put (gas * m.multiplier)

/-- The counter after adding an outer amount; nothing if it would pass the largest funding. -/
def sum? (current gas : Int64) : Option Int64 := do
  let g ← Checked.mul? gas m.multiplier
  let total ← Checked.add? g (if current < 0 then 0 else current)
  if total ≤ m.maxOuter * m.multiplier then some total else none

/-- Adds an outer amount. An exhausted meter restarts from zero. -/
def add (gas : Int64) : GasM σ Unit := do
  if gas < 0 ∨ m.maxOuter < gas then throw (.overflow gas m.maxOuter)
  let current ← m.read
  match m.sum? current gas with
  | some total => m.put total
  | none => throw (.overflow gas m.maxOuter)

end GasMeter

/-- A counter that stands on its own. -/
def plainMeter (multiplier : Int64) : GasMeter Int64 where
  multiplier
  counter := .ok
  store gas _ := .ok gas

end AspectHost
