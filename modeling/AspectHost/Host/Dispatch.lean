import AspectHost.Guest
import AspectHost.Host.Registry

/-! A call from a guest to a host function: the arguments are read through their pointers, the call is
charged by their size, the function sees what is left in whole outer units, and what it leaves of them is
written back to the guest's counter. -/

namespace AspectHost

/-- A host function as it is linked to one guest. -/
structure LinkedApi where
  /-- The name that events use. -/
  name : String
  /-- The place of its budget. -/
  slot : Nat
  function : HostFunction
  rule : GasRule

namespace LinkedApi

def ofRegistry (r : Registry) : Array LinkedApi :=
  (r.toList.zipIdx.map fun e =>
    (⟨e.1.1.qualified, e.2, e.1.2.function, e.1.2.rule⟩ : LinkedApi)).toArray

end LinkedApi

/-- The budgets of the functions of a registry, by place. -/
def Registry.contexts (r : Registry) : Array UInt64 := (r.toList.map (·.2.context)).toArray

variable {γ : Type}

/-- Reads the arguments in order and adds up the lengths of their bodies. -/
def readArguments (G : Guest γ) (payload : Int64) :
    List Pointer → HostM γ (List Value × Int64)
  | [] => pure ([], payload)
  | p :: ps => do
    let (v, n) ← G.readValue p
    let (vs, total) ← readArguments G (Checked.saturatingAdd payload (Int64.ofNat n)) ps
    return (v :: vs, total)

/-- The counter that stands for `left` outer units and a rest of guest units, if it fits. -/
def reconciled? (multiplier rest : Int64) (left : UInt64) : Option Int64 := do
  let gas ← Checked.ofUnsigned? left
  let gas ← Checked.mul? gas multiplier
  Checked.add? gas rest

/-- Runs the function over its budget. -/
def LinkedApi.run (api : LinkedApi) (args : List Value) (w : World γ) :
    Except (Stop HostError) (Option Value) × World γ :=
  match api.function.call args (w.context api.slot) with
  | .ok v q => (.ok v, w.setContext api.slot q)
  | .error e q => (.error e, w.setContext api.slot q)

/-- What a function reported: its result, or its own failure. -/
abbrev Report := Except HostError (Option Value)

/-- Writes the budget that is left back to the guest's counter. A failed function that left nothing has run
out of gas. -/
def reconcile (G : Guest γ) (api : LinkedApi) (rest : Int64) (report : Report) : HostM γ Unit := do
  let left := (← get).context api.slot
  if report.isOk = false ∧ left = 0 then
    modify (·.record (.hostCallOutOfGas api.name))
    metered (G.meter.set GasMeter.exhausted)
    Act.fail .outOfGas
  else
    match reconciled? G.meter.multiplier rest left with
    | none =>
      let amount := (Checked.ofUnsigned? left).getD Int64.maxValue
      Act.fail (.ofGas (.overflow amount G.meter.maxOuter))
    | some gas => metered (G.meter.set gas)

/-- Calls `api` with the values at the pointers. Hands back the pointer of the result, if the function has
one. -/
def dispatch (G : Guest γ) (api : LinkedApi) (args : List Pointer) : HostM γ (Option Pointer) := do
  let (values, payload) ← readArguments G 0 args
  if 0 < payload then metered (api.rule.charge G.meter payload)
  let left ← metered (.query G.meter.remaining)
  modify (·.setContext api.slot (left / G.meter.multiplier).toUInt64)
  let (outcome, w) := api.run values (← get)
  set w
  let report ← match outcome with
    | .ok v => pure (.ok v)
    | .error (.error e) => pure (.error e)
    | .error .panic => throw .panic
    | .error .unanswered => throw .unanswered
  reconcile G api (left % G.meter.multiplier) report
  let result ← match report with
    | .error e => Act.fail e
    | .ok none => pure none
    | .ok (some v) => some <$> G.writeValue v
  modify (·.record (.hostCallDone api.name payload))
  return result

end AspectHost
