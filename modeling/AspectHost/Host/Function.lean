import AspectHost.Gas.Quota
import AspectHost.Gas.Rule
import AspectHost.Host.Native
import AspectHost.Host.Signature

/-! Host functions: they take decoded values and hand back at most one, or fail, and run over their own
budget. A function of this language is lowered by `Lower`; one whose shape is only known later is made by
`HostFunction.dynamic`. -/

namespace AspectHost

/-- A computation of a host function over its budget. -/
abbrev HostAct (ε α : Type) := Act ε Quota α

structure HostFunction where
  signature : Signature
  /-- Assumes that the arguments fit the signature. -/
  body : List Value → HostAct HostError (Option Value)

namespace HostFunction

/-- The position-wise check of arguments against kinds: the first that does not fit. -/
def mismatch? : List Value → List Kind → Option DecodeError
  | v :: vs, k :: ks =>
    if v.kind = k then mismatch? vs ks else some (.kindMismatch k.name v.kind.name)
  | _, _ => none

/-- Calls the function. The count of the arguments is judged before their kinds, and both before the
function runs. -/
def call (f : HostFunction) (args : List Value) : HostAct HostError (Option Value) :=
  let expected := f.signature.params.length
  if args.length ≠ expected then
    Act.fail (.hostFunction s!"expected {expected} arguments, got {args.length}")
  else
    match mismatch? args f.signature.params with
    | some e => Act.fail (.decode e)
    | none => f.body args

/-- A function whose shape is only known when it is made. What it returns is held against what it
declares; of several results the last one counts. -/
def dynamic (signature : Signature) (f : List Value → HostAct String (List Value)) :
    HostFunction where
  signature
  body args := do
    let results ← (f args).mapError .hostFunction
    let kinds := results.map Value.kind
    if kinds = signature.results then
      return results.getLast?
    else
      let found := Kind.showList kinds
      let declared := Kind.showList signature.results
      Act.fail (.hostFunction s!"host function returned {found}, declared {declared}")

end HostFunction

/-- What a lowered function computes once it has its arguments. It fails with a text; with `ε` empty it
cannot fail. -/
structure Computation (ε α : Type) where
  act : HostAct ε α

/-- Functions of this language that lower to host functions: any number of native parameters, then a
computation of one of three shapes. -/
class Lower (φ : Type) where
  params : List Kind
  results : List Kind
  fallible : Bool
  run : φ → List Value → HostAct HostError (Option Value)

namespace Lower

/-- A value, for functions that cannot fail. -/
instance {α : Type} [Native α] : Lower (Computation Empty α) where
  params := []
  results := [Native.kind α]
  fallible := false
  run c _ := (fun a => some (Native.toValue a)) <$> Act.mapError Empty.elim c.act

/-- A value or a failure. -/
instance {α : Type} [Native α] : Lower (Computation String α) where
  params := []
  results := [Native.kind α]
  fallible := true
  run c _ :=
    (fun a => some (Native.toValue a)) <$> Act.mapError .hostFunction c.act

/-- Nothing or a failure. -/
instance : Lower (Computation String Unit) where
  params := []
  results := []
  fallible := true
  run c _ := (fun _ => none) <$> Act.mapError .hostFunction c.act

/-- One more parameter. -/
instance {α φ : Type} [Native α] [Lower φ] : Lower (α → φ) where
  params := Native.kind α :: params φ
  results := results φ
  fallible := fallible φ
  run f
    | [] => Act.fail (.hostFunction "missing host function argument")
    | v :: vs =>
      match (Native.ofValue v : Except DecodeError α) with
      | .ok a => run (f a) vs
      | .error e => Act.fail (.decode e)

end Lower

/-- The host function that a function of this language stands for. -/
def HostFunction.lower {φ : Type} [Lower φ] (f : φ) : HostFunction where
  signature := ⟨Lower.params φ, Lower.results φ, Lower.fallible φ⟩
  body := Lower.run f

/-- A host function with the rule that charges its calls and the budget that its context holds. -/
structure HostApi where
  function : HostFunction
  rule : GasRule := .free
  context : Quota := 0

end AspectHost
