import AspectHost.Config
import AspectHost.Instance

/-! One call of a guest method: the meter is funded, the init hook runs, the arguments are written into guest
memory, the method runs on their pointers and its result is read back. What went wrong is noted and sorted
afterwards, by what happened and by what the meter shows. -/

namespace AspectHost

/-- The result of a guest call. -/
structure CallOutput where
  /-- Nothing if the method returned nothing or the null pointer. -/
  value : Option Value
  /-- The outer units that are left. -/
  gasRemaining : Int64
  deriving DecidableEq

namespace Instance

variable {γ : Type} (I : Instance γ)

/-- An activity of the host around the guest's own code. -/
def hosted {α : Type} (x : HostM γ α) : Act Failure (World γ) α := x.mapError .host

/-- Runs the init hook, if the guest exports a function of that name. It takes nothing, and what it returns
is of no interest. -/
def runHook (name : String) : Act Failure (World γ) Unit := do
  match I.function? name with
  | none => pure ()
  | some (t, f) =>
    if t.params ≠ [] then
      Act.fail (.misuse s!"expected {t.params.length} arguments, got 0")
    let _ ← I.invoke f []

/-- The method of that name, if it takes that many pointers and returns at most one. -/
def method (name : String) (count : Nat) : Except HostError Nat :=
  match I.function? name with
  | none => .error (.methodNotFound name)
  | some (t, f) =>
    if t.params.length ≠ count ∨ t.params.any (· ≠ .i32) then
      let taken := t.params.length
      .error (.badArguments s!"{name} takes {taken} pointer arguments, got {count} values")
    else if 1 < t.results.length ∨ t.results.any (· ≠ .i32) then
      .error (.badArguments s!"{name} must return at most one pointer")
    else .ok f

/-- Writes the arguments, in order. -/
def writeArguments : List Value → HostM γ (List Pointer)
  | [] => pure []
  | v :: vs => do
    let p ← I.writeValue v
    return p :: (← writeArguments vs)

/-- The value that a method returned by its pointer. -/
def readResult : List Wasm.Val → HostM γ (Option Value)
  | .i32 p :: _ => if p = 0 then pure none else (fun r => some r.1) <$> I.readValue p.toInt32
  | _ => pure none

/-- Runs the hook and then a method on its arguments. -/
def perform (hook name : String) (args : List Value) : Act Failure (World γ) (Option Value) := do
  I.runHook hook
  let f ← hosted (Act.ofExcept (I.method name args.length))
  let ps ← hosted (I.writeArguments args)
  let results ← I.invoke f (ps.map fun p => .i32 p.toUInt32)
  hosted (I.readResult results)

/-- Runs a method within a budget of outer units. Nothing runs if the meter does not take them. -/
def run (hook name : String) (gas : Int64) (args : List Value) :
    Act Failure (World γ) (Option Value) := do
  hosted (metered (I.meter.fund gas))
  I.perform hook name args

/-- Sorts a failed call. A few failures stay what they are; the others are out of gas if the meter says so,
and traps otherwise. -/
def classify (g : γ) : Failure → HostError
  | .trap .outOfFuel => .outOfGas
  | .host .outOfGas => .outOfGas
  | .host (.methodNotFound m) => .methodNotFound m
  | .host (.badArguments r) => .badArguments r
  | .host (.gasOverflow r) => .gasOverflow r
  | .host (.decode c) => .decode c
  | .host e =>
    match I.meter.remaining g with
    | .ok _ => .executionTrap e.message
    | .error _ => .outOfGas
  | e =>
    match I.meter.counter g with
    | .ok gas => if gas < 0 then .outOfGas else .executionTrap e.message
    | .error _ => .executionTrap e.message

/-- What is left after a failure, as far as the meter can tell. -/
def leftover (g : γ) : HostError → Int64
  | .outOfGas => 0
  | _ =>
    match I.meter.remainingOuter g with
    | .ok gas => gas
    | .error _ => 0

def callError (g : γ) (e : Failure) : CallError :=
  let error := I.classify g e
  ⟨error, I.leftover g error⟩

/-- Calls a method. A call that leaves the meter exhausted fails. -/
def call (hook name : String) (gas : Int64) (args : List Value) : Act CallError (World γ) CallOutput :=
  fun w =>
    match noting I.noteTrap (I.run hook name gas args) w with
    | .ok value w =>
      match I.meter.remainingOuter w.guest with
      | .ok gas => .ok ⟨value, gas⟩ w
      | .error e => .error (.error ⟨.ofGas e, 0⟩) w
    | .error e w => .error (e.map (I.callError w.guest)) w

end Instance
end AspectHost
