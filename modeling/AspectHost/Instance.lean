import AspectHost.Guest
import AspectHost.Wasm.Arith

/-! A live instance of guest code as the host calls it: what it exports, and how to call that. -/

namespace AspectHost

/-- Why a call into guest code ended without a result. -/
inductive Failure where
  | trap (cause : Wasm.Trap)
  /-- A host function that the guest called failed, or the host itself did around the call. -/
  | host (error : HostError)
  /-- The function cannot be called like that. -/
  | misuse (reason : String)
  deriving DecidableEq

def Failure.message : Failure → String
  | trap c => c.message
  | host e => e.message
  | misuse r => r

/-- Runs guest code, and notes on the guest how it failed, if it did. -/
def noting {γ α : Type} (note : Stop Failure → γ → γ) (x : Act Failure (World γ) α) :
    Act Failure (World γ) α := fun w =>
  match x w with
  | .ok a w => .ok a w
  | .error e w => .error e { w with guest := note e w.guest }

/-- What the host can do with a live instance. Its functions go by their index. -/
structure Instance (γ : Type) extends Guest γ where
  /-- The function exported under a name. -/
  function? : String → Option (Wasm.FuncType × Nat)
  invoke : Nat → List Wasm.Val → Act Failure (World γ) (List Wasm.Val)
  /-- Marks the meter as exhausted if guest code stopped for lack of fuel. -/
  noteTrap : Stop Failure → γ → γ

end AspectHost
