/-! How an activity of the host can end without a result, and the state monad in which such activities
run. The state survives every ending, so a failure never undoes what happened before it. -/

namespace AspectHost

/-- Why an activity ended without a result. -/
inductive Stop (ε : Type) where
  /-- A failure that is reported to whoever asked. -/
  | error (cause : ε)
  /-- A host function broke off. -/
  | panic
  /-- No answer: the engine was not waited for any longer, or had nothing to do that fits. -/
  | unanswered
  deriving DecidableEq

namespace Stop

def map {ε ε' : Type} (f : ε → ε') : Stop ε → Stop ε'
  | error e => error (f e)
  | panic => panic
  | unanswered => unanswered

end Stop

/-- An activity on a state of type `σ`. -/
abbrev Act (ε σ α : Type) := EStateM (Stop ε) σ α

namespace Act

variable {ε ε' σ α : Type}

def fail (e : ε) : Act ε σ α := throw (.error e)

/-- Runs a computation that does not touch the state. -/
def ofExcept : Except ε α → Act ε σ α
  | .ok a => pure a
  | .error e => fail e

/-- Reads a value off the state. -/
def query (f : σ → Except ε α) : Act ε σ α := fun s =>
  match f s with
  | .ok a => .ok a s
  | .error e => .error (.error e) s

def mapError (f : ε → ε') (x : Act ε σ α) : Act ε' σ α := fun s =>
  match x s with
  | .ok a s => .ok a s
  | .error e s => .error (e.map f) s

end Act
end AspectHost
