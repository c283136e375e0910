import AspectHost.Kind

/-! The shape of a host function on the wire. -/

namespace AspectHost

structure Signature where
  params : List Kind
  /-- The results besides the error. -/
  results : List Kind
  /-- Whether an error can stand in the place of the results. -/
  fallible : Bool
  deriving DecidableEq

namespace Signature

/-- The most parameters that an import can have. -/
def maxParams : Nat := 3

/-- What keeps a signature from being an import. -/
inductive Misfit where
  | params (count : Nat)
  | results (count : Nat)
  | noOutputs
  | emptyKind
  deriving DecidableEq

def Misfit.reason : Misfit → String
  | params n => s!"{n} parameters"
  | results n => s!"{n} non-error results"
  | noOutputs => "no outputs"
  | emptyKind => "unsupported parameter or result type"

/-- An import takes up to three pointers and hands back at most one; a function without results has to be
able to fail. -/
def check (s : Signature) : Except Misfit Unit := do
  if maxParams < s.params.length then throw (.params s.params.length)
  if 1 < s.results.length then throw (.results s.results.length)
  if s.results = [] ∧ ¬ s.fallible then throw .noOutputs
  if Kind.empty ∈ s.params ++ s.results then throw .emptyKind

/-- Whether an import hands back a pointer. -/
def returnsValue (s : Signature) : Bool := !s.results.isEmpty

def render (s : Signature) : String :=
  let outputs := s.results.map Kind.name ++ if s.fallible then ["error"] else []
  "(" ++ ", ".intercalate (s.params.map Kind.name) ++ ") -> (" ++ ", ".intercalate outputs ++ ")"

end Signature
end AspectHost
