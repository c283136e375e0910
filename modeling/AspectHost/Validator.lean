import AspectHost.Config
import AspectHost.Wasm.Engine

/-! Checking guest code before it is used: it has to be a valid module that exports a memory and an
allocator under the configured names. Validators are kept, one for each configuration. -/

namespace AspectHost

/-- A checker of guest code for one configuration. -/
structure Validator where
  config : Config
  deriving DecidableEq

/-- What can keep valid code from being a guest. -/
inductive Validator.Defect where
  | memory (name : String)
  | allocator (name : String)
  | allocatorType (name : String) (found : Wasm.FuncType)

namespace Validator

def Defect.reason : Defect → String
  | memory n => s!"missing memory export '{n}'"
  | allocator n => s!"missing allocator export '{n}'"
  | allocatorType n t => s!"allocator '{n}' must have type (i32) -> i32, found {t.render}"

/-- A validator, if the configuration is in order and an engine can be set up for it. -/
def new [Wasm.Engine] (c : Config) : Except HostError Validator := do
  c.check.mapError Config.Fault.toError
  (Wasm.Engine.setUp c).mapError .validation
  return ⟨c⟩

/-- The type of an allocator: from a size to a pointer. -/
def allocatorType : Wasm.FuncType := ⟨[.i32], [.i32]⟩

/-- The first defect of a module. -/
def defect? (v : Validator) (m : Wasm.Module) : Option Defect :=
  match m.export? v.config.memoryExport, m.export? v.config.allocatorExport with
  | some (.memory _), some (.func t) =>
    if t = allocatorType then none else some (.allocatorType v.config.allocatorExport t)
  | some (.memory _), _ => some (.allocator v.config.allocatorExport)
  | _, _ => some (.memory v.config.memoryExport)

def validate [Wasm.Engine] (v : Validator) (code : Bytes) : Except HostError Unit :=
  match Wasm.Engine.read code with
  | .error reason => .error (.compilation reason)
  | .ok m =>
    match v.defect? m with
    | some d => .error (.validation d.reason)
    | none => .ok ()

end Validator

/-- The validators made so far, each with the configuration that it was asked for with. -/
structure Validators where
  made : List (Config × Validator) := []

namespace Validators

/-- Answers with the place of the validator for a configuration, which is made and kept where there is none
yet. -/
def ask [Wasm.Engine] (c : Config) : EStateM HostError Validators Nat := do
  match (← get).made.findIdx? (·.1 = c) with
  | some i => return i
  | none =>
    match Validator.new c with
    | .error e => throw e
    | .ok v => modifyGet fun vs => (vs.made.length, ⟨vs.made ++ [(c, v)]⟩)

/-- The place of the validator for a configuration, and the validators afterwards. -/
def request [Wasm.Engine] (vs : Validators) (c : Config) : Except HostError (Nat × Validators) :=
  match ask c vs with
  | .ok i vs' => .ok (i, vs')
  | .error e _ => .error e

/-- The validator at a place. -/
def get? (vs : Validators) (i : Nat) : Option Validator := (·.2) <$> vs.made[i]?

end Validators
end AspectHost
