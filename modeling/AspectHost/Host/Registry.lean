import AspectHost.Host.Function
import AspectHost.NameMap

/-! Host functions by module, namespace and method, one map inside the other. Each name is given once, and the
entries stand in the order of their names. -/

namespace AspectHost

/-- The name of a host function. -/
structure ApiKey where
  module : String
  space : String
  method : String
  deriving DecidableEq

namespace ApiKey

/-- The name under which a guest imports the function from the module. -/
def importName (k : ApiKey) : String := k.space ++ "." ++ k.method

/-- The name that messages and events use. -/
def qualified (k : ApiKey) : String := k.module ++ "::" ++ k.importName

/-- The order of the names, part by part. -/
def Before (a b : ApiKey) : Prop :=
  a.module < b.module ∨ a.module = b.module ∧
    (a.space < b.space ∨ a.space = b.space ∧ a.method < b.method)

instance (a b : ApiKey) : Decidable (a.Before b) := by unfold Before; infer_instance

end ApiKey

/-- The host functions of a namespace, by their methods. -/
abbrev Methods := NameMap HostApi

structure Registry where
  /-- The namespaces of each module. -/
  modules : NameMap (NameMap Methods)

namespace Registry

def empty : Registry := ⟨.empty⟩

/-- What is registered under a module and a namespace. -/
def methods (r : Registry) (k : ApiKey) : Methods :=
  ((r.modules.find? k.module).bind (·.find? k.space)).getD .empty

def find? (r : Registry) (k : ApiKey) : Option HostApi := do
  let spaces ← r.modules.find? k.module
  let methods ← spaces.find? k.space
  methods.find? k.method

/-- Every entry, in the order of the names. -/
def entries (r : Registry) : List (ApiKey × HostApi) :=
  r.modules.toList.flatMap fun m => m.2.toList.flatMap fun s => s.2.toList.map fun e =>
    (⟨m.1, s.1, e.1⟩, e.2)

def toList (r : Registry) : List (ApiKey × HostApi) := r.entries

def size (r : Registry) : Nat := r.toList.length

/-- Whether there is no module. -/
def isEmpty (r : Registry) : Bool := r.modules.isEmpty

/-- Changes what is registered under a module and a namespace. Both are there afterwards, with nothing in
them if they are new and nothing is added. -/
def update (r : Registry) (k : ApiKey) (f : Methods → Methods) : Registry :=
  ⟨r.modules.alter k.module .empty fun spaces => spaces.alter k.space .empty f⟩

def insert (r : Registry) (k : ApiKey) (api : HostApi) : Registry :=
  r.update k fun methods => methods.insert k.method api

/-- Adds a host function whose signature can be an import and whose name is free. The module and the
namespace are entered before the name is looked up. -/
def enter (k : ApiKey) (api : HostApi) : EStateM HostError Registry Unit := do
  match api.function.signature.check with
  | .error m =>
    let reason := m.reason
    throw (.hostFunctionNotSupported s!"{k.qualified}: {reason}")
  | .ok () =>
    modify fun r => r.update k id
    if (((← get).methods k).find? k.method).isSome then throw (.duplicateHostFunction k.qualified)
    modify fun r => r.insert k api

/-- The registry with one more host function, or why it cannot be added. -/
def register (r : Registry) (k : ApiKey) (api : HostApi) : Except HostError Registry :=
  match enter k api r with
  | .ok () r' => .ok r'
  | .error e _ => .error e

end Registry
end AspectHost
