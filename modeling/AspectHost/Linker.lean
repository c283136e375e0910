import AspectHost.Host.Dispatch
import AspectHost.Wasm.Module

/-! Linking: every host function is offered as an import, whether the guest asks for it or not. Beside them
stands one import by which guests report a failed assertion. An import goes by its module and a name of its
own, so two host functions of one module must not share that name. -/

namespace AspectHost

/-- What stands behind an import. -/
inductive Offer where
  | api (api : LinkedApi)
  /-- Records what a guest reports about a failed assertion. -/
  | abort

namespace Offer

/-- The most pointers that a call of a host function can pass on. -/
def maxPointers : Nat := 3

/-- A pointer for each parameter, and one for the result if there is any. -/
def type : Offer → Wasm.FuncType
  | api a =>
    let s := a.function.signature
    ⟨s.params.map fun _ => .i32, if s.returnsValue then [.i32] else []⟩
  | abort => ⟨[.i32, .i32, .i32, .i32], []⟩

end Offer

/-- The module and the name of an import. -/
structure ImportName where
  module : String
  name : String
  deriving DecidableEq

namespace ImportName

def ofKey (k : ApiKey) : ImportName := ⟨k.module, k.importName⟩

def abort : ImportName := ⟨"env", "abort"⟩

def render (n : ImportName) : String := n.module ++ "::" ++ n.name

end ImportName

/-- The imports on offer, each under a name of its own. -/
structure Linker where
  offers : List (ImportName × Offer) := []

namespace Linker

def find? (l : Linker) (n : ImportName) : Option Offer := l.offers.lookup n

/-- Offers one more import. -/
def define (l : Linker) (n : ImportName) (o : Offer) : Except HostError Linker :=
  if (l.find? n).isSome then
    .error (.link s!"cannot link {n.render}: defined twice")
  else .ok ⟨l.offers ++ [(n, o)]⟩

/-- Offers a host function, if its parameters can be passed on. -/
def offer (l : Linker) (n : ImportName) (a : LinkedApi) : Except HostError Linker :=
  let signature := a.function.signature
  if Offer.maxPointers < signature.params.length then
    .error (.link s!"cannot link {n.render}: unsupported signature {signature.render}")
  else l.define n (.api a)

/-- Offers the functions of a registry, in its order. -/
def ofApis (r : Registry) : Except HostError Linker :=
  ((r.toList.map (·.1)).zip (LinkedApi.ofRegistry r).toList).foldlM (fun l e => l.offer (.ofKey e.1) e.2) {}

/-- Offers the functions of a registry and the report of failed assertions. -/
def ofRegistry (r : Registry) : Except HostError Linker := do
  let l ← ofApis r
  l.define .abort .abort

/-- What stands behind the imports of a module, in their order. Only functions are on offer. -/
def resolve (l : Linker) (m : Wasm.Module) : Except HostError (List Offer) :=
  m.imports.mapM fun i =>
    match l.find? ⟨i.module, i.name⟩, i.desc with
    | some o, .func t =>
      if m.types[t]? = some o.type then .ok o
      else .error (.link s!"incompatible import type for {i.module}::{i.name}")
    | some _, _ => .error (.link s!"incompatible import type for {i.module}::{i.name}")
    | none, _ => .error (.link s!"unknown import: {i.module}::{i.name}")

end Linker
end AspectHost
