import AspectHost.Error
import AspectHost.Json.Reader

/-! The configuration shared by everything that is built from it: its defaults, its check and its JSON
form. -/

namespace AspectHost

/-- How gas is counted inside a guest. -/
inductive Metering where
  /-- By a 64-bit global that the guest exports and lowers itself. -/
  | globalCounter
  /-- By the evaluator, instruction by instruction. -/
  | fuel
  deriving DecidableEq

namespace Metering

def name : Metering → String
  | globalCounter => "globalcounter"
  | fuel => "fuel"

/-- The counter has a short name too. -/
def ofName? : String → Option Metering
  | "counter" | "globalcounter" => some globalCounter
  | "fuel" => some fuel
  | _ => none

/-- In JSON only the full names count. -/
def ofJson? (j : Json) : Option Metering := do
  match ← j.choice? with
  | ("globalcounter", none) | ("globalcounter", some .null) => some globalCounter
  | ("fuel", none) | ("fuel", some .null) => some fuel
  | _ => none

end Metering

/-- The engines that a guest can run on. -/
inductive Engine where
  | standard
  deriving DecidableEq

namespace Engine

def name : Engine → String
  | standard => "wasmtime"

def ofName? (s : String) : Option Engine := if s == standard.name then some standard else none

end Engine

structure GasConfig where
  /-- Guest units per outer unit. -/
  multiplier : Int64 := 100
  metering : Metering := .globalCounter
  /-- The exported global that holds the counter. -/
  counterGlobal : String := "__gas_counter__"
  deriving DecidableEq

structure Config where
  gas : GasConfig := {}
  /-- The most bytes that a guest's memory may grow to. -/
  maxMemorySize : UInt64 := 32 * 1024 * 1024
  staticMemoryMaximumSize : UInt64 := 10 * 1024 * 1024
  memoryGuardSize : UInt64 := 64 * 1024
  dynamicMemoryReservedForGrowth : UInt64 := 1024 * 1024
  /-- The export run before every method, if the guest has it. -/
  initExport : String := "__aspect_start__"
  allocatorExport : String := "allocate"
  memoryExport : String := "memory"
  deriving DecidableEq

namespace Config

/-- What can be wrong with a configuration. -/
inductive Fault where
  /-- The text is not JSON, or does not have the form of a configuration. -/
  | malformed
  | multiplier (found : Int64)
  | counterName
  | exportNames
  | memorySize
  deriving DecidableEq

def Fault.reason : Fault → String
  | malformed => "the text is not a configuration"
  | multiplier m => s!"gas multiplier must be positive, got {m.toInt}"
  | counterName => "gas counter global name is empty"
  | exportNames => "allocator and memory export names are required"
  | memorySize => "max_memory_size is 0"

def Fault.toError (f : Fault) : HostError := .config f.reason

/-- The first fault of a configuration. The counter's name matters only where it is used. -/
def check (c : Config) : Except Fault Unit := do
  if c.gas.multiplier ≤ 0 then throw (.multiplier c.gas.multiplier)
  if c.gas.metering = .globalCounter ∧ c.gas.counterGlobal = "" then throw .counterName
  if c.allocatorExport = "" ∨ c.memoryExport = "" then throw .exportNames
  if c.maxMemorySize = 0 then throw .memorySize

def word? (j : Json) : Option UInt64 :=
  (fun n => UInt64.ofNat n.toNat) <$> j.intBetween? 0 0xFFFFFFFFFFFFFFFF

def signedWord? (j : Json) : Option Int64 :=
  Int64.ofInt <$> j.intBetween? Int64.minValue.toInt Int64.maxValue.toInt

def gasOfJson? (j : Json) : Option GasConfig := do
  let fs ← j.record? ["multiplier", "metering", "counter_global"]
  let d : GasConfig := {}
  return {
    multiplier := ← Json.fieldOr fs "multiplier" signedWord? d.multiplier
    metering := ← Json.fieldOr fs "metering" Metering.ofJson? d.metering
    counterGlobal := ← Json.fieldOr fs "counter_global" Json.string? d.counterGlobal }

/-- Missing fields take their defaults. The result is not checked. -/
def ofJson? (j : Json) : Option Config := do
  let fs ← j.record? ["gas", "max_memory_size", "static_memory_maximum_size", "memory_guard_size",
    "dynamic_memory_reserved_for_growth", "init_export", "allocator_export", "memory_export"]
  let d : Config := {}
  return {
    gas := ← Json.fieldOr fs "gas" gasOfJson? d.gas
    maxMemorySize := ← Json.fieldOr fs "max_memory_size" word? d.maxMemorySize
    staticMemoryMaximumSize :=
      ← Json.fieldOr fs "static_memory_maximum_size" word? d.staticMemoryMaximumSize
    memoryGuardSize := ← Json.fieldOr fs "memory_guard_size" word? d.memoryGuardSize
    dynamicMemoryReservedForGrowth :=
      ← Json.fieldOr fs "dynamic_memory_reserved_for_growth" word? d.dynamicMemoryReservedForGrowth
    initExport := ← Json.fieldOr fs "init_export" Json.string? d.initExport
    allocatorExport := ← Json.fieldOr fs "allocator_export" Json.string? d.allocatorExport
    memoryExport := ← Json.fieldOr fs "memory_export" Json.string? d.memoryExport }

/-- Reads a configuration from its text and checks it. -/
def read (s : String) : Except Fault Config := do
  let some c := Json.read? s >>= ofJson? | throw .malformed
  c.check
  return c

end Config
end AspectHost
