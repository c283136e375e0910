import AspectHost.Wasm.Instr
import AspectHost.LittleEndian

/-! A module of guest code as its binary form gives it. Imports come before definitions in every index
space. -/

namespace AspectHost.Wasm

inductive ImportDesc where
  | func (type : Nat)
  | table (type : TableType)
  | memory (limits : Limits)
  | global (type : GlobalType)
  deriving DecidableEq

structure Import where
  module : String
  name : String
  desc : ImportDesc
  deriving DecidableEq

structure Export where
  name : String
  space : Space
  index : Nat
  deriving DecidableEq

structure Global where
  type : GlobalType
  value : Initial
  deriving DecidableEq

/-- When a segment is copied into its table or memory. -/
inductive Mode where
  /-- At the start, to an offset of the table or memory of that index. -/
  | active (index : Nat) (offset : Initial)
  | passive
  /-- Never: it only declares references. -/
  | declarative
  deriving DecidableEq

structure ElementSegment where
  mode : Mode
  type : ValType
  items : List Initial
  deriving DecidableEq

structure DataSegment where
  mode : Mode
  bytes : Bytes
  deriving DecidableEq

/-- The variables and instructions of a function. -/
structure Body where
  /-- Runs of variables of one type. -/
  locals : List (Nat × ValType)
  code : List Instr

structure Module where
  types : List FuncType := []
  imports : List Import := []
  /-- The type of each function that the module defines. -/
  functions : List Nat := []
  tables : List TableType := []
  memories : List Limits := []
  globals : List Global := []
  exports : List Export := []
  start : Option Nat := none
  elements : List ElementSegment := []
  /-- The declared number of data segments. -/
  dataCount : Option Nat := none
  code : List Body := []
  data : List DataSegment := []

namespace Module

variable (m : Module)

def importedFunctions : List Nat :=
  m.imports.filterMap fun i => match i.desc with
    | .func t => some t
    | _ => none

def importedGlobals : List GlobalType :=
  m.imports.filterMap fun i => match i.desc with
    | .global t => some t
    | _ => none

/-- The type index of every function. -/
def functionSpace : List Nat := m.importedFunctions ++ m.functions

def tableSpace : List TableType :=
  m.imports.filterMap (fun i => match i.desc with
    | .table t => some t
    | _ => none) ++ m.tables

def memorySpace : List Limits :=
  m.imports.filterMap (fun i => match i.desc with
    | .memory l => some l
    | _ => none) ++ m.memories

def globalSpace : List GlobalType := m.importedGlobals ++ m.globals.map Global.type

def functionType? (index : Nat) : Option FuncType := do
  let t ← m.functionSpace[index]?
  m.types[t]?

/-- What is exported under a name. -/
def export? (name : String) : Option ExternType := do
  let e ← m.exports.find? (·.name == name)
  match e.space with
  | .func => .func <$> m.functionType? e.index
  | .table => .table <$> m.tableSpace[e.index]?
  | .memory => .memory <$> m.memorySpace[e.index]?
  | .global => .global <$> m.globalSpace[e.index]?

/-- The index of what is exported under a name, if it is of that space. -/
def exportIndex? (space : Space) (name : String) : Option Nat := do
  let e ← m.exports.find? (·.name == name)
  if e.space = space then some e.index else none

end Module
end AspectHost.Wasm
