/-! The types of guest code: of values, functions, memories, tables and globals, and of everything that a
module imports or exports. -/

namespace AspectHost.Wasm

inductive ValType where
  | i32
  | i64
  | f32
  | f64
  | funcref
  | externref
  deriving DecidableEq

def ValType.isRef : ValType → Bool
  | funcref | externref => true
  | _ => false

def ValType.name : ValType → String
  | .i32 => "i32"
  | .i64 => "i64"
  | .f32 => "f32"
  | .f64 => "f64"
  | .funcref => "funcref"
  | .externref => "externref"

structure FuncType where
  params : List ValType
  results : List ValType
  deriving DecidableEq

def FuncType.render (t : FuncType) : String :=
  let list (ts : List ValType) : String := "(" ++ ", ".intercalate (ts.map ValType.name) ++ ")"
  list t.params ++ " -> " ++ list t.results

/-- A size and how far it may grow. -/
structure Limits where
  min : Nat
  max : Option Nat
  deriving DecidableEq

structure TableType where
  element : ValType
  limits : Limits
  deriving DecidableEq

structure GlobalType where
  type : ValType
  mutable : Bool
  deriving DecidableEq

/-- The type of an import or export. Memories are given by their limits in pages. -/
inductive ExternType where
  | func (type : FuncType)
  | table (type : TableType)
  | memory (limits : Limits)
  | global (type : GlobalType)
  deriving DecidableEq

/-- The index spaces of a module. -/
inductive Space where
  | func
  | table
  | memory
  | global
  deriving DecidableEq

/-- The bytes of a page. -/
def pageSize : Nat := 65536

/-- The most pages of any memory. -/
def maxPages : Nat := 65536

end AspectHost.Wasm
