import AspectHost.Wasm.Arith
import AspectHost.Wasm.Memory
import AspectHost.Wasm.Module

/-! What guest code changes as it runs, and what it consists of: the functions and limits that stay the
same. -/

namespace AspectHost.Wasm

/-- The fuel of a store. What guest code overspends it owes. -/
structure Fuel where
  amount : Int := 0
  /-- Whether it is noted that code stopped for lack of fuel since the fuel was last set. -/
  exhausted : Bool := false
  deriving DecidableEq

structure Store where
  memory : LinearMemory := ByteArray.empty
  globals : Array Val := #[]
  tables : Array (Array Val) := #[]
  /-- The element segments, emptied when they are dropped. -/
  elements : Array (List Val) := #[]
  data : Array Bytes := #[]
  fuel : Fuel := {}

inductive Function where
  | imported (type : FuncType)
  | defined (type : FuncType) (vars : List Val) (code : List Instr)

def Function.type : Function → FuncType
  | imported t => t
  | defined t _ _ => t

/-- Guest code ready to run. -/
structure Program where
  types : Array FuncType
  functions : Array Function
  /-- The most bytes that the memory may have. -/
  memoryLimit : Nat
  /-- The most entries that each table may have. -/
  tableLimits : Array Nat
  /-- Whether the code runs on fuel. -/
  fuelled : Bool

namespace Program

variable (P : Program)

/-- How many values a block takes and leaves. -/
def arity : BlockType → Nat × Nat
  | .empty => (0, 0)
  | .value _ => (0, 1)
  | .func i =>
    match P.types[i]? with
    | some t => (t.params.length, t.results.length)
    | none => (0, 0)

end Program

namespace Store

/-- The size of the memory in pages. -/
def pages (s : Store) : Nat := s.memory.size / pageSize

/-- Whether `size` bytes from `start` on lie inside the memory. -/
def inMemory (s : Store) (start size : Nat) : Bool := start + size ≤ s.memory.size

/-- Grows the memory up to a limit; hands back the old size in pages. -/
def growMemory (limit delta : Nat) (s : Store) : Option Nat × Store :=
  let old := s.pages
  if (old + delta) * pageSize ≤ limit then
    let { memory, globals, tables, elements, data, fuel } := s
    (some old, { memory := memory.grow delta, globals, tables, elements, data, fuel })
  else (none, s)

def write (start : Nat) (b : Bytes) (s : Store) : Store :=
  let { memory, globals, tables, elements, data, fuel } := s
  { memory := memory.write start b, globals, tables, elements, data, fuel }

def fill (start size : Nat) (b : UInt8) (s : Store) : Store :=
  let { memory, globals, tables, elements, data, fuel } := s
  { memory := memory.fill b size start, globals, tables, elements, data, fuel }

/-- The entries of a table; none where there is no such table. -/
def table (s : Store) (i : Nat) : Array Val := s.tables.getD i #[]

def setTable (i : Nat) (entries : Array Val) (s : Store) : Store :=
  { s with tables := s.tables.setIfInBounds i entries }

/-- The segment's items; none where there is no such segment. -/
def element (s : Store) (i : Nat) : List Val := s.elements.getD i []

def datum (s : Store) (i : Nat) : Bytes := s.data.getD i []

/-- `vs` written over the entries of a table from `start` on. -/
def setEntries (i start : Nat) (vs : List Val) (s : Store) : Store :=
  let entries := (vs.zipIdx start).foldl (fun t e => t.setIfInBounds e.2 e.1) (s.table i)
  s.setTable i entries

/-! ## What writing leaves alone -/

variable (s : Store)

@[simp] theorem globals_write (start : Nat) (b : Bytes) : (s.write start b).globals = s.globals := by
  cases s
  rfl

@[simp] theorem fuel_write (start : Nat) (b : Bytes) : (s.write start b).fuel = s.fuel := by
  cases s
  rfl

@[simp] theorem globals_fill (start size : Nat) (b : UInt8) :
    (s.fill start size b).globals = s.globals := by
  cases s
  rfl

@[simp] theorem fuel_fill (start size : Nat) (b : UInt8) : (s.fill start size b).fuel = s.fuel := by
  cases s
  rfl

@[simp] theorem globals_setTable (i : Nat) (entries : Array Val) :
    (s.setTable i entries).globals = s.globals := rfl

@[simp] theorem fuel_setTable (i : Nat) (entries : Array Val) :
    (s.setTable i entries).fuel = s.fuel := rfl

@[simp] theorem globals_setEntries (i start : Nat) (vs : List Val) :
    (s.setEntries i start vs).globals = s.globals := rfl

@[simp] theorem fuel_setEntries (i start : Nat) (vs : List Val) :
    (s.setEntries i start vs).fuel = s.fuel := rfl

@[simp] theorem globals_growMemory (limit delta : Nat) :
    (s.growMemory limit delta).2.globals = s.globals := by
  by_cases h : (s.pages + delta) * pageSize ≤ limit <;> simp [growMemory, h]

@[simp] theorem fuel_growMemory (limit delta : Nat) : (s.growMemory limit delta).2.fuel = s.fuel := by
  by_cases h : (s.pages + delta) * pageSize ≤ limit <;> simp [growMemory, h]

end Store
end AspectHost.Wasm
