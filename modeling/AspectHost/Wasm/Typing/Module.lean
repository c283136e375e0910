import AspectHost.Wasm.Binary
import AspectHost.Wasm.Typing

/-! The validity of modules: every index has its counterpart, every size is in range, every initial value
and every function body is well-typed, and no name is exported twice. -/

namespace AspectHost.Wasm

/-- The largest numbers of things that a module may have. -/
structure Bounds where
  /-- Of parameters, and of results. -/
  values : Nat := 1000
  /-- Of the variables of a function, its parameters included. -/
  locals : Nat := 50000
  tables : Nat := 100
  memories : Nat := 1
  /-- Of the entries that a table starts with. -/
  tableSize : Nat := 10000000

def Limits.ordered (l : Limits) : Bool := l.max.all (l.min ≤ ·)

def Limits.isMemory (l : Limits) : Bool :=
  l.ordered && l.min ≤ maxPages && l.max.all (· ≤ maxPages)

def TableType.valid (B : Bounds) (t : TableType) : Bool :=
  t.limits.ordered && t.limits.min ≤ B.tableSize

namespace Module

variable (m : Module) (B : Bounds)

/-- The functions that are named outside of function bodies. Only to these references may be taken. -/
def referable : List Nat :=
  m.globals.filterMap (Initial.func? ·.value) ++
    m.elements.flatMap (·.items.filterMap Initial.func?) ++
    m.exports.filterMap fun e => if e.space = .func then some e.index else none

/-- What function bodies may refer to, if every function has a type. -/
def context? : Option Context := do
  let functions ← m.functionSpace.mapM fun t => m.types[t]?
  return {
    types := m.types.toArray
    functions := functions.toArray
    tables := m.tableSpace.toArray
    memory := !m.memorySpace.isEmpty
    globals := m.globalSpace.toArray
    elements := (m.elements.map ElementSegment.type).toArray
    dataCount := m.dataCount
    referable := m.referable }

/-- Whether an initial value has a type. Of the globals only imported constants have a value by then. -/
def initialFits (t : ValType) : Initial → Bool
  | .value v => v.type == t
  | .func f => t == .funcref && f < m.functionSpace.length
  | .global g => m.importedGlobals[g]? == some ⟨t, false⟩

def modeFits (target : Nat → Bool) : Mode → Bool
  | .active i offset => target i && m.initialFits .i32 offset
  | _ => true

def elementsFit (e : ElementSegment) : Bool :=
  m.modeFits (fun i => m.tableSpace[i]?.any (·.element == e.type)) e.mode &&
    e.items.all (m.initialFits e.type)

def exportExists (e : Export) : Bool :=
  match e.space with
  | .func => e.index < m.functionSpace.length
  | .table => e.index < m.tableSpace.length
  | .memory => e.index < m.memorySpace.length
  | .global => e.index < m.globalSpace.length

def startFits : Bool :=
  m.start.all fun f => m.functionType? f == some ⟨[], []⟩

/-- The variables of a function, its parameters first, if they are not too many. -/
def locals? (type : FuncType) (body : Body) : Option (Array ValType) :=
  let n := body.locals.foldl (fun n run => n + run.1) type.params.length
  if n ≤ B.locals then
    some (type.params ++ body.locals.flatMap fun (n, t) => List.replicate n t).toArray
  else none

def bodyFits (C : Context) (type : Nat) (body : Body) : Bool :=
  match C.types[type]? with
  | some t =>
    match locals? B t body with
    | some locals => C.acceptsBody t locals body.code
    | none => false
  | none => false

/-- Whether no name is in the list twice. -/
def namesDiffer (names : List String) : Bool :=
  let sorted := names.mergeSort (· ≤ ·)
  (sorted.zip sorted.tail).all fun (a, b) => a != b

def valid (B : Bounds) : Bool :=
  match m.context? with
  | none => false
  | some C =>
    m.types.all (fun t => t.params.length ≤ B.values && t.results.length ≤ B.values) &&
    m.tableSpace.all (TableType.valid B) && m.tableSpace.length ≤ B.tables &&
    m.memorySpace.all Limits.isMemory && m.memorySpace.length ≤ B.memories &&
    m.globals.all (fun g => m.initialFits g.type.type g.value) &&
    m.exports.all m.exportExists && namesDiffer (m.exports.map Export.name) &&
    m.startFits && m.elements.all m.elementsFit &&
    m.data.all (fun d => m.modeFits (· < m.memorySpace.length) d.mode) &&
    m.dataCount.all (· == m.data.length) &&
    m.functions.length == m.code.length &&
    (m.functions.zip m.code).all fun (t, b) => bodyFits B C t b

/-- The valid module of a binary form. -/
def read? (input : Bytes) : Option Module := do
  let m ← ofBytes? input
  if m.valid {} then some m else none

theorem valid_of_read? {m : Module} {input : Bytes} (h : read? input = some m) : m.valid {} = true := by
  unfold read? at h
  obtain ⟨m', -, h⟩ := Option.bind_eq_some_iff.mp h
  split at h
  · cases h
    assumption
  · cases h

end Module
end AspectHost.Wasm
