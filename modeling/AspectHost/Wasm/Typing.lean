import AspectHost.Wasm.Module

/-! The typing of instructions. An instruction takes its operands off a stack of types and puts its results
on it; behind an unconditional branch the stack below is whatever it has to be. -/

namespace AspectHost.Wasm

/-- What the instructions of a function may refer to. -/
structure Context where
  types : Array FuncType
  functions : Array FuncType
  tables : Array TableType
  /-- Whether there is a memory. -/
  memory : Bool
  globals : Array GlobalType
  /-- The types of the element segments. -/
  elements : Array ValType
  /-- The declared number of data segments. -/
  dataCount : Option Nat
  /-- The functions that a reference may be taken to. -/
  referable : List Nat
  locals : Array ValType := #[]
  /-- What a branch to each label takes along, the innermost first. The last is that of the function. -/
  labels : List (List ValType) := []
  results : List ValType := []

/-- The types of the operands at hand, the topmost first; `none` for one that could have any type. -/
structure Operands where
  types : List (Option ValType)
  /-- Whether any operands are below. -/
  anyBelow : Bool
  deriving DecidableEq

namespace Operands

/-- Exactly these, the last one on top. -/
def of (types : List ValType) : Operands := ⟨types.reverse.map some, false⟩

/-- Behind an unconditional branch. -/
def unreachable : Operands := ⟨[], true⟩

def push (t : ValType) (s : Operands) : Operands := { s with types := some t :: s.types }

def pushAll (types : List ValType) (s : Operands) : Operands :=
  { s with types := types.reverse.map some ++ s.types }

/-- Takes one operand of any type. -/
def popAny? (s : Operands) : Option (Option ValType × Operands) :=
  match s.types with
  | t :: r => some (t, { s with types := r })
  | [] => if s.anyBelow then some (none, s) else none

def pop? (t : ValType) (s : Operands) : Option Operands := do
  let (found, s) ← s.popAny?
  if found = none ∨ found = some t then some s else none

/-- Takes operands of these types, the last one first. -/
def popAll? (types : List ValType) (s : Operands) : Option Operands :=
  types.reverse.foldlM (fun s t => s.pop? t) s

/-- Operands turned into results. -/
def exchange? (params results : List ValType) (s : Operands) : Option Operands :=
  pushAll results <$> s.popAll? params

/-- Whether the operands are exactly of these types. -/
def finished (types : List ValType) (s : Operands) : Bool :=
  match s.popAll? types with
  | some s => s.types.isEmpty
  | none => false

end Operands

namespace Context

variable (C : Context)

def blockType? : BlockType → Option FuncType
  | .empty => some ⟨[], []⟩
  | .value t => some ⟨[], [t]⟩
  | .func i => C.types[i]?

/-- An access may promise no more than the alignment of its own size. -/
def addressable (bytes : Nat) (arg : MemArg) : Bool := C.memory && 1 <<< arg.align ≤ bytes

def hasData (segment : Nat) : Bool :=
  match C.dataCount with
  | some n => segment < n
  | none => false

/-- The type of an instruction that needs no more than a fixed one. -/
def fixedType? : Instr → Option FuncType
  | .nop => some ⟨[], []⟩
  | .call f => C.functions[f]?
  | .localGet i => (fun t => ⟨[], [t]⟩) <$> C.locals[i]?
  | .localSet i => (fun t => ⟨[t], []⟩) <$> C.locals[i]?
  | .localTee i => (fun t => ⟨[t], [t]⟩) <$> C.locals[i]?
  | .globalGet i => (fun g => ⟨[], [g.type]⟩) <$> C.globals[i]?
  | .globalSet i => do
    let g ← C.globals[i]?
    guard g.mutable
    return ⟨[g.type], []⟩
  | .tableGet i => (fun t => ⟨[.i32], [t.element]⟩) <$> C.tables[i]?
  | .tableSet i => (fun t => ⟨[.i32, t.element], []⟩) <$> C.tables[i]?
  | .tableSize i => (fun _ => ⟨[], [.i32]⟩) <$> C.tables[i]?
  | .tableGrow i => (fun t => ⟨[t.element, .i32], [.i32]⟩) <$> C.tables[i]?
  | .tableFill i => (fun t => ⟨[.i32, t.element, .i32], []⟩) <$> C.tables[i]?
  | .tableCopy i j => do
    let t ← C.tables[i]?
    let u ← C.tables[j]?
    guard (t.element = u.element)
    return ⟨[.i32, .i32, .i32], []⟩
  | .tableInit i e => do
    let t ← C.tables[i]?
    let u ← C.elements[e]?
    guard (t.element = u)
    return ⟨[.i32, .i32, .i32], []⟩
  | .elemDrop e => (fun _ => ⟨[], []⟩) <$> C.elements[e]?
  | .load t n _ arg => if C.addressable n arg then some ⟨[.i32], [t]⟩ else none
  | .store t n arg => if C.addressable n arg then some ⟨[.i32, t], []⟩ else none
  | .memorySize => if C.memory then some ⟨[], [.i32]⟩ else none
  | .memoryGrow => if C.memory then some ⟨[.i32], [.i32]⟩ else none
  | .memoryFill | .memoryCopy => if C.memory then some ⟨[.i32, .i32, .i32], []⟩ else none
  | .memoryInit d => if C.memory && C.hasData d then some ⟨[.i32, .i32, .i32], []⟩ else none
  | .dataDrop d => if C.hasData d then some ⟨[], []⟩ else none
  | .const v => some ⟨[], [v.type]⟩
  | .refFunc f => if f < C.functions.size && C.referable.contains f then some ⟨[], [.funcref]⟩ else none
  | .eqz w => some ⟨[w.type], [.i32]⟩
  | .compare w _ => some ⟨[w.type, w.type], [.i32]⟩
  | .unary w _ => some ⟨[w.type], [w.type]⟩
  | .binary w _ => some ⟨[w.type, w.type], [w.type]⟩
  | .wrap => some ⟨[.i64], [.i32]⟩
  | .extend _ => some ⟨[.i32], [.i64]⟩
  | .floatCompare w _ => some ⟨[w.floatType, w.floatType], [.i32]⟩
  | .floatUnary w _ => some ⟨[w.floatType], [w.floatType]⟩
  | .floatBinary w _ => some ⟨[w.floatType, w.floatType], [w.floatType]⟩
  | .truncate w v _ _ => some ⟨[w.floatType], [v.type]⟩
  | .convert w v _ => some ⟨[w.type], [v.floatType]⟩
  | .demote => some ⟨[.f64], [.f32]⟩
  | .promote => some ⟨[.f32], [.f64]⟩
  | .asInt w => some ⟨[w.floatType], [w.type]⟩
  | .asFloat w => some ⟨[w.type], [w.floatType]⟩
  | _ => none

/-- Checks an instruction that opens no block. -/
def simple? (i : Instr) (s : Operands) : Option Operands := do
  match i with
  | .unreachable => return .unreachable
  | .ret =>
    let _ ← s.popAll? C.results
    return .unreachable
  | .br l =>
    let _ ← s.popAll? (← C.labels[l]?)
    return .unreachable
  | .brIf l =>
    let types ← C.labels[l]?
    (← s.pop? .i32).exchange? types types
  | .brTable ls l =>
    let s ← s.pop? .i32
    let types ← C.labels[l]?
    let _ ← s.popAll? types
    for l in ls do
      let other ← C.labels[l]?
      guard (other.length = types.length)
      let _ ← s.popAll? other
    return .unreachable
  | .callIndirect t i =>
    guard ((← C.tables[i]?).element = .funcref)
    let type ← C.types[t]?
    (← s.pop? .i32).exchange? type.params type.results
  | .drop => (·.2) <$> s.popAny?
  | .select (some t) => s.exchange? [t, t, .i32] [t]
  | .select none =>
    let (a, s) ← (← s.pop? .i32).popAny?
    let (b, s) ← s.popAny?
    let t := a <|> b
    guard (b = none ∨ b = t)
    guard (t.all fun t => !t.isRef)
    return { s with types := t :: s.types }
  | .refIsNull =>
    let (t, s) ← s.popAny?
    guard (t.all ValType.isRef)
    return s.push .i32
  | i =>
    let type ← C.fixedType? i
    s.exchange? type.params type.results

mutual

/-- The operands after an instruction, if it fits those before it. -/
def check? (C : Context) : Instr → Operands → Option Operands
  | .block b body, s => do
    let type ← C.blockType? b
    let rest ← s.popAll? type.params
    let inner ← checkAll? { C with labels := type.results :: C.labels } body (.of type.params)
    if inner.finished type.results then some (rest.pushAll type.results) else none
  | .loop b body, s => do
    let type ← C.blockType? b
    let rest ← s.popAll? type.params
    let inner ← checkAll? { C with labels := type.params :: C.labels } body (.of type.params)
    if inner.finished type.results then some (rest.pushAll type.results) else none
  | .ite b yes no, s => do
    let type ← C.blockType? b
    let rest ← (← s.pop? .i32).popAll? type.params
    let C' := { C with labels := type.results :: C.labels }
    let a ← checkAll? C' yes (.of type.params)
    let b ← checkAll? C' no (.of type.params)
    if a.finished type.results && b.finished type.results then some (rest.pushAll type.results)
    else none
  | i, s => C.simple? i s

def checkAll? (C : Context) : List Instr → Operands → Option Operands
  | [], s => some s
  | i :: is, s => do checkAll? C is (← check? C i s)

end

/-- Whether a function body of that type is well-typed. -/
def acceptsBody (type : FuncType) (locals : Array ValType) (code : List Instr) : Bool :=
  let C := { C with locals, labels := [type.results], results := type.results }
  match C.checkAll? code (.of []) with
  | some s => s.finished type.results
  | none => false

end Context
end AspectHost.Wasm
