import AspectHost.Wasm.Engine
import AspectHost.Wasm.Float

/-! Running guest code, one instruction at a time. A thread is a stack of frames; a frame holds what is left
to run, its operands and the labels that it is inside of. Fuel is paid in arrears: what a thread has used up
since it last settled is not yet taken off the store. -/

namespace AspectHost.Wasm

/-- Where a branch goes. -/
structure Label where
  /-- How many values a branch takes along. -/
  arity : Nat
  /-- The operands underneath. -/
  below : List Val
  /-- What runs after a branch. -/
  next : List Instr
  /-- What runs once the block is done. -/
  after : List Instr

/-- A function call in progress. -/
structure Frame where
  code : List Instr
  /-- The operands, the topmost first. -/
  stack : List Val
  labels : List Label := []
  locals : Array Val := #[]
  /-- How many values the function leaves. -/
  results : Nat

structure Thread where
  frame : Frame
  callers : List Frame := []
  /-- How many more calls may be nested in this one. -/
  room : Nat
  /-- The fuel used since the thread last settled. -/
  unpaid : Nat := 0

/-- What an instruction does that stays inside its function. -/
inductive Effect where
  | go (frame : Frame) (store : Store)
  | trap (cause : Trap) (store : Store)
  /-- The operands do not fit. Validation is there to keep such code out. -/
  | stuck (store : Store)

namespace Frame

variable (P : Program)

@[inline] def push (f : Frame) (v : Val) : Frame := { f with stack := v :: f.stack }

/-- Loads, stores and everything else that needs the memory. -/
def access (f : Frame) (s : Store) (i : Instr) : Effect :=
  match i, f.stack with
  | .load t n signed arg, .i32 base :: vs =>
    let start := base.toNat + arg.offset
    if s.inMemory start n then
      let v := Val.ofLoaded t n signed (LittleEndian.ofBytes (s.memory.bytes start n))
      .go { f with stack := v :: vs } s
    else .trap .memoryOutOfBounds s
  | .store _ n arg, v :: .i32 base :: vs =>
    let start := base.toNat + arg.offset
    match v.stored? with
    | none => .stuck s
    | some bits =>
      if s.inMemory start n then
        .go { f with stack := vs } (s.write start (LittleEndian.toBytes n bits))
      else .trap .memoryOutOfBounds s
  | .memorySize, vs => .go { f with stack := .i32 (UInt32.ofNat s.pages) :: vs } s
  | .memoryGrow, .i32 delta :: vs =>
    match s.growMemory P.memoryLimit delta.toNat with
    | (some old, s) => .go { f with stack := .i32 (UInt32.ofNat old) :: vs } s
    | (none, s) => .go { f with stack := .i32 (-1) :: vs } s
  | .memoryFill, .i32 n :: .i32 b :: .i32 start :: vs =>
    if s.inMemory start.toNat n.toNat then
      .go { f with stack := vs } (s.fill start.toNat n.toNat b.toUInt8)
    else .trap .memoryOutOfBounds s
  | .memoryCopy, .i32 n :: .i32 source :: .i32 target :: vs =>
    if s.inMemory source.toNat n.toNat && s.inMemory target.toNat n.toNat then
      let b := s.memory.bytes source.toNat n.toNat
      .go { f with stack := vs } (s.write target.toNat b)
    else .trap .memoryOutOfBounds s
  | .memoryInit d, .i32 n :: .i32 source :: .i32 target :: vs =>
    let b := s.datum d
    if source.toNat + n.toNat ≤ b.length && s.inMemory target.toNat n.toNat then
      .go { f with stack := vs } (s.write target.toNat ((b.drop source.toNat).take n.toNat))
    else .trap .memoryOutOfBounds s
  | .dataDrop d, vs => .go { f with stack := vs } { s with data := s.data.setIfInBounds d [] }
  | _, _ => .stuck s

/-- Reads and writes of tables. -/
def tabulate (f : Frame) (s : Store) (i : Instr) : Effect :=
  match i, f.stack with
  | .tableGet t, .i32 k :: vs =>
    match (s.table t)[k.toNat]? with
    | some v => .go { f with stack := v :: vs } s
    | none => .trap .tableOutOfBounds s
  | .tableSet t, v :: .i32 k :: vs =>
    if k.toNat < (s.table t).size then
      .go { f with stack := vs } (s.setEntries t k.toNat [v])
    else .trap .tableOutOfBounds s
  | .tableSize t, vs => .go { f with stack := .i32 (UInt32.ofNat (s.table t).size) :: vs } s
  | .tableGrow t, .i32 n :: v :: vs =>
    let old := s.table t
    if old.size + n.toNat ≤ P.tableLimits.getD t 0 then
      let s := s.setTable t (old ++ Array.replicate n.toNat v)
      .go { f with stack := .i32 (UInt32.ofNat old.size) :: vs } s
    else .go { f with stack := .i32 (-1) :: vs } s
  | .tableFill t, .i32 n :: v :: .i32 start :: vs =>
    if start.toNat + n.toNat ≤ (s.table t).size then
      .go { f with stack := vs } (s.setEntries t start.toNat (List.replicate n.toNat v))
    else .trap .tableOutOfBounds s
  | .tableCopy t u, .i32 n :: .i32 source :: .i32 target :: vs =>
    if source.toNat + n.toNat ≤ (s.table u).size && target.toNat + n.toNat ≤ (s.table t).size then
      let items := ((s.table u).extract source.toNat (source.toNat + n.toNat)).toList
      .go { f with stack := vs } (s.setEntries t target.toNat items)
    else .trap .tableOutOfBounds s
  | .tableInit t e, .i32 n :: .i32 source :: .i32 target :: vs =>
    let items := s.element e
    if source.toNat + n.toNat ≤ items.length && target.toNat + n.toNat ≤ (s.table t).size then
      .go { f with stack := vs } (s.setEntries t target.toNat ((items.drop source.toNat).take n.toNat))
    else .trap .tableOutOfBounds s
  | .elemDrop e, vs => .go { f with stack := vs } { s with elements := s.elements.setIfInBounds e [] }
  | _, _ => .stuck s

/-- Integer arithmetic on the topmost operands. -/
def calculate (f : Frame) (s : Store) (i : Instr) : Effect :=
  match i, f.stack with
  | .eqz w, v :: vs =>
    match v.bits? w with
    | some a => .go { f with stack := .ofBool (a == 0) :: vs } s
    | none => .stuck s
  | .compare w op, v :: u :: vs =>
    match u.bits? w, v.bits? w with
    | some a, some b => .go { f with stack := .ofBool (op.eval a b) :: vs } s
    | _, _ => .stuck s
  | .unary w op, v :: vs =>
    match v.bits? w with
    | some a => .go { f with stack := .ofBits w (op.eval a) :: vs } s
    | none => .stuck s
  | .binary w op, v :: u :: vs =>
    match u.bits? w, v.bits? w with
    | some a, some b =>
      match op.eval a b with
      | .ok c => .go { f with stack := .ofBits w c :: vs } s
      | .error cause => .trap cause s
    | _, _ => .stuck s
  | .wrap, .i64 n :: vs => .go { f with stack := .i32 n.toUInt32 :: vs } s
  | .extend signed, .i32 n :: vs =>
    let wide : Int := if signed then n.toInt32.toInt else n.toNat
    .go { f with stack := .i64 (UInt64.ofInt wide) :: vs } s
  | _, _ => .stuck s

/-- Floating-point arithmetic on the topmost operands. -/
def approximate (f : Frame) (s : Store) (i : Instr) : Effect :=
  match i, f.stack with
  | .floatCompare w op, v :: u :: vs =>
    match u.floatBits? w, v.floatBits? w with
    | some a, some b => .go { f with stack := .ofBool (op.eval a b) :: vs } s
    | _, _ => .stuck s
  | .floatUnary w op, v :: vs =>
    match v.floatBits? w with
    | some a => .go { f with stack := .ofFloatBits w (op.eval a) :: vs } s
    | none => .stuck s
  | .floatBinary w op, v :: u :: vs =>
    match u.floatBits? w, v.floatBits? w with
    | some a, some b => .go { f with stack := .ofFloatBits w (op.eval a b) :: vs } s
    | _, _ => .stuck s
  | .truncate source target signed clamp, v :: vs =>
    match v.floatBits? source with
    | some a =>
      match target.truncate signed clamp a with
      | .ok n => .go { f with stack := .ofBits target n :: vs } s
      | .error cause => .trap cause s
    | none => .stuck s
  | .convert source target signed, v :: vs =>
    match v.bits? source with
    | some n => .go { f with stack := .ofFloatBits target (source.convert signed n) :: vs } s
    | none => .stuck s
  | .demote, .f64 n :: vs =>
    let b := FloatBits.resize (F := .binary64) .binary32 n.toBitVec
    .go { f with stack := .f32 (UInt32.ofBitVec b) :: vs } s
  | .promote, .f32 n :: vs =>
    let b := FloatBits.resize (F := .binary32) .binary64 n.toBitVec
    .go { f with stack := .f64 (UInt64.ofBitVec b) :: vs } s
  | .asInt .w32, .f32 n :: vs => .go { f with stack := .i32 n :: vs } s
  | .asInt .w64, .f64 n :: vs => .go { f with stack := .i64 n :: vs } s
  | .asFloat .w32, .i32 n :: vs => .go { f with stack := .f32 n :: vs } s
  | .asFloat .w64, .i64 n :: vs => .go { f with stack := .f64 n :: vs } s
  | _, _ => .stuck s

/-- Runs an instruction that neither branches nor calls. -/
def exec (f : Frame) (s : Store) (i : Instr) : Effect :=
  match i, f.stack with
  | .nop, _ => .go f s
  | .drop, _ :: vs => .go { f with stack := vs } s
  | .select _, .i32 c :: b :: a :: vs => .go { f with stack := (if c ≠ 0 then a else b) :: vs } s
  | .const v, _ => .go (f.push v) s
  | .refFunc g, _ => .go (f.push (.func (some g))) s
  | .refIsNull, v :: vs =>
    match v.isNull? with
    | some b => .go { f with stack := .ofBool b :: vs } s
    | none => .stuck s
  | .localGet x, _ =>
    match f.locals[x]? with
    | some v => .go (f.push v) s
    | none => .stuck s
  | .localSet x, v :: vs =>
    let { code, stack := _, labels, locals, results } := f
    .go { code, stack := vs, labels, locals := locals.setIfInBounds x v, results } s
  | .localTee x, v :: vs =>
    let { code, stack := _, labels, locals, results } := f
    .go { code, stack := v :: vs, labels, locals := locals.setIfInBounds x v, results } s
  | .globalGet x, _ =>
    match s.globals[x]? with
    | some v => .go (f.push v) s
    | none => .stuck s
  | .globalSet x, v :: vs =>
    .go { f with stack := vs } { s with globals := s.globals.setIfInBounds x v }
  | .eqz _, _ | .compare .., _ | .unary .., _ | .binary .., _ | .wrap, _ | .extend _, _ =>
    f.calculate s i
  | .floatCompare .., _ | .floatUnary .., _ | .floatBinary .., _ | .truncate .., _ | .convert .., _
  | .demote, _ | .promote, _ | .asInt _, _ | .asFloat _, _ => f.approximate s i
  | .tableGet _, _ | .tableSet _, _ | .tableSize _, _ | .tableGrow _, _ | .tableFill _, _
  | .tableCopy .., _ | .tableInit .., _ | .elemDrop _, _ => f.tabulate P s i
  | .load .., _ | .store .., _ | .memorySize, _ | .memoryGrow, _ | .memoryFill, _ | .memoryCopy, _
  | .memoryInit _, _ | .dataDrop _, _ => f.access P s i
  | _, _ => .stuck s

/-- Enters a block that takes `params` values and is left with `arity` of them. -/
@[inline] def enter (f : Frame) (params arity : Nat) (body next after : List Instr) : Frame :=
  { f with
    code := body
    labels := ⟨arity, f.stack.drop params, next, after⟩ :: f.labels }

/-- Branches to a label; nothing if it is that of the function. -/
@[inline] def branch? (f : Frame) (label : Nat) : Option Frame :=
  match f.labels.drop label with
  | [] => none
  | l :: ls => some { f with code := l.next, stack := f.stack.take l.arity ++ l.below, labels := ls }

end Frame

namespace Thread

variable (P : Program)

/-- Pays for what was used. -/
@[inline] def settle (t : Thread) (s : Store) : Store :=
  { s with fuel := { s.fuel with amount := s.fuel.amount - t.unpaid } }

/-- Whether there is no fuel left to go on. -/
@[inline] def dry (t : Thread) (s : Store) : Bool := P.fuelled && s.fuel.amount - t.unpaid ≤ 0

/-- Goes on if there is fuel left. -/
@[inline] def checkFuel (t : Thread) (s : Store) : Step Thread :=
  if t.dry P s then .trap .outOfFuel (t.settle s) else .next t s

/-- Calls a function on the topmost operands. Entering a function of the guest costs one unit of fuel. -/
def call (t : Thread) (index : Nat) (s : Store) : Step Thread :=
  let s := t.settle s
  match P.functions[index]? with
  | none => .stuck s
  | some f =>
    if t.room = 0 then .trap .stackExhausted s
    else
      let n := f.type.params.length
      let args := (t.frame.stack.take n).reverse
      let caller := { t.frame with stack := t.frame.stack.drop n }
      match f with
      | .imported _ => .callOut index args { t with frame := caller, unpaid := 0 } s
      | .defined type vars code =>
        let frame : Frame :=
          { code, stack := [], locals := (args ++ vars).toArray, results := type.results.length }
        checkFuel P { frame, callers := caller :: t.callers, room := t.room - 1, unpaid := 1 } s

/-- Leaves a function with its results. Where nobody called it the thread is done. -/
def ret (t : Thread) (s : Store) : Step Thread :=
  let s := t.settle s
  let results := t.frame.stack.take t.frame.results
  match t.callers with
  | [] => .done results.reverse s
  | c :: cs =>
    .next { frame := { c with stack := results ++ c.stack }, callers := cs, room := t.room + 1 } s

@[inline] def branch (t : Thread) (label : Nat) (s : Store) : Step Thread :=
  match t.frame.branch? label with
  | some frame => .next { t with frame } s
  | none => t.ret s

/-- Gives a thread the results of a function that it called. -/
def resume (t : Thread) (results : List Val) : Thread :=
  { t with frame := { t.frame with stack := results.reverse ++ t.frame.stack } }

/-- The function that an entry of a table stands for. -/
def indirect? (s : Store) (type table : Nat) (entry : UInt32) : Except Trap Nat :=
  match (s.table table)[entry.toNat]? with
  | none => .error .tableOutOfBounds
  | some (.func (some f)) =>
    if Function.type <$> P.functions[f]? = P.types[type]? then .ok f else .error .elementType
  | some _ => .error .nullElement

/-- Runs one instruction, or leaves the block or function that is done. -/
def step (t : Thread) (s : Store) : Step Thread :=
  match t.frame.code with
  | [] =>
    match t.frame.labels with
    | [] => t.ret s
    | l :: ls => .next { t with frame := { t.frame with code := l.after, labels := ls } } s
  | i :: rest =>
    let unpaid := t.unpaid + i.cost
    let frame := { t.frame with code := rest }
    match i with
    | .unreachable => .trap .unreachable (t.settle s)
    | .block b body =>
      let (params, results) := P.arity b
      .next { t with frame := frame.enter params results body rest rest } s
    | .loop b body =>
      let (params, _) := P.arity b
      checkFuel P { t with frame := frame.enter params params body (i :: rest) rest } s
    | .ite b yes no =>
      match frame.stack with
      | .i32 c :: stack =>
        let (params, results) := P.arity b
        let frame := { frame with stack }
        .next { t with
          frame := frame.enter params results (if c ≠ 0 then yes else no) rest rest, unpaid } s
      | _ => .stuck s
    | .br l => branch { t with frame, unpaid } l s
    | .brIf l =>
      match frame.stack with
      | .i32 c :: stack =>
        let t := { t with frame := { frame with stack }, unpaid }
        if c ≠ 0 then t.branch l s else .next t s
      | _ => .stuck s
    | .brTable ls l =>
      match frame.stack with
      | .i32 c :: stack =>
        branch { t with frame := { frame with stack }, unpaid } (ls.getD c.toNat l) s
      | _ => .stuck s
    | .ret => ret { t with frame } s
    | .call f => call P { t with frame, unpaid } f s
    | .callIndirect type table =>
      match frame.stack with
      | .i32 c :: stack =>
        let t : Thread := { t with frame := { frame with stack }, unpaid }
        match indirect? P s type table c with
        | .ok f => t.call P f s
        | .error cause => .trap cause (t.settle s)
      | _ => .stuck s
    | i =>
      match frame.exec P s i with
      | .go frame s => .next { t with frame, unpaid } s
      | .trap cause s => .trap cause s
      | .stuck s => .stuck s

/-- A thread that is about to enter a function from outside. -/
def start (index : Nat) (args : List Val) (room : Nat) (s : Store) : Step Thread :=
  let results := match P.functions[index]? with
    | some f => f.type.results.length
    | none => 0
  call P { frame := { code := [], stack := args.reverse, results }, room } index s

end Thread
end AspectHost.Wasm
