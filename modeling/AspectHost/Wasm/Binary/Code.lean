import AspectHost.Wasm.Binary.Reader
import AspectHost.Wasm.Module

/-! Reading instructions. Numeric instructions without operands are laid out in runs of neighbouring
opcodes; a block's body ends with a byte of its own. -/

namespace AspectHost.Wasm.Reader

/-- The comparisons in the order of their opcodes. -/
def compares : List IntCompare := [.eq, .ne, .ltS, .ltU, .gtS, .gtU, .leS, .leU, .geS, .geU]

/-- The operators in the order of their opcodes. -/
def binaries : List IntBinary :=
  [.add, .sub, .mul, .divS, .divU, .remS, .remU, .and, .or, .xor, .shl, .shrS, .shrU, .rotl, .rotr]

def unaries : List IntUnary := [.clz, .ctz, .popcnt]

def floatCompares : List FloatCompare := [.eq, .ne, .lt, .gt, .le, .ge]

def floatUnaries : List FloatUnary :=
  [.abs, .neg, .round .up, .round .down, .round .towardsZero, .round .nearest, .sqrt]

def floatBinaries : List FloatBinary := [.add, .sub, .mul, .div, .min, .max, .copysign]

/-- The conversions of floating-point numbers to the integers of a width. -/
def toIntegers (clamp : Bool) (target : Width) : List Instr :=
  [.truncate .w32 target true clamp, .truncate .w32 target false clamp,
   .truncate .w64 target true clamp, .truncate .w64 target false clamp]

/-- The conversions of integers to the floating-point numbers of a width. -/
def fromIntegers (target : Width) : List Instr :=
  [.convert .w32 target true, .convert .w32 target false,
   .convert .w64 target true, .convert .w64 target false]

/-- The conversions in the order of their opcodes. -/
def conversions : List Instr :=
  .wrap :: toIntegers false .w32 ++ [.extend true, .extend false] ++ toIntegers false .w64 ++
  fromIntegers .w32 ++ .demote :: fromIntegers .w64 ++ .promote ::
  [.asInt .w32, .asInt .w64, .asFloat .w32, .asFloat .w64,
   .unary .w32 (.extendLow 8), .unary .w32 (.extendLow 16),
   .unary .w64 (.extendLow 8), .unary .w64 (.extendLow 16), .unary .w64 (.extendLow 32)]

/-- The conversions that clamp what does not fit, which open the second table of opcodes. -/
def clampingConversions : List Instr := toIntegers true .w32 ++ toIntegers true .w64

/-- The numeric instructions from the first opcode on, in order. -/
def numerics : Array Instr :=
  let floats (w : Width) : List Instr :=
    floatUnaries.map (.floatUnary w) ++ floatBinaries.map (.floatBinary w)
  List.toArray <|
    .eqz .w32 :: compares.map (.compare .w32) ++ .eqz .w64 :: compares.map (.compare .w64) ++
    floatCompares.map (.floatCompare .w32) ++ floatCompares.map (.floatCompare .w64) ++
    unaries.map (.unary .w32) ++ binaries.map (.binary .w32) ++
    unaries.map (.unary .w64) ++ binaries.map (.binary .w64) ++
    floats .w32 ++ floats .w64 ++ conversions

/-- The opcode of the first numeric instruction. -/
def firstNumeric : Nat := 0x45

def blockType : Reader BlockType := do
  match ← peek with
  | 0x40 => byte *> return .empty
  | 0x7F | 0x7E | 0x7D | 0x7C | 0x70 | 0x6F | 0x63 => return .value (← valType)
  | _ =>
    let n ← signed 33
    guard (0 ≤ n)
    return .func n.toNat

/-- A static address. A flag announces the memory's index, which is zero like everywhere. -/
def memArg : Reader MemArg := do
  let flags ← index
  let flagged := flags / 64 % 2 = 1
  if flagged then guard ((← index) = 0)
  let align := if flagged then flags - 64 else flags
  guard (align < 64)
  return ⟨align, ← index⟩

def load (type : ValType) (bytes : Nat) (signed : Bool) : Reader Instr :=
  .load type bytes signed <$> memArg

def store (type : ValType) (bytes : Nat) : Reader Instr := .store type bytes <$> memArg

/-- The instructions behind the byte that opens the second table of opcodes. -/
def extended : Reader Instr := do
  let op ← index
  match op with
  | 8 =>
    let segment ← index
    guard ((← index) = 0)
    return .memoryInit segment
  | 9 => .dataDrop <$> index
  | 10 =>
    guard ((← index) = 0)
    guard ((← index) = 0)
    return .memoryCopy
  | 11 =>
    guard ((← index) = 0)
    return .memoryFill
  | 12 =>
    let segment ← index
    return .tableInit (← index) segment
  | 13 => .elemDrop <$> index
  | 14 =>
    let target ← index
    return .tableCopy target (← index)
  | 15 => .tableGrow <$> index
  | 16 => .tableSize <$> index
  | 17 => .tableFill <$> index
  | _ => liftM clampingConversions[op]?

/-- The instruction of an opcode that opens no block. -/
def simple (op : UInt8) : Reader Instr := do
  match op with
  | 0x00 => return .unreachable
  | 0x01 => return .nop
  | 0x0C => .br <$> index
  | 0x0D => .brIf <$> index
  | 0x0E =>
    let labels ← list index
    return .brTable labels (← index)
  | 0x0F => return .ret
  | 0x10 => .call <$> index
  | 0x11 =>
    let type ← index
    return .callIndirect type (← index)
  | 0x1A => return .drop
  | 0x1B => return .select none
  | 0x1C =>
    match ← list valType with
    | [t] => return .select (some t)
    | _ => failure
  | 0x20 => .localGet <$> index
  | 0x21 => .localSet <$> index
  | 0x22 => .localTee <$> index
  | 0x23 => .globalGet <$> index
  | 0x24 => .globalSet <$> index
  | 0x25 => .tableGet <$> index
  | 0x26 => .tableSet <$> index
  | 0x28 => load .i32 4 false
  | 0x29 => load .i64 8 false
  | 0x2A => load .f32 4 false
  | 0x2B => load .f64 8 false
  | 0x2C => load .i32 1 true
  | 0x2D => load .i32 1 false
  | 0x2E => load .i32 2 true
  | 0x2F => load .i32 2 false
  | 0x30 => load .i64 1 true
  | 0x31 => load .i64 1 false
  | 0x32 => load .i64 2 true
  | 0x33 => load .i64 2 false
  | 0x34 => load .i64 4 true
  | 0x35 => load .i64 4 false
  | 0x36 => store .i32 4
  | 0x37 => store .i64 8
  | 0x38 => store .f32 4
  | 0x39 => store .f64 8
  | 0x3A => store .i32 1
  | 0x3B => store .i32 2
  | 0x3C => store .i64 1
  | 0x3D => store .i64 2
  | 0x3E => store .i64 4
  | 0x3F => expect 0 *> return .memorySize
  | 0x40 => expect 0 *> return .memoryGrow
  | 0x41 => (.const ∘ .i32 ∘ UInt32.ofInt) <$> signed 32
  | 0x42 => (.const ∘ .i64 ∘ UInt64.ofInt) <$> signed 64
  | 0x43 => (.const ∘ .f32 ∘ UInt32.ofNat ∘ LittleEndian.ofBytes) <$> bytes 4
  | 0x44 => (.const ∘ .f64 ∘ UInt64.ofNat ∘ LittleEndian.ofBytes) <$> bytes 8
  | 0xD0 =>
    match ← byte with
    | 0x70 => return .const (.func none)
    | 0x6F => return .const .foreign
    | _ => failure
  | 0xD1 => return .refIsNull
  | 0xD2 => .refFunc <$> index
  | 0xFC => extended
  | _ =>
    guard (firstNumeric ≤ op.toNat)
    liftM numerics[op.toNat - firstNumeric]?

/-- How a run of instructions ends. -/
inductive Ending where
  | done
  /-- The other branch of a conditional follows. -/
  | alternative
  deriving DecidableEq

/-- The instructions up to an ending, after those read so far, the latest first. Every instruction takes at
least one byte, so the length of the input bounds their number. -/
def run : (bound : Nat) → List Instr → Reader (List Instr × Ending)
  | 0, _ => failure
  | n + 1, read => do
    match ← byte with
    | 0x0B => return (read.reverse, .done)
    | 0x05 => return (read.reverse, .alternative)
    | 0x02 =>
      let type ← blockType
      let (body, ending) ← run n []
      guard (ending = .done)
      run n (.block type body :: read)
    | 0x03 =>
      let type ← blockType
      let (body, ending) ← run n []
      guard (ending = .done)
      run n (.loop type body :: read)
    | 0x04 =>
      let type ← blockType
      let (yes, ending) ← run n []
      if ending = .done then run n (.ite type yes [] :: read)
      else
        let (no, ending) ← run n []
        guard (ending = .done)
        run n (.ite type yes no :: read)
    | op => run n ((← simple op) :: read)

/-- Instructions up to the end that closes them. -/
def code : Reader (List Instr) := fun input => do
  let ((code, ending), rest) ← run input.length [] input
  guard (ending = .done)
  return (code, rest)

/-- An initial value: one instruction that needs nothing else. -/
def initial : Reader Initial := do
  match ← code with
  | [.const v] => return .value v
  | [.refFunc f] => return .func f
  | [.globalGet g] => return .global g
  | _ => failure

def body : Reader Body :=
  sized do
    let locals ← list do
      let n ← index
      return (n, ← valType)
    return ⟨locals, ← code⟩

end AspectHost.Wasm.Reader
