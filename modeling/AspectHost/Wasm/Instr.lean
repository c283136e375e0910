import AspectHost.Wasm.Value

/-! The instructions of guest code. Blocks hold their bodies, and a label counts the enclosing blocks from
the inside. -/

namespace AspectHost.Wasm

/-- The two widths of integers and of floating-point numbers. -/
inductive Width where
  | w32
  | w64
  deriving DecidableEq

namespace Width

/-- The type of the integers. -/
def type : Width → ValType
  | w32 => .i32
  | w64 => .i64

/-- The type of the floating-point numbers. -/
def floatType : Width → ValType
  | w32 => .f32
  | w64 => .f64

def bits : Width → Nat
  | w32 => 32
  | w64 => 64

end Width

inductive IntUnary where
  | clz
  | ctz
  | popcnt
  /-- Repeats the sign of the lowest bits. -/
  | extendLow (bits : Nat)
  deriving DecidableEq

inductive IntBinary where
  | add
  | sub
  | mul
  | divS
  | divU
  | remS
  | remU
  | and
  | or
  | xor
  | shl
  | shrS
  | shrU
  | rotl
  | rotr
  deriving DecidableEq

inductive IntCompare where
  | eq
  | ne
  | ltS
  | ltU
  | gtS
  | gtU
  | leS
  | leU
  | geS
  | geU
  deriving DecidableEq

/-- How a number is made an integer. -/
inductive Rounding where
  | up
  | down
  | towardsZero
  /-- Halfway between two integers it is the even one. -/
  | nearest
  deriving DecidableEq

inductive FloatUnary where
  | abs
  | neg
  | round (mode : Rounding)
  | sqrt
  deriving DecidableEq

inductive FloatBinary where
  | add
  | sub
  | mul
  | div
  | min
  | max
  | copysign
  deriving DecidableEq

inductive FloatCompare where
  | eq
  | ne
  | lt
  | gt
  | le
  | ge
  deriving DecidableEq

/-- The static part of a memory address. -/
structure MemArg where
  /-- The promised alignment, as an exponent of two. -/
  align : Nat
  offset : Nat
  deriving DecidableEq

inductive BlockType where
  | empty
  | value (type : ValType)
  | func (type : Nat)
  deriving DecidableEq

inductive Instr where
  | unreachable
  | nop
  | block (type : BlockType) (body : List Instr)
  | loop (type : BlockType) (body : List Instr)
  /-- Without an alternative, `no` is empty. -/
  | ite (type : BlockType) (yes no : List Instr)
  | br (label : Nat)
  | brIf (label : Nat)
  | brTable (labels : List Nat) (default : Nat)
  | ret
  | call (func : Nat)
  | callIndirect (type table : Nat)
  | drop
  /-- Without a type, only numbers are selected from. -/
  | select (type : Option ValType)
  | localGet (index : Nat)
  | localSet (index : Nat)
  | localTee (index : Nat)
  | globalGet (index : Nat)
  | globalSet (index : Nat)
  | tableGet (table : Nat)
  | tableSet (table : Nat)
  | tableSize (table : Nat)
  | tableGrow (table : Nat)
  | tableFill (table : Nat)
  | tableCopy (target source : Nat)
  | tableInit (table segment : Nat)
  | elemDrop (segment : Nat)
  /-- Loads `bytes` bytes, sign-extended if `signed`. -/
  | load (type : ValType) (bytes : Nat) (signed : Bool) (arg : MemArg)
  | store (type : ValType) (bytes : Nat) (arg : MemArg)
  | memorySize
  | memoryGrow
  | memoryFill
  | memoryCopy
  | memoryInit (segment : Nat)
  | dataDrop (segment : Nat)
  | const (value : Val)
  | refFunc (func : Nat)
  | refIsNull
  | eqz (width : Width)
  | compare (width : Width) (op : IntCompare)
  | unary (width : Width) (op : IntUnary)
  | binary (width : Width) (op : IntBinary)
  /-- The low half of a wide integer. -/
  | wrap
  | extend (signed : Bool)
  | floatCompare (width : Width) (op : FloatCompare)
  | floatUnary (width : Width) (op : FloatUnary)
  | floatBinary (width : Width) (op : FloatBinary)
  /-- Turns a floating-point number into an integer. What does not fit is clamped, or else traps. -/
  | truncate (source target : Width) (signed clamp : Bool)
  /-- Turns an integer into a floating-point number. -/
  | convert (source target : Width) (signed : Bool)
  /-- Turns a wide floating-point number into a narrow one. -/
  | demote
  | promote
  /-- Takes the bits of a floating-point number for an integer. -/
  | asInt (width : Width)
  /-- Takes the bits of an integer for a floating-point number. -/
  | asFloat (width : Width)

/-- What an instruction costs of the fuel. Pure structure is free. -/
def Instr.cost : Instr → Nat
  | .nop | .drop | .block .. | .loop .. | .unreachable | .ret => 0
  | _ => 1

/-- An initial value: of a global, an offset or a table entry. -/
inductive Initial where
  | value (v : Val)
  | func (index : Nat)
  | global (index : Nat)
  deriving DecidableEq

/-- The function that an initial value refers to. -/
def Initial.func? : Initial → Option Nat
  | func f => some f
  | _ => none

end AspectHost.Wasm
