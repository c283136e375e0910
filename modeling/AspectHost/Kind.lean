import AspectHost.Error

/-! The kinds of values that cross the guest boundary: their names, wire tags and body widths. -/

namespace AspectHost

/-- `empty` is what inference answers for a type without a kind; it has a tag but never stands on
the wire. -/
inductive Kind where
  | empty
  | int8
  | int16
  | int32
  | int64
  | uint8
  | uint16
  | uint32
  | uint64
  | bool
  | string
  | bytearray
  deriving DecidableEq

namespace Kind

def all : List Kind :=
  [empty, int8, int16, int32, int64, uint8, uint16, uint32, uint64, bool, string, bytearray]

theorem mem_all (k : Kind) : k ∈ all := by cases k <;> decide

def name : Kind → String
  | empty => "empty"
  | int8 => "int8"
  | int16 => "int16"
  | int32 => "int32"
  | int64 => "int64"
  | uint8 => "uint8"
  | uint16 => "uint16"
  | uint32 => "uint32"
  | uint64 => "uint64"
  | bool => "bool"
  | string => "string"
  | bytearray => "bytearray"

/-- The capitalised name, used where a list of kinds is shown. -/
def label : Kind → String
  | empty => "Empty"
  | int8 => "Int8"
  | int16 => "Int16"
  | int32 => "Int32"
  | int64 => "Int64"
  | uint8 => "Uint8"
  | uint16 => "Uint16"
  | uint32 => "Uint32"
  | uint64 => "Uint64"
  | bool => "Bool"
  | string => "String"
  | bytearray => "ByteArray"

/-- A bracketed list of labels. -/
def showList (ks : List Kind) : String := "[" ++ ", ".intercalate (ks.map label) ++ "]"

def tag : Kind → Int16
  | empty => 0
  | int8 => 1
  | int16 => 2
  | int32 => 3
  | int64 => 4
  | uint8 => 5
  | uint16 => 6
  | uint32 => 7
  | uint64 => 8
  | bool => 9
  | string => 10
  | bytearray => 11

def ofName? (s : String) : Option Kind := all.find? (·.name == s)

/-- The kind a header tag stands for; the tag of `empty` stands for none. -/
def ofTag (t : Int16) : Except DecodeError Kind :=
  match all.find? (·.tag == t) with
  | none | some empty => .error (.unknownKind t)
  | some k => .ok k

/-- The body length of a kind of fixed width. -/
def width : Kind → Option Nat
  | int8 | uint8 | bool => some 1
  | int16 | uint16 => some 2
  | int32 | uint32 => some 4
  | int64 | uint64 => some 8
  | empty | string | bytearray => none

end Kind
end AspectHost
