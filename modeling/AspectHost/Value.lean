import AspectHost.Kind
import AspectHost.LittleEndian
import AspectHost.Text.Hex

/-! Typed values, the bytes that carry them and the text that shows them. -/

namespace AspectHost

inductive Value where
  | int8 (v : Int8)
  | int16 (v : Int16)
  | int32 (v : Int32)
  | int64 (v : Int64)
  | uint8 (v : UInt8)
  | uint16 (v : UInt16)
  | uint32 (v : UInt32)
  | uint64 (v : UInt64)
  | bool (v : Bool)
  | string (v : String)
  | bytearray (v : Bytes)
  deriving DecidableEq

namespace Value

def kind : Value → Kind
  | int8 _ => .int8
  | int16 _ => .int16
  | int32 _ => .int32
  | int64 _ => .int64
  | uint8 _ => .uint8
  | uint16 _ => .uint16
  | uint32 _ => .uint32
  | uint64 _ => .uint64
  | bool _ => .bool
  | string _ => .string
  | bytearray _ => .bytearray

/-- The bytes of a text in UTF-8. -/
def utf8 (s : String) : Bytes := s.toUTF8.data.toList

def ofUtf8? (b : Bytes) : Option String := String.fromUTF8? ⟨b.toArray⟩

/-- The bytes that carry the value, without its kind. -/
def body : Value → Bytes
  | int8 v => LittleEndian.toBytes 1 v.toUInt8.toNat
  | int16 v => LittleEndian.toBytes 2 v.toUInt16.toNat
  | int32 v => LittleEndian.toBytes 4 v.toUInt32.toNat
  | int64 v => LittleEndian.toBytes 8 v.toUInt64.toNat
  | uint8 v => LittleEndian.toBytes 1 v.toNat
  | uint16 v => LittleEndian.toBytes 2 v.toNat
  | uint32 v => LittleEndian.toBytes 4 v.toNat
  | uint64 v => LittleEndian.toBytes 8 v.toNat
  | bool v => [if v then 1 else 0]
  | string v => utf8 v
  | bytearray v => v

def bodyLength (v : Value) : Nat := v.body.length

/-- The length of the body, told without writing it: from the kind, where that fixes it, and else from the
content. -/
def measure : Value → Nat
  | string v => v.utf8ByteSize
  | bytearray v => v.length
  | v => v.kind.width.getD 0

/-- The truth value of a byte. -/
def boolOfByte (b : UInt8) : Except DecodeError Value :=
  if b = 0 then .ok (bool false) else if b = 1 then .ok (bool true) else .error (.invalidBool b)

open LittleEndian (ofBytes) in
/-- The value of kind `k` that `body` carries. The width is checked before the content. -/
def ofBody (k : Kind) (body : Bytes) : Except DecodeError Value := do
  if let some w := k.width then
    if body.length ≠ w then throw (.widthMismatch k.name w body.length)
  match k with
  | .int8 => return int8 (UInt8.ofNat (ofBytes body)).toInt8
  | .int16 => return int16 (UInt16.ofNat (ofBytes body)).toInt16
  | .int32 => return int32 (UInt32.ofNat (ofBytes body)).toInt32
  | .int64 => return int64 (UInt64.ofNat (ofBytes body)).toInt64
  | .uint8 => return uint8 (UInt8.ofNat (ofBytes body))
  | .uint16 => return uint16 (UInt16.ofNat (ofBytes body))
  | .uint32 => return uint32 (UInt32.ofNat (ofBytes body))
  | .uint64 => return uint64 (UInt64.ofNat (ofBytes body))
  | .bool => boolOfByte (UInt8.ofNat (ofBytes body))
  | .string =>
    match ofUtf8? body with
    | some s => return string s
    | none => throw .invalidUtf8
  | .bytearray => return bytearray body
  | .empty => throw (.unknownKind k.tag)

/-- The text that shows the value: numbers in decimal, texts quoted, bytes in hexadecimal. -/
def render : Value → String
  | int8 v => toString v.toInt
  | int16 v => toString v.toInt
  | int32 v => toString v.toInt
  | int64 v => toString v.toInt
  | uint8 v => toString v.toNat
  | uint16 v => toString v.toNat
  | uint32 v => toString v.toNat
  | uint64 v => toString v.toNat
  | bool v => if v then "true" else "false"
  | string v => Text.quoted v
  | bytearray v => "0x" ++ Text.Hex.encode v

def asString? : Value → Option String
  | string s => some s
  | _ => none

def asBytes? : Value → Option Bytes
  | bytearray b => some b
  | _ => none

end Value
end AspectHost
