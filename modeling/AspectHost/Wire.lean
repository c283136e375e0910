import AspectHost.Value

/-! The wire format: a header of two bytes of kind tag and four bytes of body length, both little-endian
and signed, then the body. What follows the body is not looked at. -/

namespace AspectHost

/-- The largest length that a signed 32-bit field holds. -/
def maxLength : Nat := 0x7FFFFFFF

structure Header where
  kind : Kind
  /-- The byte count of the body. -/
  length : Int32
  deriving DecidableEq

namespace Header

/-- The byte count of a header. -/
def size : Nat := 6

/-- The byte count of header and body together. -/
def totalLength (h : Header) : Nat := size + h.length.toInt.toNat

def encode (h : Header) : Bytes :=
  LittleEndian.toBytes 2 h.kind.tag.toUInt16.toNat ++ LittleEndian.toBytes 4 h.length.toUInt32.toNat

/-- Reads the first bytes. The tag is judged before the sign of the length. -/
def decode (b : Bytes) : Except DecodeError Header := do
  if b.length < size then throw (.truncatedHeader size b.length)
  let kind ← Kind.ofTag (UInt16.ofNat (LittleEndian.ofBytes (b.take 2))).toInt16
  let length := (UInt32.ofNat (LittleEndian.ofBytes ((b.drop 2).take 4))).toInt32
  if length < 0 then throw (.negativeLength length)
  return ⟨kind, length⟩

end Header

namespace Value

def header (v : Value) : Header := ⟨v.kind, Int32.ofNat v.bodyLength⟩

/-- The value on the wire, or nothing if the length field cannot hold its body's length. Nothing is written
before that is known. -/
def encode? (v : Value) : Option Bytes :=
  if v.measure ≤ maxLength then some (v.header.encode ++ v.body) else none

/-- Reads the value that stands at the start of `b`. -/
def decode (b : Bytes) : Except DecodeError Value := do
  let h ← Header.decode b
  if b.length < h.totalLength then
    throw (.truncatedBody h.length.toInt.toNat (b.length - Header.size))
  ofBody h.kind ((b.drop Header.size).take h.length.toInt.toNat)

/-- Writes `v` as a value of kind `k`; nothing if it is of another kind or too long. -/
def marshal? (k : Kind) (v : Value) : Option Bytes := if v.kind = k then v.encode? else none

/-- Reads a value of kind `k`. The header's kind is judged before anything of the body. -/
def unmarshal (k : Kind) (b : Bytes) : Except DecodeError Value := do
  let h ← Header.decode b
  if h.kind ≠ k then throw (.kindMismatch k.name h.kind.name)
  decode b

end Value
end AspectHost
