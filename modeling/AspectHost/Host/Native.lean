import AspectHost.Wire

/-! Types of this language that stand for a kind of value. -/

namespace AspectHost

/-- A type all of whose members are values of one kind. -/
class Native (α : Type) where
  kind : Kind
  toValue : α → Value
  ofValue? : Value → Option α

namespace Native

/-- Reads a value as a member of `α`. -/
def ofValue {α : Type} [Native α] (v : Value) : Except DecodeError α :=
  match ofValue? v with
  | some a => .ok a
  | none => .error (.kindMismatch (kind α).name v.kind.name)

instance : Native Int8 := ⟨.int8, .int8, fun | .int8 v => some v | _ => none⟩
instance : Native Int16 := ⟨.int16, .int16, fun | .int16 v => some v | _ => none⟩
instance : Native Int32 := ⟨.int32, .int32, fun | .int32 v => some v | _ => none⟩
instance : Native Int64 := ⟨.int64, .int64, fun | .int64 v => some v | _ => none⟩
instance : Native UInt8 := ⟨.uint8, .uint8, fun | .uint8 v => some v | _ => none⟩
instance : Native UInt16 := ⟨.uint16, .uint16, fun | .uint16 v => some v | _ => none⟩
instance : Native UInt32 := ⟨.uint32, .uint32, fun | .uint32 v => some v | _ => none⟩
instance : Native UInt64 := ⟨.uint64, .uint64, fun | .uint64 v => some v | _ => none⟩
instance : Native Bool := ⟨.bool, .bool, fun | .bool v => some v | _ => none⟩
instance : Native String := ⟨.string, .string, fun | .string v => some v | _ => none⟩
instance : Native Bytes := ⟨.bytearray, .bytearray, fun | .bytearray v => some v | _ => none⟩

end Native
end AspectHost
