import AspectHost.LittleEndian
import AspectHost.Text.Quoted

/-! Bytes as pairs of hexadecimal digits: written in lower case, read in either case. -/

namespace AspectHost.Text.Hex

def digit (n : Nat) : Char := "0123456789abcdef".toList.getD n '0'

def encode (b : Bytes) : String :=
  String.ofList (b.flatMap fun x => [digit (x.toNat / 16), digit (x.toNat % 16)])

/-- Why a text is not a row of bytes. The odd length is noticed first. -/
inductive Malformed where
  | oddLength
  /-- The character that stands at a byte position and is no digit. -/
  | invalid (c : Char) (position : Nat)
  deriving DecidableEq

def Malformed.message : Malformed → String
  | oddLength => "Odd number of digits"
  | invalid c p => s!"Invalid character {quotedChar c} at position {p}"

def value? (b : UInt8) : Option UInt8 :=
  if 0x30 ≤ b && b ≤ 0x39 then some (b - 0x30)
  else if 0x61 ≤ b && b ≤ 0x66 then some (b - 0x57)
  else if 0x41 ≤ b && b ≤ 0x46 then some (b - 0x37)
  else none

def nibble (b : UInt8) (position : Nat) : Except Malformed UInt8 :=
  match value? b with
  | some n => .ok n
  | none => .error (.invalid (Char.ofNat b.toNat) position)

/-- Reads pairs of digits; `position` is that of the first. -/
def decodePairs (position : Nat) : Bytes → Except Malformed Bytes
  | hi :: lo :: r => do
    let h ← nibble hi position
    let l ← nibble lo (position + 1)
    return (h * 16 + l) :: (← decodePairs (position + 2) r)
  | [_] => .error .oddLength
  | [] => .ok []

/-- Reads a text byte by byte, so that a position counts bytes. -/
def decode (s : String) : Except Malformed Bytes :=
  let b := s.toUTF8.data.toList
  if b.length % 2 == 1 then .error .oddLength else decodePairs 0 b

end AspectHost.Text.Hex
