/-! Little-endian bytes of natural numbers: `toBytes` writes a fixed number of bytes, the least
significant first, and `ofBytes` reads them back. -/

namespace AspectHost

abbrev Bytes := List UInt8

namespace LittleEndian

/-- The `width` low bytes of `n`. -/
def toBytes : (width n : Nat) → Bytes
  | 0, _ => []
  | w + 1, n => UInt8.ofNat n :: toBytes w (n / 256)

def ofBytes : Bytes → Nat
  | [] => 0
  | b :: r => b.toNat + 256 * ofBytes r

@[simp] theorem length_toBytes (w n : Nat) : (toBytes w n).length = w := by
  induction w generalizing n with
  | zero => rfl
  | succ w ih => simp [toBytes, ih]

/-- Bytes are the only writing of the number they hold. -/
theorem toBytes_ofBytes (b : Bytes) : toBytes b.length (ofBytes b) = b := by
  induction b with
  | nil => rfl
  | cons x r ih =>
    have hx := x.toNat_lt
    simp only [List.length_cons, toBytes, ofBytes]
    congr 1
    · apply UInt8.toNat_inj.mp
      simp only [UInt8.toNat_ofNat']
      omega
    · rw [show (x.toNat + 256 * ofBytes r) / 256 = ofBytes r by omega, ih]

end LittleEndian
end AspectHost
