import Mathlib
import AspectHost.Gas.Checked

/-! # Words and the integers they stand for

Arithmetic on words is arithmetic on integers wherever the exact result fits a word. Checked operations
answer exactly there. -/

namespace AspectHost

namespace Word

/-- The largest word. -/
def max : Int := 2 ^ 63 - 1

theorem nonneg_iff {a : Int64} : 0 ≤ a ↔ 0 ≤ a.toInt := by
  rw [Int64.le_iff_toInt_le, Int64.toInt_zero]

theorem neg_iff {a : Int64} : a < 0 ↔ a.toInt < 0 := by
  rw [Int64.lt_iff_toInt_lt, Int64.toInt_zero]

theorem toInt_le_max (a : Int64) : a.toInt ≤ max := Int.le_sub_one_of_lt a.toInt_lt

theorem bmod_of_fits {n : Int} (hl : -2 ^ 63 ≤ n) (hu : n ≤ max) : n.bmod (2 ^ 64) = n :=
  Int.bmod_eq_of_le hl (by simp only [max] at hu; omega)

theorem toInt_mul {a b : Int64} (hl : 0 ≤ a.toInt * b.toInt) (hu : a.toInt * b.toInt ≤ max) :
    (a * b).toInt = a.toInt * b.toInt := by
  rw [Int64.toInt_mul, bmod_of_fits (by omega) hu]

theorem toInt_sub {a b : Int64} (hb : 0 ≤ b.toInt) (h : b.toInt ≤ a.toInt) :
    (a - b).toInt = a.toInt - b.toInt := by
  have ha := toInt_le_max a
  rw [Int64.toInt_sub, bmod_of_fits (by omega) (by omega)]

/-- A quotient of amounts is rounded down. -/
theorem toInt_div {a b : Int64} (ha : 0 ≤ a.toInt) (hb : 0 < b.toInt) :
    (a / b).toInt = a.toInt / b.toInt := by
  have hq : a.toInt / b.toInt ≤ a.toInt := Int.ediv_le_self _ ha
  have hnn : 0 ≤ a.toInt / b.toInt := Int.ediv_nonneg ha (Int.le_of_lt hb)
  have hm := toInt_le_max a
  rw [Int64.toInt_div, Int.tdiv_eq_ediv_of_nonneg ha, bmod_of_fits (by omega) (by omega)]

theorem toInt_mod {a b : Int64} (ha : 0 ≤ a.toInt) : (a % b).toInt = a.toInt % b.toInt := by
  rw [Int64.toInt_mod, Int.tmod_eq_emod_of_nonneg ha]

theorem mod_nonneg {a b : Int64} (ha : 0 ≤ a.toInt) (hb : 0 < b.toInt) : 0 ≤ (a % b).toInt := by
  rw [toInt_mod ha]
  exact Int.emod_nonneg _ (Int.ne_of_gt hb)

theorem toInt_ofNat {n : Nat} (h : n ≤ max) : (Int64.ofNat n).toInt = n :=
  Int64.toInt_ofNat_of_lt (by simp only [max] at h; omega)

theorem exists_toInt_eq {n : Int} (h0 : 0 ≤ n) (h : n ≤ max) : ∃ a : Int64, a.toInt = n := by
  refine ⟨.ofInt n, ?_⟩
  rw [Int64.toInt_ofInt]
  exact bmod_of_fits (by omega) h

/-- An amount keeps its value as an unsigned word. -/
theorem toNat_toUInt64 {a : Int64} (h : 0 ≤ a.toInt) : (a.toUInt64.toNat : Int) = a.toInt := by
  rw [Int64.toNat_toUInt64_of_le (nonneg_iff.mpr h)]
  exact Int.toNat_of_nonneg h

theorem toNat_div {a b : Int64} (ha : 0 ≤ a.toInt) (hb : 0 < b.toInt) :
    ((a / b).toUInt64.toNat : Int) = a.toInt / b.toInt := by
  have hdiv := toInt_div ha hb
  rw [toNat_toUInt64, hdiv]
  rw [hdiv]
  exact Int.ediv_nonneg ha (Int.le_of_lt hb)

end Word

namespace Checked

theorem ofInt?_eq_some_iff {n : Int} {a : Int64} : ofInt? n = some a ↔ a.toInt = n := by
  unfold ofInt?
  constructor
  · intro h
    split at h
    · rename_i hn
      cases h
      rw [Int64.toInt_ofInt]
      exact Word.bmod_of_fits hn.1 (Int.le_sub_one_of_lt hn.2)
    · cases h
  · rintro rfl
    rw [if_pos ⟨a.le_toInt, a.toInt_lt⟩, Int64.ofInt_toInt]

theorem add?_eq_some_iff {a b s : Int64} : add? a b = some s ↔ s.toInt = a.toInt + b.toInt :=
  ofInt?_eq_some_iff

theorem mul?_eq_some_iff {a b p : Int64} : mul? a b = some p ↔ p.toInt = a.toInt * b.toInt :=
  ofInt?_eq_some_iff

theorem ofUnsigned?_eq_some_iff {n : UInt64} {a : Int64} :
    ofUnsigned? n = some a ↔ a.toInt = n.toNat :=
  ofInt?_eq_some_iff

/-- An integer that no word stands for is out of range. -/
theorem ofInt?_eq_none_iff {n : Int} : ofInt? n = none ↔ n < -2 ^ 63 ∨ Word.max < n := by
  unfold ofInt? Word.max
  split <;> simp <;> omega

theorem saturatingAdd_of_nonneg {a b : Int64} (ha : 0 ≤ a.toInt) (hb : 0 ≤ b.toInt) :
    (saturatingAdd a b).toInt = min (a.toInt + b.toInt) Word.max := by
  unfold saturatingAdd
  cases h : add? a b with
  | some s =>
    have hs := add?_eq_some_iff.mp h
    have hm := Word.toInt_le_max s
    change s.toInt = _
    omega
  | none =>
    have hn := ofInt?_eq_none_iff.mp h
    have hlt : ¬ b < 0 := by
      rw [Word.neg_iff]
      omega
    simp only [if_neg hlt, Int64.toInt_maxValue]
    unfold Word.max at *
    omega

end Checked
end AspectHost
