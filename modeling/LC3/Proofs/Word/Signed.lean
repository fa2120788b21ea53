import Mathlib.Algebra.Group.Int.Defs
import Mathlib.Algebra.Group.Nat.Defs
import Mathlib.Data.Int.ModEq
import LC3.Word

/-!
# Words and integers

The machine calculates with words, and whoever reads a program calculates with integers. A word
stands for all the integers that leave the same remainder, and `UInt16.ofInt` takes an integer
to its word.

- `toNat_ofInt`: what remains of an integer in a word.
- `signed bits n`: the low bits of a number in two's complement. This is what `signExtend`
  takes out of a word (`signExtend_eq_ofInt`, `toInt_signExtend`).
- `signed_eq_iff`: it is known by its range and its remainder.
-/

namespace LC3

/-- The low `bits` bits of `n` in two's complement, for at least one bit: the upper half of the
range counts from below zero. -/
def signed (bits n : Nat) : Int :=
  let low := n % 2 ^ bits
  if 2 * low < 2 ^ bits then low else (low : Int) - 2 ^ bits

/-- An integer is known by its remainder. -/
theorem toNat_ofInt (x : Int) : ((UInt16.ofInt x).toNat : Int) = x % 65536 := by
  have hlt : x % 65536 < 65536 := Int.emod_lt_of_pos x (by decide)
  have hnonneg : 0 ≤ x % 65536 := Int.emod_nonneg x (by decide)
  rw [UInt16.ofInt, UInt16.toNat_ofNat']
  omega

theorem ofInt_toNat (w : Word) : UInt16.ofInt w.toNat = w := by
  have hw := w.toNat_lt
  have h := toNat_ofInt w.toNat
  rw [← UInt16.toNat_inj]
  omega

theorem ofInt_natCast (n : Nat) : UInt16.ofInt n = UInt16.ofNat n := by
  have h := toNat_ofInt n
  rw [← UInt16.toNat_inj, UInt16.toNat_ofNat']
  omega

theorem ofInt_eq_ofBitVec (x : Int) : UInt16.ofInt x = ⟨BitVec.ofInt 16 x⟩ := by
  have h := toNat_ofInt x
  rw [← UInt16.toNat_inj]
  show _ = (BitVec.ofInt 16 x).toNat
  rw [BitVec.toNat_ofInt]
  omega

/-- A signed word keeps its value up to the wrap. -/
theorem ofInt_toInt (p : Int16) : UInt16.ofInt p.toInt = p.toUInt16 := by
  rw [ofInt_eq_ofBitVec]
  show UInt16.ofBitVec (BitVec.ofInt 16 p.toBitVec.toInt) = p.toUInt16
  rw [BitVec.ofInt_toInt]
  rfl

/-! ## Two's complement -/

/-- To read bits in two's complement is to take the remainder closest to zero. -/
theorem signed_eq_bmod (bits n : Nat) : signed bits n = (n : Int).bmod (2 ^ bits) := by
  have hsize : ((2 ^ bits : Nat) : Int) = 2 ^ bits := by push_cast; rfl
  rw [signed, Int.bmod_def, ← Int.natCast_emod, hsize]
  by_cases hlow : 2 * (n % 2 ^ bits) < 2 ^ bits
  · rw [if_pos hlow, if_pos (by omega)]
  · rw [if_neg hlow, if_neg (by omega)]

/-- **Two's complement**: the one integer in the range that leaves the same remainder. -/
theorem signed_eq_iff {bits : Nat} (hpos : 0 < bits) (n : Nat) (x : Int) :
    signed bits n = x ↔
      -(2 ^ (bits - 1)) ≤ x ∧ x < 2 ^ (bits - 1) ∧ x ≡ n [ZMOD 2 ^ bits] := by
  have hhalves : 2 ^ (bits - 1) + 2 ^ (bits - 1) = 2 ^ bits :=
    Nat.two_pow_pred_add_two_pow_pred hpos
  have hhalf : ((2 ^ (bits - 1) : Nat) : Int) = 2 ^ (bits - 1) := by push_cast; rfl
  have hlow : ((2 ^ bits : Nat) : Int) / 2 = 2 ^ (bits - 1) := by omega
  have hhigh : (((2 ^ bits : Nat) : Int) + 1) / 2 = 2 ^ (bits - 1) := by omega
  have hremainder : ((2 ^ bits : Nat) : Int) ∣ x - n ↔ x ≡ n [ZMOD 2 ^ bits] := by
    rw [Int.modEq_comm, Int.modEq_iff_dvd]
    push_cast
    rfl
  rw [signed_eq_bmod, Int.bmod_eq_iff (Nat.two_pow_pos bits), hlow, hhigh, hremainder]

theorem toInt_setWidth_eq_signed (w : Word) (bits : Nat) :
    (w.toBitVec.setWidth bits).toInt = signed bits w.toNat := by
  rw [BitVec.toInt_eq_toNat_cond, BitVec.toNat_setWidth]
  rfl

/-! ## Extension -/

/-- Sign extension is arithmetic: it adds nothing but what the wrap takes away. -/
theorem signExtend_eq_ofInt (w : Word) (bits : Nat) (hpos : 0 < bits) (hlt : bits < 16) :
    signExtend w bits = UInt16.ofInt (signed bits w.toNat) := by
  have hpart : ¬ (bits = 0 ∨ 16 ≤ bits) := by omega
  rw [signExtend, if_neg hpart, ofInt_eq_ofBitVec, ← toInt_setWidth_eq_signed]
  rfl

/-- The extension is worth as an integer what the field is worth in two's complement. -/
theorem toInt_signExtend (w : Word) {bits : Nat} (hpos : 0 < bits) (hlt : bits < 16) :
    (signExtend w bits).toInt16.toInt = signed bits w.toNat := by
  have hpart : ¬ (bits = 0 ∨ 16 ≤ bits) := by omega
  rw [signExtend, if_neg hpart, ← toInt_setWidth_eq_signed]
  exact BitVec.toInt_signExtend_of_le hlt.le

end LC3
