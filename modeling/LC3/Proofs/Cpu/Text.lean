import LC3.Service

/-!
# Strings in memory

A string has no length of its own: it goes on up to the first zero word, around the ceiling if
need be, and ends after one word for each address at the latest.

- `stringWords_eq_takeWhile`: a string is the longest run without zeros from its address on.
-/

namespace LC3

variable (m : Memory) (a : Word)

theorem le_zeroFreeFrom (n limit : Nat) : n ≤ zeroFreeFrom m a n limit := by
  induction limit generalizing n with
  | zero => exact Nat.le_refl n
  | succ limit ih =>
    rw [zeroFreeFrom]
    split
    · exact Nat.le_refl n
    · exact Nat.le_of_succ_le (ih (n + 1))

/-- The search for a zero stops where the run without zeros does. -/
theorem takeWhile_eq_zeroFreeFrom (n limit : Nat) :
    ((List.range' n limit).map fun i => m.get (a + UInt16.ofNat i)).takeWhile (· ≠ 0) =
      (List.range' n (zeroFreeFrom m a n limit - n)).map fun i => m.get (a + UInt16.ofNat i) := by
  induction limit generalizing n with
  | zero => simp [zeroFreeFrom]
  | succ limit ih =>
    rw [List.range'_succ, List.map_cons, List.takeWhile_cons, zeroFreeFrom]
    -- the next word is the zero that ends the string, or one word more of it
    by_cases hzero : m.get (a + UInt16.ofNat n) = 0
    · simp [hzero]
    · have hle := le_zeroFreeFrom m a (n + 1) limit
      have hlen : zeroFreeFrom m a (n + 1) limit - n =
          (zeroFreeFrom m a (n + 1) limit - (n + 1)) + 1 := by omega
      rw [if_pos (by simpa using hzero), if_neg hzero, ih, hlen, List.range'_succ, List.map_cons]

/-- **A string** is the longest run of words without zeros, and at most one round of memory. -/
theorem stringWords_eq_takeWhile :
    stringWords m a =
      ((List.range 65536).map fun i => m.get (a + UInt16.ofNat i)).takeWhile (· ≠ 0) := by
  rw [List.range_eq_range', takeWhile_eq_zeroFreeFrom, Nat.sub_zero, ← List.range_eq_range']
  rfl

end LC3
