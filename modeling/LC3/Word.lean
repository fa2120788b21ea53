/-!
# Machine words

The machine knows one kind of datum: sixteen bits, used as numbers, addresses, instructions
and characters alike. All arithmetic wraps at `2 ^ 16`.

- `Word`: a datum or an address.
- `signExtend w k`: the low `k` bits of `w` as a signed number.
- `lowByte`, `highByte`, `ofBytes`: the two bytes of a word, most significant byte first in
  program images.
-/

namespace LC3

/-- A datum or an address of the machine. -/
abbrev Word := UInt16

/-- The number of addresses. -/
abbrev addressCount : Nat := 65536

/-- The low `bits` bits of `w` read as a signed number. Nothing is left to extend when
`bits` covers the word, and no bits at all leave `w` as it is. -/
def signExtend (w : Word) (bits : Nat) : Word :=
  if bits = 0 ∨ 16 ≤ bits then w
  else ⟨(w.toBitVec.setWidth bits).signExtend 16⟩

/-- The less significant byte of `w`. -/
def lowByte (w : Word) : UInt8 := w.toUInt8

/-- The more significant byte of `w`. -/
def highByte (w : Word) : UInt8 := (w >>> 8).toUInt8

/-- The word with bytes `high` and `low`. -/
def ofBytes (high low : UInt8) : Word := high.toUInt16 * 256 + low.toUInt16

theorem toNat_lowByte (w : Word) : (lowByte w).toNat = w.toNat % 256 := by
  simp [lowByte]

theorem toNat_highByte (w : Word) : (highByte w).toNat = w.toNat / 256 := by
  have := w.toNat_lt
  simp [highByte, UInt16.toNat_shiftRight, Nat.shiftRight_eq_div_pow]
  omega

theorem toNat_ofBytes (high low : UInt8) :
    (ofBytes high low).toNat = 256 * high.toNat + low.toNat := by
  have := high.toNat_lt
  have := low.toNat_lt
  simp [ofBytes, UInt16.toNat_add, UInt16.toNat_mul]
  omega

@[simp] theorem highByte_ofBytes (high low : UInt8) : highByte (ofBytes high low) = high := by
  have := low.toNat_lt
  apply UInt8.toNat_inj.mp
  rw [toNat_highByte, toNat_ofBytes]
  omega

@[simp] theorem lowByte_ofBytes (high low : UInt8) : lowByte (ofBytes high low) = low := by
  have := low.toNat_lt
  apply UInt8.toNat_inj.mp
  rw [toNat_lowByte, toNat_ofBytes]
  omega

@[simp] theorem ofBytes_highByte_lowByte (w : Word) : ofBytes (highByte w) (lowByte w) = w := by
  apply UInt16.toNat_inj.mp
  rw [toNat_ofBytes, toNat_highByte, toNat_lowByte]
  omega

end LC3
