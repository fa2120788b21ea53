import LC3.Proofs.Cpu.Decode

/-!
# Sign extension

An instruction carries its offsets and its small operands in fewer bits than a word has. There are
three ways to tell what such a field is worth as a word: its highest bit is repeated upwards, a
circuit masks the field and fills the bits above it, and a reader takes the one integer around zero
that leaves the same remainder. They are the same.

- `getLsbD_signExtend`: each bit of the extension is a bit of the field.
- `signExtend_eq_maskExtend`: mask, sign and fill.
- `signExtend_eq_signExtend_iff`: what lies above the field does not count.
- `signExtend_signExtend`: of two extensions the narrower one counts.
- `sign_extension`: all of it, for fields of any width, and the integer.
-/

namespace LC3

/-- The word whose low `bits` bits are set. -/
def lowOnes (bits : Nat) : Word := (1 <<< UInt16.ofNat bits) - 1

/-- Extension by a mask: the bits above the field are cleared, and all of them are set again if
the highest bit of the field is. -/
def maskExtend (w : Word) (bits : Nat) : Word :=
  let field := w &&& lowOnes bits
  if Instruction.bit field (UInt16.ofNat (bits - 1)) then field ||| ~~~lowOnes bits else field

variable {bits : Nat} {v w : Word}

/-! ## Bits -/

/-- A word is its sixteen bits. -/
theorem eq_of_getLsbD (h : ∀ i < 16, v.toBitVec.getLsbD i = w.toBitVec.getLsbD i) : v = w :=
  UInt16.toBitVec_inj.mp (BitVec.eq_of_getLsbD_eq h)

/-- The number of a place in a word fits into a word. -/
theorem toNat_ofNat_place {i : Nat} (hi : i < 16) : (UInt16.ofNat i).toNat = i :=
  UInt16.toNat_ofNat_of_lt' (Nat.lt_trans hi (by decide))

theorem bit_eq_getLsbD (w : Word) {i : Nat} (hi : i < 16) :
    Instruction.bit w (UInt16.ofNat i) = w.toBitVec.getLsbD i := by
  have hplace := toNat_ofNat_place hi
  rw [Instruction.bit_eq w (by omega), hplace, ← Nat.testBit_eq_decide_div_mod_eq]
  rfl

/-- **The sign is repeated**: above the field stand copies of its highest bit. -/
theorem getLsbD_signExtend (w : Word) (hpos : 0 < bits) {i : Nat} (hi : i < 16) :
    (signExtend w bits).toBitVec.getLsbD i = w.toBitVec.getLsbD (min i (bits - 1)) := by
  by_cases hwhole : bits = 0 ∨ 16 ≤ bits
  · have hmin : min i (bits - 1) = i := by omega
    rw [signExtend, if_pos hwhole, hmin]
  · rw [signExtend, if_neg hwhole, BitVec.getLsbD_signExtend, BitVec.getLsbD_setWidth,
      BitVec.msb_setWidth, decide_eq_true hi, decide_eq_true hpos, Bool.true_and, Bool.true_and]
    by_cases hin : i < bits
    · have hmin : min i (bits - 1) = i := by omega
      rw [if_pos hin, decide_eq_true hin, Bool.true_and, hmin]
    · have hmin : min i (bits - 1) = bits - 1 := by omega
      rw [if_neg hin, hmin]

/-! ## Masks -/

/-- Nothing is shifted out of the word, so the mask is one less than a power of two. -/
theorem toNat_lowOnes (hlt : bits < 16) : (lowOnes bits).toNat = 2 ^ bits - 1 := by
  have hpow : 2 ^ bits < 2 ^ 16 := Nat.pow_lt_pow_right (by decide) hlt
  have hunit : (1 <<< UInt16.ofNat bits : Word).toNat = 2 ^ bits := by
    rw [UInt16.toNat_shiftLeft, toNat_ofNat_place hlt, Nat.mod_eq_of_lt hlt, Nat.shiftLeft_eq,
      UInt16.toNat_one, Nat.one_mul, Nat.mod_eq_of_lt hpow]
  have hone : (1 : Word) ≤ 1 <<< UInt16.ofNat bits := by
    rw [UInt16.le_iff_toNat_le, hunit]
    exact Nat.one_le_two_pow
  rw [lowOnes, UInt16.toNat_sub_of_le _ _ hone, hunit]
  rfl

theorem getLsbD_lowOnes (hlt : bits < 16) (i : Nat) :
    (lowOnes bits).toBitVec.getLsbD i = decide (i < bits) := by
  rw [← BitVec.testBit_toNat, UInt16.toNat_toBitVec, toNat_lowOnes hlt, Nat.testBit_two_pow_sub_one]

/-- A mask clears what lies above it. -/
theorem getLsbD_and_lowOnes (w : Word) (hlt : bits < 16) (i : Nat) :
    (w &&& lowOnes bits).toBitVec.getLsbD i = (w.toBitVec.getLsbD i && decide (i < bits)) := by
  rw [UInt16.toBitVec_and, BitVec.getLsbD_and, getLsbD_lowOnes hlt]

/-- The complement of a mask sets what lies above it. -/
theorem getLsbD_or_not_lowOnes (w : Word) (hlt : bits < 16) {i : Nat} (hi : i < 16) :
    (w ||| ~~~lowOnes bits).toBitVec.getLsbD i = (w.toBitVec.getLsbD i || !decide (i < bits)) := by
  rw [UInt16.toBitVec_or, BitVec.getLsbD_or, UInt16.toBitVec_not, BitVec.getLsbD_not,
    getLsbD_lowOnes hlt, decide_eq_true hi, Bool.true_and]

/-- The circuit repeats the sign too. -/
theorem getLsbD_maskExtend (w : Word) (hpos : 0 < bits) (hlt : bits < 16) {i : Nat} (hi : i < 16) :
    (maskExtend w bits).toBitVec.getLsbD i = w.toBitVec.getLsbD (min i (bits - 1)) := by
  have hsign : Instruction.bit (w &&& lowOnes bits) (UInt16.ofNat (bits - 1)) =
      w.toBitVec.getLsbD (bits - 1) := by
    rw [bit_eq_getLsbD _ (by omega), getLsbD_and_lowOnes w hlt, decide_eq_true (by omega),
      Bool.and_true]
  -- outside the field the bit is the one that the circuit looked at
  have hmin : min i (bits - 1) = if i < bits then i else bits - 1 := by split <;> omega
  rw [maskExtend, hsign, hmin]
  by_cases hset : w.toBitVec.getLsbD (bits - 1) = true
  · rw [if_pos hset, getLsbD_or_not_lowOnes _ hlt hi, getLsbD_and_lowOnes w hlt]
    by_cases hin : i < bits <;> simp [hin, hset]
  · rw [if_neg hset, getLsbD_and_lowOnes w hlt]
    by_cases hin : i < bits <;> simp [hin, hset]

/-- **Mask, sign, fill**: the circuit extends every field that is shorter than a word. -/
theorem signExtend_eq_maskExtend (w : Word) (hpos : 0 < bits) (hlt : bits < 16) :
    signExtend w bits = maskExtend w bits := by
  apply eq_of_getLsbD
  intro i hi
  rw [getLsbD_signExtend w hpos hi, getLsbD_maskExtend w hpos hlt hi]

/-! ## Fields -/

/-- Two fields are worth the same if and only if they have the same bits. What lies above them does
not count. -/
theorem signExtend_eq_signExtend_iff (hpos : 0 < bits) (hle : bits ≤ 16) :
    signExtend v bits = signExtend w bits ↔
      ∀ i < bits, v.toBitVec.getLsbD i = w.toBitVec.getLsbD i := by
  constructor
  · intro h i hi
    have hmin : min i (bits - 1) = i := by omega
    rw [← hmin, ← getLsbD_signExtend v hpos (by omega), ← getLsbD_signExtend w hpos (by omega), h]
  · intro h
    apply eq_of_getLsbD
    intro i hi
    rw [getLsbD_signExtend v hpos hi, getLsbD_signExtend w hpos hi]
    exact h _ (by omega)

/-- **The narrower counts** of two extensions, whichever comes first. -/
theorem signExtend_signExtend (w : Word) {inner outer : Nat} (hinner : 0 < inner)
    (houter : 0 < outer) :
    signExtend (signExtend w inner) outer = signExtend w (min inner outer) := by
  apply eq_of_getLsbD
  intro i hi
  have hplace : min (min i (outer - 1)) (inner - 1) = min i (min inner outer - 1) := by omega
  rw [getLsbD_signExtend _ houter hi, getLsbD_signExtend _ hinner (by omega),
    getLsbD_signExtend _ (by omega) hi, hplace]

/-- **Sign extension**. A field that is shorter than a word is worth the one integer that has the
remainder of the word and lies in the range of two's complement. A circuit finds it by a mask and
a fill. The bits above the field do not count, and the bits within it all do. What is extended stays
as it is when it is extended once more, as a field of the same width or of a larger one. An empty
field, and one that covers the word, leave the word as it is. -/
theorem sign_extension (w : Word) (bits : Nat) :
    (0 < bits → bits < 16 →
      (∀ x : Int, (signExtend w bits).toInt16.toInt = x ↔
        -(2 ^ (bits - 1)) ≤ x ∧ x < 2 ^ (bits - 1) ∧ x ≡ w.toNat [ZMOD 2 ^ bits]) ∧
      signExtend w bits = maskExtend w bits ∧
      (∀ v : Word, signExtend v bits = signExtend w bits ↔
        ∀ i < bits, v.toBitVec.getLsbD i = w.toBitVec.getLsbD i) ∧
      signExtend (signExtend w bits) bits = signExtend w bits ∧
      ∀ wider, bits ≤ wider → signExtend (signExtend w bits) wider = signExtend w bits) ∧
    (bits = 0 ∨ 16 ≤ bits → signExtend w bits = w) := by
  refine ⟨fun hpos hlt => ?_, fun hwhole => if_pos hwhole⟩
  have hvalue (x : Int) : (signExtend w bits).toInt16.toInt = x ↔
      -(2 ^ (bits - 1)) ≤ x ∧ x < 2 ^ (bits - 1) ∧ x ≡ w.toNat [ZMOD 2 ^ bits] := by
    rw [toInt_signExtend w hpos hlt, signed_eq_iff hpos]
  have hagain (wider : Nat) (h : bits ≤ wider) :
      signExtend (signExtend w bits) wider = signExtend w bits := by
    rw [signExtend_signExtend w hpos (Nat.lt_of_lt_of_le hpos h), Nat.min_eq_left h]
  have hbits (v : Word) : signExtend v bits = signExtend w bits ↔
      ∀ i < bits, v.toBitVec.getLsbD i = w.toBitVec.getLsbD i :=
    signExtend_eq_signExtend_iff hpos (Nat.le_of_lt hlt)
  exact ⟨hvalue, signExtend_eq_maskExtend w hpos hlt, hbits, hagain bits (Nat.le_refl bits), hagain⟩

/-- The small operand of `ADD R0, R0, #-2`, which other words carry too, and the whole word. -/
theorem sign_extension_immediate :
    (0 < 5 ∧ 5 < 16) ∧ (signExtend 0x103E 5).toInt16.toInt = -2 ∧
      signExtend 0x103E 5 = maskExtend 0x103E 5 ∧
      signExtend 0xFFFE 5 = signExtend 0x103E 5 ∧
      5 ≤ 9 ∧ signExtend (signExtend 0x103E 5) 9 = signExtend 0x103E 5 ∧
      16 ≤ 2 ^ 32 - 1 ∧ signExtend 0x103E (2 ^ 32 - 1) = 0x103E := by
  obtain ⟨hvalue, hmask, hbits, -, hagain⟩ :=
    (sign_extension 0x103E 5).1 (by decide) (by decide)
  have hwhole := (sign_extension 0x103E (2 ^ 32 - 1)).2 (by decide)
  exact ⟨by decide, (hvalue (-2)).mpr (by decide), hmask, (hbits 0xFFFE).mpr (by decide),
    by decide, hagain 9 (by decide), by decide, hwhole⟩

end LC3
