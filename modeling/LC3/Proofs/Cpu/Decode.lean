import LC3.Proofs.Cpu.Reference

/-!
# Decoding by digits

The processor takes an instruction apart by shifts and masks, and the reference machine by
quotients and remainders. Both find the same registers, the same operands and the same offsets.

- `decode_eq`: the instruction of a word, in terms of the digits of its number.
- `isIn_eq_meets`: a branch is taken on the same condition codes.
- `toNat_add_ofInt`: a wrapping sum is a sum of integers that is taken modulo `2 ^ 16`.
-/

namespace LC3

open Reference (wrap register meets)

/-! ## Words as numbers -/

theorem ofNat_wrap (x : Int) : UInt16.ofNat (wrap x) = UInt16.ofInt x := rfl

theorem toNat_ofInt_eq_wrap (x : Int) : (UInt16.ofInt x).toNat = wrap x := by
  have h := toNat_ofInt x
  rw [wrap]
  omega

theorem ofInt_toNat_add (a : Word) (x : Int) :
    UInt16.ofInt (a.toNat + x) = a + UInt16.ofInt x := by
  rw [UInt16.ofInt_add, ofInt_toNat]

theorem toNat_add_ofInt (a : Word) (x : Int) :
    (a + UInt16.ofInt x).toNat = wrap (a.toNat + x) := by
  rw [← ofInt_toNat_add, toNat_ofInt_eq_wrap]

theorem toNat_add_eq_wrap (a b : Word) : (a + b).toNat = wrap (a.toNat + b.toNat) := by
  rw [← toNat_add_ofInt, ofInt_toNat]

/-- To shift is to divide. -/
theorem toNat_shiftRight_eq_div (w : Word) {k : Word} (hk : k.toNat < 16) :
    (w >>> k).toNat = w.toNat / 2 ^ k.toNat := by
  rw [UInt16.toNat_shiftRight, Nat.mod_eq_of_lt hk, Nat.shiftRight_eq_div_pow]

namespace Instruction

/-! ## Fields -/

theorem regAt_eq (w : Word) {k : Word} (hk : k.toNat < 16) :
    regAt w k = register w.toNat (2 ^ k.toNat) := by
  rw [regAt, toNat_shiftRight_eq_div w hk]
  rfl

theorem bit_eq (w : Word) {k : Word} (hk : k.toNat < 16) :
    bit w k = decide (w.toNat / 2 ^ k.toNat % 2 = 1) := by
  have hlow : (w >>> k &&& 1).toNat = w.toNat / 2 ^ k.toNat % 2 := by
    rw [UInt16.toNat_and, toNat_shiftRight_eq_div w hk]
    exact Nat.and_one_is_mod _
  have hzero : (w >>> k &&& 1) = 0 ↔ w.toNat / 2 ^ k.toNat % 2 = 0 := by
    rw [← hlow, ← UInt16.toNat_inj]
    rfl
  by_cases h : w.toNat / 2 ^ k.toNat % 2 = 1
  · have hne : (w >>> k &&& 1) ≠ 0 := fun e => by
      have := hzero.mp e
      omega
    rw [decide_eq_true h]
    exact bne_iff_ne.mpr hne
  · have heq : (w >>> k &&& 1) = 0 := hzero.mpr (by omega)
    rw [decide_eq_false h, bit, heq]
    rfl

/-- A mask of three bits meets a condition code where the digit of the code is odd. -/
theorem isIn_eq_meets (w : Word) (c : Condition) :
    c.isIn (w >>> 9 &&& 7) = meets w.toNat c := by
  -- a mask has three bits, and eight masks can be tried one by one
  have hsmall : ∀ m : Fin 8, ∀ c : Condition, c.isIn (UInt16.ofNat m.val) =
      meets (m.val * 512) c := by
    intro m c
    cases c <;> revert m <;> decide
  have hmask : w >>> 9 &&& 7 = UInt16.ofNat (w.toNat / 512 % 8) := by
    rw [← UInt16.toNat_inj, UInt16.toNat_and, toNat_shiftRight_eq_div w (by decide),
      UInt16.toNat_ofNat']
    have h : w.toNat / 512 &&& 7 = w.toNat / 512 % 8 := Nat.and_two_pow_sub_one_eq_mod _ 3
    refine h.trans ?_
    omega
  rw [hmask, hsmall ⟨w.toNat / 512 % 8, Nat.mod_lt _ (by decide)⟩]
  cases c
  all_goals
    simp only [meets, decide_eq_decide]
    omega

/-! ## The instruction of a word -/

/-- **Decoding**: the digits of a word name its operation, its registers and its offsets. -/
theorem decode_eq (w : Word) :
    decode w =
      let dr := register w.toNat 512
      let base := register w.toNat 64
      let near := UInt16.ofInt (signed 9 w.toNat)
      match w.toNat / 4096 with
      | 0 => .br (w >>> 9 &&& 7) near
      | 1 => .add dr base (operandOf w)
      | 2 => .ld dr near
      | 3 => .st dr near
      | 4 => if w.toNat / 2048 % 2 = 1 then .jsr (UInt16.ofInt (signed 11 w.toNat)) else .jsrr base
      | 5 => .and dr base (operandOf w)
      | 6 => .ldr dr base (UInt16.ofInt (signed 6 w.toNat))
      | 7 => .str dr base (UInt16.ofInt (signed 6 w.toNat))
      | 8 => .rti
      | 9 => .not dr base
      | 10 => .ldi dr near
      | 11 => .sti dr near
      | 12 => .jmp base
      | 13 => .reserved
      | 14 => .lea dr near
      | _ => .trap (lowByte w) := by
  have hop : (w >>> 12).toNat = w.toNat / 4096 := toNat_shiftRight_eq_div w (by decide)
  have hdr : regAt w 9 = register w.toNat 512 := regAt_eq w (by decide)
  have hbase : regAt w 6 = register w.toNat 64 := regAt_eq w (by decide)
  have hlong : bit w 11 = decide (w.toNat / 2048 % 2 = 1) := bit_eq w (by decide)
  have hshort := signExtend_eq_ofInt w 6 (by decide) (by decide)
  have hnear := signExtend_eq_ofInt w 9 (by decide) (by decide)
  have hfar := signExtend_eq_ofInt w 11 (by decide) (by decide)
  -- `JSR` and `JSRR` share a code and are told apart by bit 11
  have hcall : (if bit w 11 then jsr (signExtend w 11) else jsrr (regAt w 6)) =
      if w.toNat / 2048 % 2 = 1 then jsr (UInt16.ofInt (signed 11 w.toNat))
        else jsrr (register w.toNat 64) := by
    simp only [hlong, hfar, hbase, decide_eq_true_eq]
  simp only [decode]
  rewrite [hop, hcall, hdr, hbase, hshort, hnear]
  rfl

/-- The second operand is the one that the reference machine finds. -/
theorem operandOf_eq (w : Word) :
    operandOf w = if w.toNat / 32 % 2 = 1 then .immediate (UInt16.ofInt (signed 5 w.toNat))
      else .register (register w.toNat 1) := by
  have hbit : bit w 5 = decide (w.toNat / 32 % 2 = 1) := bit_eq w (by decide)
  have hreg : regAt w 0 = register w.toNat 1 := regAt_eq w (by decide)
  simp only [operandOf, hbit, hreg, decide_eq_true_eq,
    signExtend_eq_ofInt w 5 (by decide) (by decide)]

end Instruction

end LC3
