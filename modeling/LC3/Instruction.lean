import LC3.Text.Hex
import LC3.Word

/-!
# Instructions

An instruction is one word: four bits of operation code and operands at fixed places. Every
word is an instruction, so decoding is total. Offsets and immediate operands are extended to
words here, so that to execute an instruction is only to add.

- `Instruction.decode`: the instruction of a word.
- `Instruction.mnemonic`: the name of its operation.
- `Instruction.text`: the instruction as an assembler writes it.
-/

namespace LC3

/-- A general register. -/
abbrev Reg := Fin 8

/-- The register that keeps return addresses. -/
def Reg.link : Reg := ⟨7, by decide⟩

/-- The register through which services exchange words with their callers. -/
def Reg.r0 : Reg := ⟨0, by decide⟩

/-- The register of a number, of which the low three bits count. -/
def Reg.ofNat (n : Nat) : Reg := ⟨n % 8, Nat.mod_lt _ (by decide)⟩

/-- The second operand of an arithmetic instruction. -/
inductive Operand where
  /-- The contents of a register. -/
  | register (r : Reg)
  /-- A value that the instruction carries. -/
  | immediate (value : Word)
  deriving DecidableEq, Repr

/-- The instructions. -/
inductive Instruction where
  /-- Branch if the condition code is in the mask. -/
  | br (mask offset : Word)
  /-- Add. -/
  | add (dr sr1 : Reg) (operand : Operand)
  /-- Load. -/
  | ld (dr : Reg) (offset : Word)
  /-- Store. -/
  | st (sr : Reg) (offset : Word)
  /-- Call a subroutine at an offset. -/
  | jsr (offset : Word)
  /-- Call the subroutine that a register points to. -/
  | jsrr (base : Reg)
  /-- Bitwise conjunction. -/
  | and (dr sr1 : Reg) (operand : Operand)
  /-- Load relative to a register. -/
  | ldr (dr base : Reg) (offset : Word)
  /-- Store relative to a register. -/
  | str (sr base : Reg) (offset : Word)
  /-- Return from an interrupt, which this machine does not have. -/
  | rti
  /-- Bitwise complement. -/
  | not (dr sr : Reg)
  /-- Load through a pointer. -/
  | ldi (dr : Reg) (offset : Word)
  /-- Store through a pointer. -/
  | sti (sr : Reg) (offset : Word)
  /-- Jump to where a register points. -/
  | jmp (base : Reg)
  /-- The operation code without a meaning. -/
  | reserved
  /-- Compute an address. -/
  | lea (dr : Reg) (offset : Word)
  /-- Call a service. -/
  | trap (vector : UInt8)
  deriving DecidableEq, Repr

namespace Instruction

/-! ## Decoding -/

/-- The register named by the three bits of `w` from bit `low` on. -/
def regAt (w low : Word) : Reg := .ofNat (w >>> low).toNat

/-- Bit `i` of `w`. -/
def bit (w i : Word) : Bool := w >>> i &&& 1 != 0

/-- The operand in the low six bits of an arithmetic instruction. -/
def operandOf (w : Word) : Operand :=
  if bit w 5 then .immediate (signExtend w 5) else .register (regAt w 0)

/-- The instruction of a word. -/
def decode (w : Word) : Instruction :=
  let first := regAt w 9
  let second := regAt w 6
  match (w >>> 12).toNat with
  | 0 => .br (w >>> 9 &&& 7) (signExtend w 9)
  | 1 => .add first second (operandOf w)
  | 2 => .ld first (signExtend w 9)
  | 3 => .st first (signExtend w 9)
  | 4 => if bit w 11 then .jsr (signExtend w 11) else .jsrr second
  | 5 => .and first second (operandOf w)
  | 6 => .ldr first second (signExtend w 6)
  | 7 => .str first second (signExtend w 6)
  | 8 => .rti
  | 9 => .not first second
  | 10 => .ldi first (signExtend w 9)
  | 11 => .sti first (signExtend w 9)
  | 12 => .jmp second
  | 13 => .reserved
  | 14 => .lea first (signExtend w 9)
  | _ => .trap (lowByte w)

/-! ## Text -/

/-- The name of an instruction's operation. -/
def mnemonic : Instruction → String
  | br .. => "BR"
  | add .. => "ADD"
  | ld .. => "LD"
  | st .. => "ST"
  | jsr .. | jsrr .. => "JSR"
  | and .. => "AND"
  | ldr .. => "LDR"
  | str .. => "STR"
  | rti => "RTI"
  | not .. => "NOT"
  | ldi .. => "LDI"
  | sti .. => "STI"
  | jmp .. => "JMP"
  | reserved => "RES"
  | lea .. => "LEA"
  | trap .. => "TRAP"

/-- A register as an assembler writes it. -/
def regText (r : Reg) : String := "R" ++ toString r.val

/-- A signed number as an assembler writes it. -/
def numberText (w : Word) : String := "#" ++ toString w.toInt16.toInt

/-- An operand as an assembler writes it. -/
def operandText : Operand → String
  | .register r => regText r
  | .immediate value => numberText value

/-- The letters of the condition codes in a branch mask. -/
def maskText (mask : Word) : String :=
  (if bit mask 2 then "n" else "") ++ (if bit mask 1 then "z" else "") ++
    (if bit mask 0 then "p" else "")

/-- A name followed by its operands, with commas between them. -/
def withOperands (name : String) (operands : List String) : String :=
  name ++ " " ++ ", ".intercalate operands

/-- The instruction as an assembler writes it. -/
def text : Instruction → String
  | br mask offset => withOperands ("BR" ++ maskText mask) [numberText offset]
  | add dr sr1 operand => withOperands "ADD" [regText dr, regText sr1, operandText operand]
  | ld dr offset => withOperands "LD" [regText dr, numberText offset]
  | st sr offset => withOperands "ST" [regText sr, numberText offset]
  | jsr offset => withOperands "JSR" [numberText offset]
  | jsrr base => withOperands "JSRR" [regText base]
  | and dr sr1 operand => withOperands "AND" [regText dr, regText sr1, operandText operand]
  | ldr dr base offset => withOperands "LDR" [regText dr, regText base, numberText offset]
  | str sr base offset => withOperands "STR" [regText sr, regText base, numberText offset]
  | rti => "RTI"
  | not dr sr => withOperands "NOT" [regText dr, regText sr]
  | ldi dr offset => withOperands "LDI" [regText dr, numberText offset]
  | sti sr offset => withOperands "STI" [regText sr, numberText offset]
  | jmp base => withOperands "JMP" [regText base]
  | reserved => "RESERVED"
  | lea dr offset => withOperands "LEA" [regText dr, numberText offset]
  | trap vector => withOperands "TRAP" ["x" ++ Text.upperHex 2 vector.toNat]

end Instruction

/-- An operation that stops the machine for good. -/
inductive BadOpcode where
  /-- Return from interrupt. -/
  | rti
  /-- The reserved operation code. -/
  | reserved
  deriving DecidableEq, Repr

/-- The name of such an operation in messages. -/
def BadOpcode.name : BadOpcode → String
  | .rti => "Rti"
  | .reserved => "Res"

end LC3
