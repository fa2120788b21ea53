import LC3.Service

/-!
# Execution of one instruction

Every instruction belongs to one group, and each group is carried out by a function of its
own. While an instruction executes, the program counter points behind it.

- `Instruction.group`: which function carries an instruction out.
- `Instruction.arithmetic`: `ADD`, `AND`, `NOT`.
- `Instruction.control`: `BR`, `JMP`, `JSR`, `JSRR`.
- `Instruction.access`: loads, stores and `LEA`, with all accesses through the bus.
- `Instruction.execute`: every instruction.
-/

namespace LC3

/-- What an instruction is about. -/
inductive Group where
  /-- Registers alone. -/
  | arithmetic
  /-- The program counter. -/
  | control
  /-- Memory. -/
  | access
  /-- The service of a vector. -/
  | service (vector : UInt8)
  /-- Nothing that the machine has. -/
  | missing (opcode : BadOpcode)
  deriving DecidableEq, Repr

/-- The value of an operand. -/
def Operand.value (operand : Operand) (regs : Registers) : Word :=
  match operand with
  | .register r => regs.get r
  | .immediate value => value

namespace Instruction

/-- The group of an instruction. -/
def group : Instruction → Group
  | add .. | and .. | not .. => .arithmetic
  | br .. | jmp .. | jsr .. | jsrr .. => .control
  | ld .. | ldi .. | ldr .. | lea .. | st .. | sti .. | str .. => .access
  | trap vector => .service vector
  | rti => .missing .rti
  | reserved => .missing .reserved

/-- The registers after an arithmetic instruction. Any other instruction changes nothing. -/
def arithmetic (regs : Registers) : Instruction → Registers
  | add dr sr1 operand => regs.assign dr (regs.get sr1 + operand.value regs)
  | and dr sr1 operand => regs.assign dr (regs.get sr1 &&& operand.value regs)
  | not dr sr => regs.assign dr (~~~regs.get sr)
  | _ => regs

/-- The registers after a jump. A call reads its target before it sets the link register. Any
other instruction changes nothing. -/
def control (regs : Registers) : Instruction → Registers
  | br mask offset =>
    if regs.cond.isIn mask then { regs with pc := regs.pc + offset } else regs
  | jmp base => { regs with pc := regs.get base }
  | jsr offset => { regs.set Reg.link regs.pc with pc := regs.pc + offset }
  | jsrr base => { regs.set Reg.link regs.pc with pc := regs.get base }
  | _ => regs

variable {κ δ : Type} [Console κ] [Handler δ]

/-- A load of `address` into a register. -/
def load (regs : Registers) (bus : Bus κ δ) (dr : Reg) (address : Word) :
    Registers × Bus κ δ :=
  let (value, bus) := bus.read address
  (regs.assign dr value, bus)

/-- Registers and bus after an access to memory. Any other instruction changes nothing. -/
def access (regs : Registers) (bus : Bus κ δ) : Instruction → Registers × Bus κ δ
  | ld dr offset => load regs bus dr (regs.pc + offset)
  | ldi dr offset =>
    let (pointer, bus) := bus.read (regs.pc + offset)
    load regs bus dr pointer
  | ldr dr base offset => load regs bus dr (regs.get base + offset)
  | lea dr offset => (regs.assign dr (regs.pc + offset), bus)
  | st sr offset => (regs, bus.write (regs.pc + offset) (regs.get sr))
  | sti sr offset =>
    let (pointer, bus) := bus.read (regs.pc + offset)
    (regs, bus.write pointer (regs.get sr))
  | str sr base offset => (regs, bus.write (regs.get base + offset) (regs.get sr))
  | _ => (regs, bus)

/-- The effect of an instruction. -/
def execute (i : Instruction) (regs : Registers) (bus : Bus κ δ) : Effect κ δ :=
  match i.group with
  | .arithmetic => ⟨.ok .proceed, i.arithmetic regs, bus⟩
  | .control => ⟨.ok .proceed, i.control regs, bus⟩
  | .access =>
    let (regs, bus) := i.access regs bus
    ⟨.ok .proceed, regs, bus⟩
  | .service vector => Service.call vector regs bus
  | .missing opcode => ⟨.ok (.abort opcode), regs, bus⟩

end Instruction

end LC3
