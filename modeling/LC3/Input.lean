import LC3.Monitor

/-!
# When a machine takes input

A program takes input by calling a service or by loading the keyboard status. Whether the next
instruction does so can be told before it is executed, so nobody at a terminal is asked for a
key too early.

- `Instruction.loads`: the addresses that an instruction loads from.
- `Monitor.takesInput`: whether the next step takes a byte of input, if there is one.
-/

namespace LC3

namespace Instruction

/-- The addresses that an instruction loads from, one after the other. -/
def loads (regs : Registers) (m : Memory) : Instruction → List Word
  | ld _ offset => [regs.pc + offset]
  | ldi _ offset => [regs.pc + offset, m.get (regs.pc + offset)]
  | ldr _ base offset => [regs.get base + offset]
  | sti _ offset => [regs.pc + offset]
  | _ => []

/-- Whether an instruction calls a service that takes input. -/
def callsForInput : Instruction → Bool
  | trap vector =>
    Service.ofVector vector = some .getc ∨ Service.ofVector vector = some .echo
  | _ => false

end Instruction

/-- Whether the next step takes a byte of input, if there is one. -/
def Monitor.takesInput {κ : Type} (v : Monitor κ) : Bool :=
  let pc := v.cpu.regs.pc
  let i := Instruction.decode (v.bus.memory.get pc)
  let addresses := pc :: i.loads { v.cpu.regs with pc := pc + 1 } v.bus.memory
  v.cpu.state = .running ∧ (i.callsForInput ∨ keyboardStatus ∈ addresses)

end LC3
