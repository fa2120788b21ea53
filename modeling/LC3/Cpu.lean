import LC3.Execute

/-!
# The processor

One step fetches a word through the bus, moves the program counter behind it and executes the
instruction. A processor that has stopped stays as it is until it is reset.

- `Cpu.step`: one instruction.
- `RunState`: running, or stopped in one of two ways.
- `Fault`: which instruction stopped the processor for good.
-/

namespace LC3

/-- Whether a processor runs. -/
inductive RunState where
  /-- It executes instructions. -/
  | running
  /-- A program asked it to stop. -/
  | halted
  /-- It met an operation that it does not have. -/
  | aborted
  deriving DecidableEq, Repr

/-- The name of a run state in descriptions. -/
def RunState.name : RunState → String
  | running => "Running"
  | halted => "Halted"
  | aborted => "Aborted"

/-- The instruction that stopped a processor for good. -/
structure Fault where
  /-- Its operation. -/
  opcode : BadOpcode
  /-- Its address. -/
  pc : Word
  deriving DecidableEq, Repr

/-- What a step comes to. -/
inductive StepResult where
  /-- An instruction was executed and the next one may follow. -/
  | retired
  /-- The processor has stopped, now or earlier. -/
  | stopped (state : RunState)
  deriving DecidableEq, Repr

/-- A processor. -/
structure Cpu where
  /-- The registers. -/
  regs : Registers
  /-- Whether it runs. -/
  state : RunState
  /-- The number of instructions executed. -/
  steps : Nat
  /-- Whether every instruction is reported. -/
  trace : Bool
  /-- What stopped it for good. -/
  fault : Option Fault
  deriving DecidableEq

namespace Cpu

/-- A processor about to fetch from `pc`. -/
def start (pc : Word) : Cpu := ⟨.start pc, .running, 0, false, none⟩

/-- The processor as at its start, except that it reports as before. -/
def reset (c : Cpu) (pc : Word) : Cpu := { start pc with trace := c.trace }

/-- The processor after an executed instruction, and what to report. The address and the word
are those of the instruction. -/
def retire (c : Cpu) (address word : Word) : Signal → StepResult × Cpu × List Event
  | .proceed => (.retired, { c with steps := c.steps + 1 }, [])
  | .halt =>
    (.stopped .halted, { c with steps := c.steps + 1, state := .halted },
      [.halted address (c.steps + 1)])
  | .abort opcode =>
    (.stopped .aborted,
      { c with steps := c.steps + 1, state := .aborted, fault := some ⟨opcode, address⟩ },
      [.badOpcode opcode word address])

variable {κ δ : Type} [Console κ] [Handler δ]

/-- What a step leaves: a result or a failure, the processor and the bus. -/
structure Stepped (κ δ : Type) (ρ : Type) where
  /-- The result. -/
  result : Except ConsoleFault ρ
  /-- The processor. -/
  cpu : Cpu
  /-- The bus. -/
  bus : Bus κ δ

/-- Execute one instruction. When a service fails, the instruction does not count as executed
and the processor still runs. -/
def step (c : Cpu) (bus : Bus κ δ) : Stepped κ δ StepResult :=
  if c.state = .running then
    let address := c.regs.pc
    let (word, bus) := bus.read address
    let regs := { c.regs with pc := address + 1 }
    let bus := if c.trace then bus.report (.executing address word) else bus
    let effect := (Instruction.decode word).execute regs bus
    let c := { c with regs := effect.regs }
    match effect.signal with
    | .error fault => ⟨.error fault, c, effect.bus⟩
    | .ok signal =>
      let (result, c, events) := c.retire address word signal
      ⟨.ok result, c, effect.bus.reportAll events⟩
  else ⟨.ok (.stopped c.state), c, bus⟩

/-- The processor in one line. -/
def describe (c : Cpu) : String :=
  let fault := match c.fault with
    | none => "None"
    | some f => s!"Some(Fault \x7b opcode: {f.opcode.name}, pc: {f.pc.toNat} \x7d)"
  s!"Cpu \x7b regs: {c.regs.describe}, state: {c.state.name}, steps: {c.steps}, " ++
    s!"trace: {c.trace}, fault: {fault} \x7d"

end Cpu

end LC3
