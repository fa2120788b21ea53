import LC3.Cpu
import LC3.Proofs.Bus.Access
import LC3.Proofs.Bus.Quiet

/-!
# The store of a step

A program changes memory by its three store instructions and by nothing else: every other
instruction, whatever service it calls, touches no more than the keyboard registers. So the
effect of a step on memory can be told before the step is taken.

- `Instruction.store?`, `Cpu.store?`: the address and the value of the store that is about to
  be executed, if the next instruction is one.
- `onlyPolled_of_store?_none`, `step_of_store?`: a step without a store only polls; a step with
  a store is that store, on a bus that at most was polled.
-/

namespace LC3

variable {κ δ : Type} [Console κ]

/-- The effective address and the value of a store. An instruction that is no store has none. -/
def Instruction.store? (regs : Registers) (bus : Bus κ δ) : Instruction → Option (Word × Word)
  | st sr offset => some (regs.pc + offset, regs.get sr)
  | sti sr offset => some ((bus.read (regs.pc + offset)).1, regs.get sr)
  | str sr base offset => some (regs.get base + offset, regs.get sr)
  | _ => none

/-- The effective address and the value of the store that the next step executes. A processor
that has stopped executes none. -/
def Cpu.store? (c : Cpu) (bus : Bus κ δ) : Option (Word × Word) :=
  if c.state = .running then
    let (word, bus) := bus.read c.regs.pc
    (Instruction.decode word).store? { c.regs with pc := c.regs.pc + 1 } bus
  else none

/-! ## Services -/

namespace Service

variable (regs : Registers) (bus : Bus κ δ)

omit [Console κ] in
theorem bus_settle (service : Service) (signal : Signal)
    (outcome : Except IoError Unit × Bus κ δ) :
    (settle service signal regs outcome).bus = outcome.2 := by
  obtain ⟨result, b⟩ := outcome
  cases result <;> rfl

/-- A service uses the console and leaves the memory alone. -/
theorem onlyTalked_perform (service : Service) :
    bus.OnlyTalked (service.perform regs bus).bus := by
  -- the two services that read may fail there, and `IN` once more when it echoes
  have hread := bus.onlyTalked_readByte
  cases service with
  | getc =>
    simp only [perform]
    split
    · next heq => rwa [heq] at hread
    · next heq => rwa [heq] at hread
  | echo =>
    simp only [perform]
    split
    · next heq => rwa [heq] at hread
    · next heq => rwa [heq] at hread
    · next byte b heq =>
      rw [heq] at hread
      have hemit := hread.trans (b.onlyTalked_emit [byte])
      split
      · next heq' => rwa [heq'] at hemit
      · next heq' => rwa [heq'] at hemit
  | out | puts | putsp =>
    simp only [perform, bus_settle]
    exact bus.onlyTalked_emit _
  | halt =>
    simp only [perform, bus_settle]
    exact ⟨rfl, rfl⟩

theorem onlyTalked_call (vector : UInt8) : bus.OnlyTalked (call vector regs bus).bus := by
  rw [call]
  split
  · exact ⟨rfl, rfl⟩
  · exact onlyTalked_perform _ bus _

end Service

/-! ## Instructions -/

namespace Instruction

variable [Handler δ] {regs : Registers} {bus : Bus κ δ} {i : Instruction}

/-- An instruction that is no store only polls. -/
theorem onlyPolled_of_store?_none (h : i.store? regs bus = none) :
    bus.OnlyPolled (i.execute regs bus).bus := by
  cases i with
  -- a store always has an address, so these are not among the instructions in question
  | st | sti | str => cases h
  | ld dr offset => exact bus.onlyPolled_read _
  | ldr dr base offset => exact bus.onlyPolled_read _
  | ldi dr offset => exact (bus.onlyPolled_read _).trans (Bus.onlyPolled_read _ _)
  | trap vector => exact (Service.onlyTalked_call regs bus vector).onlyPolled
  | _ => exact .refl bus

/-- An instruction that is a store proceeds after one store through the bus. -/
theorem execute_of_store? {a v : Word} (h : i.store? regs bus = some (a, v)) :
    (i.execute regs bus).signal = .ok .proceed ∧
      ∃ b', bus.OnlyPolled b' ∧ (i.execute regs bus).bus = b'.write a v := by
  cases i with
  | st sr offset | str sr base offset =>
    cases h
    exact ⟨rfl, bus, .refl bus, rfl⟩
  | sti sr offset =>
    cases h
    exact ⟨rfl, _, bus.onlyPolled_read (regs.pc + offset), rfl⟩
  | _ => cases h

omit [Handler δ] in
/-- What is reported does not bear on what is stored. -/
theorem store?_report (regs : Registers) (bus : Bus κ δ) (i : Instruction) (e : Event) :
    i.store? regs (bus.report e) = i.store? regs bus := by
  cases i <;> simp only [store?, Bus.read_report]

end Instruction

/-! ## Steps -/

namespace Cpu

/-- The bus on which a fetched word is executed. -/
def fetched (c : Cpu) (bus : Bus κ δ) : Bus κ δ :=
  let fetch := bus.read c.regs.pc
  if c.trace then fetch.2.report (.executing c.regs.pc fetch.1) else fetch.2

theorem onlyPolled_fetched (c : Cpu) (bus : Bus κ δ) : bus.OnlyPolled (c.fetched bus) := by
  have hread := bus.onlyPolled_read c.regs.pc
  simp only [fetched]
  split
  · exact hread.report _
  · exact hread

/-- The store of a running processor is that of the instruction it fetches. -/
theorem store?_of_running {c : Cpu} (h : c.state = .running) (bus : Bus κ δ) :
    c.store? bus = (Instruction.decode (bus.read c.regs.pc).1).store?
      { c.regs with pc := c.regs.pc + 1 } (c.fetched bus) := by
  simp only [store?, if_pos h, fetched]
  split
  · exact (Instruction.store?_report _ _ _ _).symm
  · rfl

/-- What is made of the effect of the instruction `word` at `address`. -/
def finish (c : Cpu) (address word : Word) (effect : Effect κ δ) : Stepped κ δ StepResult :=
  let c := { c with regs := effect.regs }
  match effect.signal with
  | .error fault => ⟨.error fault, c, effect.bus⟩
  | .ok signal =>
    let (result, c, events) := c.retire address word signal
    ⟨.ok result, c, effect.bus.reportAll events⟩

variable [Handler δ] {c : Cpu} {bus : Bus κ δ}

/-- A step of a running processor, in terms of the instruction it fetches. -/
theorem step_of_running (h : c.state = .running) (bus : Bus κ δ) :
    c.step bus = c.finish c.regs.pc (bus.read c.regs.pc).1
      ((Instruction.decode (bus.read c.regs.pc).1).execute { c.regs with pc := c.regs.pc + 1 }
        (c.fetched bus)) := by
  rw [step, if_pos h]
  rfl

/-- **A step without a store** only polls. -/
theorem onlyPolled_of_store?_none (h : c.store? bus = none) :
    bus.OnlyPolled (c.step bus).bus := by
  by_cases hrun : c.state = .running
  · rw [store?_of_running hrun] at h
    have hexecute := (c.onlyPolled_fetched bus).trans (Instruction.onlyPolled_of_store?_none h)
    rw [step_of_running hrun, finish]
    split
    · exact hexecute
    · exact hexecute.reportAll _
  · rw [step, if_neg hrun]
    exact .refl bus

/-- **A step with a store** is that store, on a bus that at most was polled. -/
theorem step_of_store? {a v : Word} (h : c.store? bus = some (a, v)) :
    ∃ b', bus.OnlyPolled b' ∧ (c.step bus).bus = b'.write a v := by
  have hrun : c.state = .running := by
    by_cases hrun : c.state = .running
    · exact hrun
    · rw [store?, if_neg hrun] at h
      cases h
  rw [store?_of_running hrun] at h
  obtain ⟨hsignal, b', hpolled, hbus⟩ := Instruction.execute_of_store? h
  refine ⟨b', (c.onlyPolled_fetched bus).trans hpolled, ?_⟩
  rw [step_of_running hrun]
  simp only [finish, hsignal]
  exact hbus

end Cpu

end LC3
