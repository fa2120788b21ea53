import LC3.Proofs.Bus.Delivery
import LC3.Proofs.Cpu.Likeness

/-!
# The accesses of a step

To the bus, a step is a short list of accesses: the instruction is loaded, then a pointer or a
value, and at the end there may be a store. A step that calls a service makes no accesses but the
first one, and the service comes after it. So what is true of every access and of every service is
true of every step.

- `Instruction.accesses`, `Cpu.accesses`: the accesses of an instruction and of the next step.
- `Instruction.service?`, `Cpu.service?`: the service that is called, if there is one.
- `Cpu.step_of_service?_none`, `Cpu.step_of_service?`: a step is its accesses, and then the service.
- `Bus.notes`: what there is to note of accesses, one after the other.
-/

namespace LC3

variable {κ δ : Type} [Console κ]

namespace Bus

variable [Handler δ]

/-- What `note` says of each of a list of accesses, on the bus on which it is made. -/
def notes {α : Type} (note : Bus κ δ → Access → Option α) (b : Bus κ δ) : List Access → List α
  | [] => []
  | x :: rest => (note b x).toList ++ (b.access x).notes note rest

theorem quiet_access (b : Bus κ δ) (x : Access) : b.quiet.access x = (b.access x).quiet := by
  cases x with
  | read a => rw [access, quiet_read, access]
  | write a v => exact b.quiet_write a v
  | change f => rfl

/-- What was reported does not bear on accesses. -/
theorem quiet_accesses (b : Bus κ δ) (xs : List Access) :
    b.quiet.accesses xs = (b.accesses xs).quiet := by
  induction xs generalizing b with
  | nil => rfl
  | cons x rest ih =>
    show (b.quiet.access x).accesses rest = ((b.access x).accesses rest).quiet
    rw [quiet_access, ih]

end Bus

/-! ## Instructions -/

namespace Instruction

/-- The accesses of an instruction. -/
def accesses (regs : Registers) (bus : Bus κ δ) : Instruction → List Bus.Access
  | ld _ offset => [.read (regs.pc + offset)]
  | ldi _ offset => [.read (regs.pc + offset), .read (bus.read (regs.pc + offset)).1]
  | ldr _ base offset => [.read (regs.get base + offset)]
  | st sr offset => [.write (regs.pc + offset) (regs.get sr)]
  | sti sr offset =>
    [.read (regs.pc + offset), .write (bus.read (regs.pc + offset)).1 (regs.get sr)]
  | str sr base offset => [.write (regs.get base + offset) (regs.get sr)]
  | _ => []

/-- The service that an instruction calls. -/
def service? : Instruction → Option Service
  | trap vector => Service.ofVector vector
  | _ => none

variable (regs : Registers) (bus : Bus κ δ) {i : Instruction}

theorem accesses_quiet (i : Instruction) : i.accesses regs bus.quiet = i.accesses regs bus := by
  cases i <;> simp only [accesses, Bus.quiet_read]

/-- The only store among the accesses of an instruction is the one that it executes. -/
theorem store?_of_mem_accesses {x : Bus.Access} (h : x ∈ i.accesses regs bus) :
    (∃ a, x = .read a) ∨ ∃ a v, x = .write a v ∧ i.store? regs bus = some (a, v) := by
  cases i with
  | ld dr offset | ldr dr base offset =>
    rw [List.mem_singleton.mp h]
    exact .inl ⟨_, rfl⟩
  | ldi dr offset =>
    obtain rfl | rfl : x = _ ∨ x = _ := by simpa only [accesses, List.mem_pair] using h
    · exact .inl ⟨_, rfl⟩
    · exact .inl ⟨_, rfl⟩
  | st sr offset | str sr base offset =>
    rw [List.mem_singleton.mp h]
    exact .inr ⟨_, _, rfl, rfl⟩
  | sti sr offset =>
    obtain rfl | rfl : x = _ ∨ x = _ := by simpa only [accesses, List.mem_pair] using h
    · exact .inl ⟨_, rfl⟩
    · exact .inr ⟨_, _, rfl, rfl⟩
  | _ => cases h

variable [Handler δ]

/-- An instruction that calls no service is its accesses, and does not fail. -/
theorem execute_of_service?_none (h : i.service? = none) :
    (i.execute regs bus).bus.quiet = (bus.accesses (i.accesses regs bus)).quiet ∧
      ∀ fault, (i.execute regs bus).signal ≠ .error fault := by
  cases i with
  | trap vector =>
    rw [service?] at h
    show (Service.call vector regs bus).bus.quiet = bus.quiet ∧
      ∀ fault, (Service.call vector regs bus).signal ≠ .error fault
    rw [Service.call, h]
    exact ⟨rfl, fun fault hfault => by cases hfault⟩
  | _ => exact ⟨rfl, fun fault hfault => by cases hfault⟩

/-- An instruction that calls a service makes no accesses. -/
theorem execute_of_service? {s : Service} (h : i.service? = some s) :
    i.accesses regs bus = [] ∧
      i.execute regs bus = s.perform (regs.set Reg.link regs.pc) bus := by
  cases i with
  | trap vector =>
    refine ⟨rfl, ?_⟩
    rw [service?] at h
    show Service.call vector regs bus = _
    rw [Service.call, h]
  | _ => cases h

end Instruction

/-! ## Steps -/

namespace Cpu

/-- The accesses of the next step. A processor that has stopped makes none. -/
def accesses (c : Cpu) (bus : Bus κ δ) : List Bus.Access :=
  if c.state = .running then
    let (word, fetched) := bus.read c.regs.pc
    .read c.regs.pc ::
      (Instruction.decode word).accesses { c.regs with pc := c.regs.pc + 1 } fetched
  else []

/-- The service that the next step calls. A processor that has stopped calls none. -/
def service? (c : Cpu) (bus : Bus κ δ) : Option Service :=
  if c.state = .running then (Instruction.decode (bus.read c.regs.pc).1).service? else none

/-- The registers that a service finds when the next step calls it. -/
def calling (c : Cpu) : Registers :=
  { c.regs with pc := c.regs.pc + 1 }.set Reg.link (c.regs.pc + 1)

omit [Console κ] in
/-- To call a service changes the link register alone. -/
theorem get_calling (c : Cpu) (r : Reg) :
    c.calling.get r = if r = Reg.link then c.regs.pc + 1 else c.regs.get r :=
  Registers.get_set ..

theorem quiet_fetched (c : Cpu) (bus : Bus κ δ) :
    (c.fetched bus).quiet = (bus.read c.regs.pc).2.quiet := by
  rw [fetched]
  split <;> rfl

/-- The only store among the accesses of a step is the one that it executes. -/
theorem store?_of_mem_accesses {c : Cpu} {bus : Bus κ δ} {x : Bus.Access}
    (h : x ∈ c.accesses bus) :
    (∃ a, x = .read a) ∨ ∃ a v, x = .write a v ∧ c.store? bus = some (a, v) := by
  rw [accesses] at h
  split at h
  · next hrun =>
    obtain rfl | hmem := List.mem_cons.mp h
    · exact .inl ⟨_, rfl⟩
    · rw [store?, if_pos hrun]
      exact Instruction.store?_of_mem_accesses _ _ hmem
  · cases h

omit [Console κ] in
theorem regs_finish (c : Cpu) (address word : Word) (e : Effect κ δ) :
    (c.finish address word e).cpu.regs = e.regs ∧
      (c.finish address word e).bus.quiet = e.bus.quiet := by
  rw [finish]
  cases e.signal with
  | error fault => exact ⟨rfl, rfl⟩
  | ok signal => cases signal <;> exact ⟨rfl, rfl⟩

omit [Console κ] in
theorem error_finish {c : Cpu} {address word : Word} {e : Effect κ δ} {fault : ConsoleFault} :
    (c.finish address word e).result = .error fault ↔ e.signal = .error fault := by
  rw [finish]
  cases e.signal with
  | error cause =>
    constructor
    · rintro ⟨⟩
      rfl
    · rintro ⟨⟩
      rfl
  | ok signal =>
    constructor
    · rintro ⟨⟩
    · rintro ⟨⟩

variable [Handler δ] {c : Cpu} {bus : Bus κ δ}

theorem accesses_of_running (h : c.state = .running) (bus : Bus κ δ) :
    bus.accesses (c.accesses bus) = (bus.read c.regs.pc).2.accesses
      ((Instruction.decode (bus.read c.regs.pc).1).accesses { c.regs with pc := c.regs.pc + 1 }
        (bus.read c.regs.pc).2) := by
  rw [accesses, if_pos h]
  rfl

/-- **A step that calls no service** is its accesses, and does not fail. -/
theorem step_of_service?_none (h : c.service? bus = none) :
    (c.step bus).bus.quiet = (bus.accesses (c.accesses bus)).quiet ∧
      ∀ fault, (c.step bus).result ≠ .error fault := by
  by_cases hrun : c.state = .running
  · rw [service?, if_pos hrun] at h
    obtain ⟨hbus, hsignal⟩ := Instruction.execute_of_service?_none
      { c.regs with pc := c.regs.pc + 1 } (c.fetched bus) h
    rw [step_of_running hrun]
    refine ⟨?_, fun fault hfault => hsignal fault (error_finish.mp hfault)⟩
    rw [(regs_finish _ _ _ _).2, hbus, accesses_of_running hrun, ← Bus.quiet_accesses,
      ← Instruction.accesses_quiet, quiet_fetched, Bus.quiet_accesses, Instruction.accesses_quiet]
  · rw [step, if_neg hrun, accesses, if_neg hrun]
    exact ⟨rfl, fun fault hfault => by cases hfault⟩

/-- **A step that calls a service** fetches the call, and then the service is carried out. The step
fails if the service does. -/
theorem step_of_service? {s : Service} (h : c.service? bus = some s) :
    let effect := s.perform c.calling (bus.accesses (c.accesses bus))
    c.accesses bus = [.read c.regs.pc] ∧ (c.step bus).cpu.regs = effect.regs ∧
      (c.step bus).bus.quiet = effect.bus.quiet ∧
      ∀ fault, (c.step bus).result = .error fault ↔ effect.signal = .error fault := by
  intro effect
  have hrun : c.state = .running := by
    by_contra hstopped
    rw [service?, if_neg hstopped] at h
    cases h
  rw [service?, if_pos hrun] at h
  obtain ⟨hnone, -⟩ := Instruction.execute_of_service? { c.regs with pc := c.regs.pc + 1 }
    (bus.read c.regs.pc).2 h
  obtain ⟨-, hexecute⟩ := Instruction.execute_of_service? { c.regs with pc := c.regs.pc + 1 }
    (c.fetched bus) h
  have haccesses : c.accesses bus = [.read c.regs.pc] := by
    rw [accesses, if_pos hrun]
    exact congrArg _ hnone
  -- the service finds the bus as the fetch leaves it, up to the report of the instruction
  obtain ⟨hsignal, hregs, hbus⟩ : ((Instruction.decode (bus.read c.regs.pc).1).execute
      { c.regs with pc := c.regs.pc + 1 } (c.fetched bus)).Alike (·.quiet = ·.quiet) effect := by
    rw [hexecute]
    simp only [effect, haccesses]
    exact Service.alike_perform Bus.likeness_quiet (quiet_fetched c bus) s _
  rw [step_of_running hrun, (regs_finish _ _ _ _).1, (regs_finish _ _ _ _).2]
  refine ⟨haccesses, hregs, hbus, fun fault => ?_⟩
  rw [error_finish, hsignal]

end Cpu

end LC3
