import LC3.Proofs.Cpu.Decode
import LC3.Proofs.Cpu.Store

/-!
# How a processor stops

An instruction asks for one of three things: to go on, to stop, or to stop for good. What it asks
for can be read off the word, unless a service fails, and then the processor simply goes on
running.

- `Instruction.asks`: what an instruction asks for when it does not fail.
- `Cpu.step_cases`: the four ways in which a step ends, and all that they change besides the
  registers.
- `Cpu.Call`, `Cpu.after`: a processor in the course of its life, on whatever buses.
- `Cpu.recorded_after`, `Cpu.abortsIn_of_fault`: a fault is on record exactly while the processor
  is aborted, and names the instruction that aborted it.
- `Cpu.step_of_isHalt`: a step that executes `HALT` stops the processor if the console can be
  flushed.
-/

namespace LC3

/-- The operation code of an operation that the machine does not have. -/
def BadOpcode.code : BadOpcode → Nat
  | .rti => 8
  | .reserved => 13

/-- The word has the operation code of an operation that the machine does not have. -/
def IsMissing (w : Word) : Prop := w.toNat / 4096 = 8 ∨ w.toNat / 4096 = 13

theorem BadOpcode.isMissing {w : Word} {opcode : BadOpcode} (h : w.toNat / 4096 = opcode.code) :
    IsMissing w := by
  cases opcode with
  | rti => exact .inl h
  | reserved => exact .inr h

/-- The word calls the service that stops the machine. -/
def IsHalt (w : Word) : Prop := w.toNat / 4096 = 15 ∧ w.toNat % 256 = 0x25

instance (w : Word) : Decidable (IsHalt w) := inferInstanceAs (Decidable (_ ∧ _))

variable {κ δ : Type} [Console κ]

/-! ## What is asked for -/

namespace Service

variable (regs : Registers) (bus : Bus κ δ)

omit [Console κ] in
theorem signal_settle {service : Service} {signal asked : Signal}
    {outcome : Except IoError Unit × Bus κ δ}
    (h : (settle service signal regs outcome).signal = .ok asked) : asked = signal := by
  obtain ⟨result, b⟩ := outcome
  cases result <;> cases h
  rfl

/-- A service that does not fail goes on, except for the one that stops. -/
theorem signal_perform {service : Service} {asked : Signal}
    (h : (service.perform regs bus).signal = .ok asked) :
    asked = if service = .halt then .halt else .proceed := by
  cases service with
  | getc | echo =>
    simp only [perform] at h
    repeat' split at h
    all_goals
      cases h
      try rfl
  | out | puts | putsp | halt => exact signal_settle _ h

theorem ofVector_eq_halt {vector : UInt8} :
    ofVector vector = some .halt ↔ vector.toNat = 0x25 := by
  rw [ofVector]
  split <;> simp_all

theorem signal_call {vector : UInt8} {asked : Signal}
    (h : (call vector regs bus).signal = .ok asked) :
    asked = if vector.toNat = 0x25 then .halt else .proceed := by
  simp only [call] at h
  split at h
  · next hnone =>
    cases h
    rw [if_neg]
    intro hvector
    rw [ofVector_eq_halt.mpr hvector] at hnone
    cases hnone
  · next service hsome =>
    rw [signal_perform _ _ h]
    simp only [← ofVector_eq_halt, hsome, Option.some.injEq]

end Service

namespace Instruction

/-- What an instruction asks for when it does not fail. -/
def asks : Instruction → Signal
  | trap vector => if vector.toNat = 0x25 then .halt else .proceed
  | rti => .abort .rti
  | reserved => .abort .reserved
  | _ => .proceed

@[simp] theorem asks_trap (vector : UInt8) :
    (trap vector).asks = if vector.toNat = 0x25 then .halt else .proceed := rfl

variable [Handler δ] (regs : Registers) (bus : Bus κ δ)

theorem signal_execute {i : Instruction} {asked : Signal}
    (h : (i.execute regs bus).signal = .ok asked) : asked = i.asks := by
  cases i with
  | trap vector => exact Service.signal_call _ _ h
  | _ =>
    cases h
    rfl

/-- An instruction that stops the processor for good does nothing else. -/
theorem execute_of_abort {i : Instruction} {opcode : BadOpcode} (h : i.asks = .abort opcode) :
    i.execute regs bus = ⟨.ok (.abort opcode), regs, bus⟩ := by
  cases i with
  | rti | reserved =>
    cases h
    rfl
  | trap vector =>
    rw [asks_trap] at h
    split at h <;> cases h
  | _ => cases h

theorem eq_trap_of_halt {i : Instruction} (h : i.asks = .halt) : i = .trap 0x25 := by
  cases i with
  | trap vector =>
    rw [asks_trap] at h
    split at h
    · next hvector => rw [show vector = 0x25 from UInt8.toNat_inj.mp hvector]
    · cases h
  | _ => cases h

theorem regs_halt : ((trap 0x25).execute regs bus).regs = regs.set Reg.link regs.pc := by
  show (Service.settle .halt .halt (regs.set Reg.link regs.pc)
    ((Console.flush bus.console).1, _)).regs = _
  cases (Console.flush bus.console).1 <;> rfl

/-- `HALT` makes all output visible before it asks to stop. -/
theorem signal_halt :
    ((trap 0x25).execute regs bus).signal =
      match (Console.flush bus.console).1 with
      | .ok () => .ok .halt
      | .error cause => .error ⟨.halt, cause⟩ := by
  show (Service.settle .halt .halt (regs.set Reg.link regs.pc)
    ((Console.flush bus.console).1, _)).signal = _
  cases (Console.flush bus.console).1 <;> rfl

/-- What a word asks for, by its digits. -/
theorem asks_decode (w : Word) :
    (decode w).asks =
      if IsHalt w then .halt
      else match w.toNat / 4096 with
        | 8 => .abort .rti
        | 13 => .abort .reserved
        | _ => .proceed := by
  have hw := w.toNat_lt
  have hdigit : w.toNat / 4096 < 16 := by omega
  rw [decode_eq]
  simp only [IsHalt, ← toNat_lowByte]
  generalize w.toNat / 4096 = digit at hdigit ⊢
  match digit, hdigit with
  | 4, _ => simp only; split <;> rfl
  | 15, _ => simp
  | 0, _ | 1, _ | 2, _ | 3, _ | 5, _ | 6, _ | 7, _ | 8, _ | 9, _ | 10, _ | 11, _ | 12, _ | 13, _
  | 14, _ => rfl
  | digit + 16, h => omega

theorem asks_decode_eq_halt {w : Word} : (decode w).asks = .halt ↔ IsHalt w := by
  rw [asks_decode]
  split
  · next h => simp [h]
  · next h =>
    split <;> simp [h]

theorem asks_decode_eq_abort {w : Word} {opcode : BadOpcode} :
    (decode w).asks = .abort opcode ↔ w.toNat / 4096 = opcode.code := by
  rw [asks_decode]
  split
  · next h => cases opcode <;> simp [h.1, BadOpcode.code]
  · split
    · next h => cases opcode <;> simp [h, BadOpcode.code]
    · next h => cases opcode <;> simp [h, BadOpcode.code]
    · next h₈ h₁₃ =>
      cases opcode
      · simpa [BadOpcode.code] using h₈
      · simpa [BadOpcode.code] using h₁₃

end Instruction

/-! ## Steps -/

namespace Cpu

variable [Handler δ]

/-- A processor that has stopped does nothing. -/
theorem step_of_stopped {c : Cpu} (h : c.state ≠ .running) (bus : Bus κ δ) :
    c.step bus = ⟨.ok (.stopped c.state), c, bus⟩ := by
  rw [step, if_neg h]

/-- **The end of a step**: a running processor goes on, with an instruction executed or a service
failed, or it is stopped by `HALT`, or it is stopped for good by an operation that it does not
have, which changes nothing else. -/
theorem step_cases {c : Cpu} (h : c.state = .running) (bus : Bus κ δ) :
    let word := (bus.read c.regs.pc).1
    let stepped := c.step bus
    (∃ regs, stepped.result = .ok .retired ∧
      stepped.cpu = { c with regs, steps := c.steps + 1 }) ∨
    (∃ regs fault, stepped.result = .error fault ∧ stepped.cpu = { c with regs }) ∨
    (∃ regs, IsHalt word ∧ stepped.result = .ok (.stopped .halted) ∧
      stepped.cpu = { c with regs, steps := c.steps + 1, state := .halted }) ∨
    (∃ opcode, word.toNat / 4096 = opcode.code ∧ stepped.result = .ok (.stopped .aborted) ∧
      stepped.cpu =
        { c with
          regs.pc := c.regs.pc + 1
          steps := c.steps + 1
          state := .aborted
          fault := some ⟨opcode, c.regs.pc⟩ }) := by
  intro word stepped
  have hstepped : stepped = _ := step_of_running h bus
  generalize heffect : (Instruction.decode word).execute { c.regs with pc := c.regs.pc + 1 }
    (c.fetched bus) = effect at hstepped
  rw [hstepped, finish]
  cases hsignal : effect.signal with
  | error fault => exact .inr (.inl ⟨effect.regs, fault, rfl, rfl⟩)
  | ok signal =>
    have hasks : signal = (Instruction.decode word).asks := by
      rw [← heffect] at hsignal
      exact Instruction.signal_execute _ _ hsignal
    cases signal with
    | proceed => exact .inl ⟨effect.regs, rfl, rfl⟩
    | halt =>
      have hword : IsHalt word := Instruction.asks_decode_eq_halt.mp hasks.symm
      exact .inr (.inr (.inl ⟨effect.regs, hword, rfl, rfl⟩))
    | abort opcode =>
      rw [Instruction.execute_of_abort _ _ hasks.symm] at heffect
      refine .inr (.inr (.inr ⟨opcode, Instruction.asks_decode_eq_abort.mp hasks.symm, rfl, ?_⟩))
      rw [← heffect]
      rfl

/-! ## The life of a processor -/

/-- What can happen to a processor: a step over some bus, a reset, or a word on whether to report
every instruction. -/
inductive Call : Type 1 where
  /-- One step. The buses of two steps need have nothing in common. -/
  | step {κ δ : Type} [Console κ] [Handler δ] (bus : Bus κ δ)
  /-- A reset to an address. -/
  | reset (pc : Word)
  /-- Whether to report. -/
  | setTrace (on : Bool)

/-- The call is a reset. -/
def Call.IsReset : Call → Prop
  | reset _ => True
  | _ => False

/-- The call is a step, and the word that it fetches is in `P`. -/
def Call.Fetches (x : Call) (c : Cpu) (P : Word → Prop) : Prop :=
  match x with
  | @Call.step _ _ _ _ bus => P (bus.read c.regs.pc).1
  | _ => False

/-- The processor after a call. -/
def perform (c : Cpu) : Call → Cpu
  | @Call.step _ _ _ _ bus => (c.step bus).cpu
  | .reset pc => c.reset pc
  | .setTrace on => { c with trace := on }

/-- The processor after calls, one after the other. -/
def after (c : Cpu) : List Call → Cpu
  | [] => c
  | x :: rest => (c.perform x).after rest

/-- A fault is on record exactly while the processor is aborted. -/
def Recorded (c : Cpu) : Prop := c.fault.isSome ↔ c.state = .aborted

theorem recorded_perform {c : Cpu} (h : c.Recorded) (x : Call) : (c.perform x).Recorded := by
  cases x with
  | step bus =>
    show (c.step bus).cpu.Recorded
    by_cases hrun : c.state = .running
    · have hnone : ¬ c.fault.isSome := fun hsome => by
        rw [h.mp hsome] at hrun
        cases hrun
      obtain ⟨_, -, hcpu⟩ | ⟨_, _, -, hcpu⟩ | ⟨_, -, -, hcpu⟩ | ⟨_, -, -, hcpu⟩ :=
        step_cases hrun bus
      all_goals rw [hcpu]
      · exact h
      · exact h
      · simpa [Recorded] using hnone
      · simp [Recorded]
    · rw [step_of_stopped hrun]
      exact h
  | reset pc => simp [perform, reset, start, Recorded]
  | setTrace on => exact h

theorem recorded_after {c : Cpu} (h : c.Recorded) (calls : List Call) :
    (c.after calls).Recorded := by
  induction calls generalizing c with
  | nil => exact h
  | cons x rest ih => exact ih (recorded_perform h x)

/-- The fault `f` was put on record by a step among the calls, with no reset since: the processor
was running then, and the step fetched from the address in `f` a word with the operation in
`f`. -/
def AbortsIn (c : Cpu) (calls : List Call) (f : Fault) : Prop :=
  ∃ earlier x later, calls = earlier ++ x :: later ∧ (∀ y ∈ later, ¬ y.IsReset) ∧
    (c.after earlier).state = .running ∧ (c.after earlier).regs.pc = f.pc ∧
    x.Fetches (c.after earlier) fun word => word.toNat / 4096 = f.opcode.code

/-- **History of a fault**: it was on record before, or it was put there by a step. -/
theorem abortsIn_of_fault {c : Cpu} {calls : List Call} {f : Fault}
    (h : (c.after calls).fault = some f) :
    (c.fault = some f ∧ ∀ x ∈ calls, ¬ x.IsReset) ∨ c.AbortsIn calls f := by
  induction calls generalizing c with
  | nil => exact .inl ⟨h, by simp⟩
  | cons x rest ih =>
    obtain ⟨hfault, hrest⟩ | ⟨earlier, y, later, rfl, hlater, hstep⟩ := ih h
    · -- the fault is on record after the first call
      have hkept (heq : c.fault = some f) (hx : ¬ x.IsReset) :
          c.fault = some f ∧ ∀ y ∈ x :: rest, ¬ y.IsReset :=
        ⟨heq, List.forall_mem_cons.mpr ⟨hx, hrest⟩⟩
      cases x with
      | step bus =>
        by_cases hrun : c.state = .running
        · obtain ⟨_, -, hcpu⟩ | ⟨_, _, -, hcpu⟩ | ⟨_, -, -, hcpu⟩ | ⟨opcode, hword, -, hcpu⟩ :=
            step_cases hrun bus
          all_goals rw [perform, hcpu] at hfault
          · exact .inl (hkept hfault id)
          · exact .inl (hkept hfault id)
          · exact .inl (hkept hfault id)
          · obtain rfl := Option.some.inj hfault
            exact .inr ⟨[], .step bus, rest, rfl, hrest, hrun, rfl, hword⟩
        · rw [perform, step_of_stopped hrun] at hfault
          exact .inl (hkept hfault id)
      | reset pc => cases hfault
      | setTrace on => exact .inl (hkept hfault id)
    · exact .inr ⟨x :: earlier, y, later, rfl, hlater, hstep⟩

/-- What a call makes of a running processor. -/
theorem perform_cases {c : Cpu} (h : c.state = .running) (x : Call) :
    (c.perform x).state = .running ∨
    ((c.perform x).state = .halted ∧ x.Fetches c IsHalt) ∨
    ((c.perform x).state = .aborted ∧ x.Fetches c IsMissing ∧
      (c.perform x).regs.general = c.regs.general ∧ (c.perform x).regs.cond = c.regs.cond) := by
  cases x with
  | step bus =>
    rw [perform]
    obtain ⟨_, -, hcpu⟩ | ⟨_, _, -, hcpu⟩ | ⟨_, hword, -, hcpu⟩ | ⟨opcode, hword, -, hcpu⟩ :=
      step_cases h bus
    all_goals rw [hcpu]
    · exact .inl h
    · exact .inl h
    · exact .inr (.inl ⟨rfl, hword⟩)
    · exact .inr (.inr ⟨rfl, BadOpcode.isMissing hword, rfl, rfl⟩)
  | reset pc => exact .inl rfl
  | setTrace on => exact .inl h

/-- Only a reset makes a stopped processor run. -/
theorem isReset_of_running {c : Cpu} (h : c.state ≠ .running) {x : Call}
    (hrun : (c.perform x).state = .running) : x.IsReset := by
  cases x with
  | step bus =>
    rw [perform, step_of_stopped h] at hrun
    exact absurd hrun h
  | reset pc => trivial
  | setTrace on => exact absurd hrun h

/-! ## Halting -/

omit [Handler δ] in
/-- `HALT` stores nothing. -/
theorem store?_of_isHalt {c : Cpu} {bus : Bus κ δ} (hword : IsHalt (bus.read c.regs.pc).1) :
    c.store? bus = none := by
  by_cases hrun : c.state = .running
  · rw [store?_of_running hrun,
      Instruction.eq_trap_of_halt (Instruction.asks_decode_eq_halt.mpr hword)]
    rfl
  · rw [store?, if_neg hrun]

/-- The service that stops flushes the console first, and the processor stops only if that
works. Either way the return address is kept. -/
theorem step_of_isHalt {c : Cpu} (h : c.state = .running) {bus : Bus κ δ}
    (hword : IsHalt (bus.read c.regs.pc).1) :
    let stepped := c.step bus
    stepped.cpu.regs = { c.regs.set Reg.link (c.regs.pc + 1) with pc := c.regs.pc + 1 } ∧
    match (Console.flush (bus.read c.regs.pc).2.console).1 with
    | .ok () => stepped.result = .ok (.stopped .halted) ∧ stepped.cpu.state = .halted
    | .error cause =>
      stepped.result = .error ⟨.halt, cause⟩ ∧ stepped.cpu.state = .running ∧
        stepped.cpu.steps = c.steps := by
  intro stepped
  have hdecode := Instruction.eq_trap_of_halt (Instruction.asks_decode_eq_halt.mpr hword)
  have hstepped : stepped = _ := step_of_running h bus
  have hregs := Instruction.regs_halt { c.regs with pc := c.regs.pc + 1 } (c.fetched bus)
  have hsignal := Instruction.signal_halt { c.regs with pc := c.regs.pc + 1 } (c.fetched bus)
  have hconsole : (c.fetched bus).console = (bus.read c.regs.pc).2.console := by
    simp only [fetched]
    split <;> rfl
  rw [← hdecode] at hregs hsignal
  rw [hconsole] at hsignal
  rw [hstepped, finish, hsignal]
  cases (Console.flush (bus.read c.regs.pc).2.console).1 with
  | ok done => exact ⟨hregs, rfl, rfl⟩
  | error cause => exact ⟨hregs, rfl, h, rfl⟩

/-- Behind `HALT` stands the word that stood there before. -/
theorem read_behind_halt {c : Cpu} (h : c.state = .running) {bus : Bus κ δ}
    (hword : IsHalt (bus.read c.regs.pc).1) (hpc : Bus.OffKeyboard (c.regs.pc + 1)) :
    let stepped := c.step bus
    stepped.bus.read stepped.cpu.regs.pc = (bus.memory.get (c.regs.pc + 1), stepped.bus) := by
  intro stepped
  have hnext : stepped.cpu.regs.pc = c.regs.pc + 1 :=
    congrArg Registers.pc (step_of_isHalt h hword).1
  rw [hnext, Bus.read_of_ne stepped.bus hpc.1,
    (onlyPolled_of_store?_none (store?_of_isHalt hword)).memory _ hpc]

end Cpu

end LC3
