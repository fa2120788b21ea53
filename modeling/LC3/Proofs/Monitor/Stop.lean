import LC3.Monitor
import LC3.Proofs.Cpu.Stop

/-!
# Stopped machines

A machine is made to go on by steps and by runs, with or without a budget. Once its processor has
stopped, none of them does anything but report that a run begins: only a reset helps.

- `Monitor.Drive`, `Monitor.drives`: steps and runs as data, and what becomes of a list of them.
- `Monitor.drives_of_stopped`: a stopped machine answers all of them with the state it is in.
- `Cpu.lifecycle`: the life of a processor from start to stop and from reset to reset.
- `Cpu.stops_iff_flushed`: `HALT` stops the processor exactly when the console can be flushed.
-/

namespace LC3

/-- The state of the processor that a step reports. -/
def StepResult.state : StepResult → RunState
  | .retired => .running
  | .stopped state => state

namespace Monitor

/-- The ways to make a machine go on. -/
inductive Drive where
  /-- One instruction. -/
  | step
  /-- At most so many instructions. -/
  | runFor (budget : Nat)
  /-- Instructions until the machine stops, cut short after so many. -/
  | run (fuel : Nat)

variable {κ : Type}

/-- The machine with other reports. -/
def withJournal (v : Monitor κ) (journal : Journal) : Monitor κ :=
  { v with bus := { v.bus with journal } }

variable [Console κ]

/-- Make a machine go on. -/
def drive (v : Monitor κ) : Drive → Except ConsoleFault RunState × Monitor κ
  | .step =>
    let (result, v) := v.step
    (result.map StepResult.state, v)
  | .runFor budget => v.runFor budget
  | .run fuel => v.run fuel

/-- Make a machine go on again and again: what is answered, and the machine after all. -/
def drives (v : Monitor κ) : List Drive → List (Except ConsoleFault RunState) × Monitor κ
  | [] => ([], v)
  | d :: rest =>
    let (result, v) := v.drive d
    let (results, v) := v.drives rest
    (result :: results, v)

variable {v : Monitor κ}

theorem step_of_stopped (h : v.cpu.state ≠ .running) :
    v.step = (.ok (.stopped v.cpu.state), v) := by
  rw [step, Cpu.step_of_stopped h]

theorem runFor_of_stopped (h : v.cpu.state ≠ .running) (budget : Nat) :
    v.runFor budget = (.ok v.cpu.state, v) := by
  cases budget with
  | zero => rfl
  | succ budget => rw [runFor, step_of_stopped h]

/-- **Stopped machines**: whatever is asked of them, they stay as they are. -/
theorem drive_of_stopped (h : v.cpu.state ≠ .running) (d : Drive) :
    ∃ journal, v.drive d = (.ok v.cpu.state, v.withJournal journal) := by
  cases d with
  | step =>
    refine ⟨v.bus.journal, ?_⟩
    rw [drive, step_of_stopped h]
    rfl
  | runFor budget => exact ⟨v.bus.journal, runFor_of_stopped h budget⟩
  | run fuel => exact ⟨_, runFor_of_stopped (v := v.announced) h fuel⟩

theorem drives_of_stopped (h : v.cpu.state ≠ .running) (ds : List Drive) :
    ∃ journal, v.drives ds =
      (List.replicate ds.length (.ok v.cpu.state), v.withJournal journal) := by
  induction ds generalizing v with
  | nil => exact ⟨v.bus.journal, rfl⟩
  | cons d rest ih =>
    obtain ⟨journal, hfirst⟩ := drive_of_stopped h d
    obtain ⟨journal', hrest⟩ := ih (v := v.withJournal journal) h
    refine ⟨journal', ?_⟩
    simp only [drives, hfirst, hrest]
    rfl

end Monitor

namespace Cpu

/-- The processor has stopped, and whatever is asked of it or of a machine that it is part of,
they stay as they are. -/
def IsStuck (c : Cpu) : Prop :=
  c.state ≠ .running ∧
    (∀ {κ δ : Type} [Console κ] [Handler δ] (bus : Bus κ δ),
      c.step bus = ⟨.ok (.stopped c.state), c, bus⟩) ∧
    ∀ {κ : Type} [Console κ] (v : Monitor κ), v.cpu = c → ∀ ds, ∃ journal,
      v.drives ds = (List.replicate ds.length (.ok c.state), v.withJournal journal)

theorem isStuck_of_stopped {c : Cpu} (h : c.state ≠ .running) : c.IsStuck := by
  refine ⟨h, fun bus => step_of_stopped h bus, ?_⟩
  rintro κ _ v rfl ds
  exact Monitor.drives_of_stopped h ds

/-- **The life of a processor**: in whatever way it came about, a fault is on record exactly while
the processor is aborted, and it names the instruction that aborted it. A running processor is
halted by nothing but `HALT` and aborted by nothing but an operation that it does not have, which
leaves the general registers and the condition code. A processor that has stopped stays as it is
and makes every machine stay as it is, until a reset starts it afresh. -/
theorem lifecycle (pc : Word) (calls : List Call) :
    let c := (start pc).after calls
    (c.fault.isSome ↔ c.state = .aborted) ∧
    (∀ f, c.fault = some f → (start pc).AbortsIn calls f) ∧
    (c.state = .running → ∀ x,
      ((c.perform x).state = .halted → x.Fetches c IsHalt) ∧
      ((c.perform x).state = .aborted →
        x.Fetches c IsMissing ∧ (c.perform x).regs.general = c.regs.general ∧
          (c.perform x).regs.cond = c.regs.cond)) ∧
    (c.state ≠ .running → c.IsStuck ∧ ∀ x, (c.perform x).state = .running → x.IsReset) ∧
    ∀ pc', c.reset pc' = ⟨⟨pc', .replicate 8 0, .positive⟩, .running, 0, c.trace, none⟩ ∧
      ∀ {κ : Type} (v : Monitor κ), v.cpu = c → v.reset = { v with cpu := c.reset v.pcStart } := by
  intro c
  have hrecorded : (start pc).Recorded := by simp [Recorded, start]
  refine ⟨recorded_after hrecorded calls, fun f hf => ?_, fun hrun x => ?_,
    fun hstopped => ⟨isStuck_of_stopped hstopped, fun x => isReset_of_running hstopped⟩,
    fun pc' => ⟨rfl, ?_⟩⟩
  · obtain ⟨hstart, -⟩ | haborts := abortsIn_of_fault hf
    · cases hstart
    · exact haborts
  · obtain hstate | ⟨hstate, hword⟩ | ⟨hstate, hrest⟩ := perform_cases hrun x
    · simp [hstate]
    · simp [hstate, hword]
    · simp [hstate, hrest]
  · intro κ v hv
    rw [← hv]
    rfl

/-- A processor that meets `RTI` at its first step is aborted and stays so until it is reset. -/
theorem lifecycle_rti :
    let bus : Bus BufferConsole Device :=
      (Bus.ofConsole (.ofInput []) .silent).mapMemory (·.set 0x3000 0x8000)
    let c := (start 0x3000).after [.step bus]
    c.state = .aborted ∧ c.fault.isSome ∧ (start 0x3000).AbortsIn [.step bus] ⟨.rti, 0x3000⟩ ∧
      c.IsStuck ∧ (c.reset 0x4000).state = .running := by
  -- all that matters of the bus is the word that is fetched
  have hlife : ∀ bus : Bus BufferConsole Device, bus.memory.get 0x3000 = 0x8000 →
      let c := (start 0x3000).after [.step bus]
      c.state = .aborted ∧ c.fault.isSome ∧ (start 0x3000).AbortsIn [.step bus] ⟨.rti, 0x3000⟩ ∧
        c.IsStuck ∧ (c.reset 0x4000).state = .running := by
    intro bus hmemory c
    have hstep := step_of_running (c := start 0x3000) rfl bus
    have hfetch : (bus.read (start 0x3000).regs.pc).1 = 0x8000 :=
      (congrArg Prod.fst (bus.read_of_ne (a := 0x3000) (by decide))).trans hmemory
    have hdecode : Instruction.decode 0x8000 = .rti := by decide
    rw [hfetch, hdecode] at hstep
    have hstate : c.state = .aborted := congrArg (fun stepped => stepped.cpu.state) hstep
    have hrecord : c.fault = some ⟨.rti, 0x3000⟩ :=
      congrArg (fun stepped => stepped.cpu.fault) hstep
    obtain ⟨hfault, hhistory, -, hstopped, hreset⟩ := lifecycle 0x3000 [.step bus]
    refine ⟨hstate, hfault.mpr hstate, hhistory _ hrecord, (hstopped ?_).1, ?_⟩
    · rw [show (start 0x3000).after [.step bus] = c from rfl, hstate]
      decide
    · rw [(hreset 0x4000).1]
  exact hlife _ (Memory.get_set_self ..)

/-- **HALT stops a processor exactly when the console can be flushed.** A processor whose console
cannot be flushed runs on behind the instruction, which does not count as executed. -/
theorem stops_iff_flushed {κ δ : Type} [Console κ] [Handler δ] {c : Cpu}
    (hrun : c.state = .running) (bus : Bus κ δ) (hword : IsHalt (bus.read c.regs.pc).1) :
    let flushed := (Console.flush (bus.read c.regs.pc).2.console).1
    let stepped := c.step bus
    (stepped.cpu.state ≠ .running ↔ flushed = .ok ()) ∧
      (flushed = .ok () →
        stepped.result = .ok (.stopped .halted) ∧ stepped.cpu.state = .halted ∧
          stepped.cpu.IsStuck) ∧
      ∀ cause, flushed = .error cause →
        stepped.result = .error ⟨.halt, cause⟩ ∧ stepped.cpu.state = .running ∧
          stepped.cpu.regs.pc = c.regs.pc + 1 ∧ stepped.cpu.steps = c.steps := by
  intro flushed stepped
  obtain ⟨hregs, hstep⟩ := step_of_isHalt hrun hword
  have hpc : stepped.cpu.regs.pc = c.regs.pc + 1 := congrArg Registers.pc hregs
  generalize hflush : (Console.flush (bus.read c.regs.pc).2.console).1 = outcome at hstep
  rw [show flushed = outcome from hflush]
  cases outcome with
  | ok done =>
    obtain ⟨hresult, hstate⟩ := hstep
    have hstopped : stepped.cpu.state ≠ .running := by
      rw [hstate]
      decide
    refine ⟨⟨fun _ => rfl, fun _ => hstopped⟩, fun _ => ?_, fun cause hcause => ?_⟩
    · exact ⟨hresult, hstate, isStuck_of_stopped hstopped⟩
    · cases hcause
  | error cause =>
    obtain ⟨hresult, hstate, hsteps⟩ := hstep
    refine ⟨⟨fun hstopped => absurd hstate hstopped, fun hok => ?_⟩, fun hok => ?_, ?_⟩
    · cases hok
    · cases hok
    · rintro _ ⟨⟩
      exact ⟨hresult, hstate, hpc, hsteps⟩

/-- A processor at `HALT` on a console that works stops. -/
theorem stops_iff_flushed_buffer :
    let bus : Bus BufferConsole Device :=
      (Bus.ofConsole (.ofInput []) .silent).mapMemory (·.set 0x3000 0xF025)
    let stepped := (start 0x3000).step bus
    IsHalt (bus.read 0x3000).1 ∧ stepped.result = .ok (.stopped .halted) ∧
      stepped.cpu.IsStuck := by
  -- all that matters of the bus is the word that is fetched
  have hstep : ∀ bus : Bus BufferConsole Device, bus.memory.get 0x3000 = 0xF025 →
      IsHalt (bus.read 0x3000).1 ∧ ((start 0x3000).step bus).result = .ok (.stopped .halted) ∧
        ((start 0x3000).step bus).cpu.IsStuck := by
    intro bus hmemory
    have hword : IsHalt (bus.read 0x3000).1 := by
      rw [Bus.read_of_ne bus (by decide), hmemory]
      show IsHalt 0xF025
      decide
    obtain ⟨-, hhalted, -⟩ := stops_iff_flushed (c := start 0x3000) rfl bus hword
    obtain ⟨hresult, -, hstuck⟩ := hhalted rfl
    exact ⟨hword, hresult, hstuck⟩
  exact hstep _ (Memory.get_set_self ..)

/-- On a console that cannot be flushed, `HALT` does not stop the machine, and the instruction
behind it, `ADD R0, R0, #5`, is executed by the next step. -/
theorem runs_on_behind_halt :
    let console : Rationed BufferConsole := ⟨.ofInput [], none, none, none, some 0⟩
    let v := ((Monitor.start {} console .silent).loadWords 0x3000 [0xF025, 0x1025]).2
    let next := v.step.2
    v.cpu.state = .running ∧ IsHalt (v.bus.read v.cpu.regs.pc).1 ∧
      v.step.1 = .error ⟨.halt, .broken "flush"⟩ ∧ next.cpu.state = .running ∧
      next.step.1 = .ok .retired ∧ next.cpu.regs.get 0 = 0 ∧ next.step.2.cpu.regs.get 0 = 5 := by
  -- all that matters are the processor, the two words and that the console cannot be flushed
  have hsteps : ∀ v : Monitor (Rationed BufferConsole), v.cpu = start 0x3000 →
      v.bus.memory.get 0x3000 = 0xF025 → v.bus.memory.get 0x3001 = 0x1025 →
      (Console.flush v.bus.console).1 = .error (.broken "flush") →
      let next := v.step.2
      v.cpu.state = .running ∧ IsHalt (v.bus.read v.cpu.regs.pc).1 ∧
        v.step.1 = .error ⟨.halt, .broken "flush"⟩ ∧ next.cpu.state = .running ∧
        next.step.1 = .ok .retired ∧ next.cpu.regs.get 0 = 0 ∧
        next.step.2.cpu.regs.get 0 = 5 := by
    rintro ⟨_, bus, pcStart, driver⟩ rfl hhalt hadd hflush next
    have hfetch : bus.read 0x3000 = (0xF025, bus) := by
      rw [Bus.read_of_ne bus (by decide), hhalt]
    have hword : IsHalt (bus.read 0x3000).1 := by
      rw [hfetch]
      show IsHalt 0xF025
      decide
    obtain ⟨hregs, hend⟩ := step_of_isHalt (c := start 0x3000) rfl hword
    rw [show bus.read (start 0x3000).regs.pc = _ from hfetch, hflush] at hend
    obtain ⟨hresult, hrun, -⟩ := hend
    have hnext : next.bus.read next.cpu.regs.pc = (0x1025, next.bus) :=
      (read_behind_halt (c := start 0x3000) rfl hword ⟨by decide, by decide⟩).trans
        (congrArg (·, next.bus) hadd)
    have hdecode : Instruction.decode 0x1025 = .add 0 0 (.immediate 5) := by decide
    have hsecond := step_of_running (c := next.cpu) hrun next.bus
    rw [hnext, hdecode] at hsecond
    have hzero : next.cpu.regs.get 0 = 0 := by
      rw [show next.cpu.regs = _ from hregs]
      decide
    have hfive : (Instruction.arithmetic { next.cpu.regs with pc := next.cpu.regs.pc + 1 }
        (.add 0 0 (.immediate 5))).get 0 = 5 := by
      rw [show next.cpu.regs = _ from hregs]
      decide
    have hregs₂ := congrArg (fun stepped => stepped.cpu.regs.get 0) hsecond
    exact ⟨rfl, hword, hresult, hrun, congrArg Stepped.result hsecond, hzero, hregs₂.trans hfive⟩
  intro console v next
  have hmemory : v.bus.memory = ((Ring.standard.init .zero).set 0x3000 0xF025).set 0x3001 0x1025 :=
    rfl
  have hhalt : v.bus.memory.get 0x3000 = 0xF025 := by
    rw [hmemory, Memory.get_set_other (by decide), Memory.get_set_self]
  have hadd : v.bus.memory.get 0x3001 = 0x1025 := by
    rw [hmemory, Memory.get_set_self]
  exact hsteps v rfl hhalt hadd rfl

end Cpu

end LC3
