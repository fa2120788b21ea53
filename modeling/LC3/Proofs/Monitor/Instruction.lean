import LC3.Monitor
import LC3.Proofs.Cpu.Accesses

/-!
# One instruction

What becomes of a machine is told instruction by instruction, for programs whose words are known.
The word that comes next is looked up in memory, so it must not lie where a fetch would ask for a
key.

- `Memory.get_of_readSlice`: the words of a program.
- `Monitor.Next`: what a machine executes next.
- `Monitor.Moves`: what becomes of it when nothing is stored, with one lemma for each kind of
  instruction that a program here uses.
- `Monitor.Next.sti`: a store through a pointer.
-/

namespace LC3

/-- The words of a program that lies in memory, one by one. -/
theorem Memory.get_of_readSlice {m : Memory} {a : Word} {n : Nat} {words : List Word}
    (h : m.readSlice a n = words) {k : Nat} (hk : k < n) :
    m.get (a + UInt16.ofNat k) = words.getD k 0 := by
  rw [← h, readSlice, List.getD_eq_getElem?_getD, List.getElem?_map, List.getElem?_range hk]
  rfl

namespace Monitor

variable {κ : Type}

/-- A running machine executes `i` next, and it does not fetch `i` from the keyboard status. -/
structure Next (v : Monitor κ) (i : Instruction) : Prop where
  /-- The machine runs. -/
  running : v.cpu.state = .running
  /-- To fetch does not ask for a key. -/
  unpolled : v.cpu.regs.pc ≠ keyboardStatus
  /-- The instruction is in memory. -/
  decode : Instruction.decode (v.bus.memory.get v.cpu.regs.pc) = i

/-- Executing an instruction leads from `v` to `w`, with nothing stored. -/
structure Moves [Console κ] (v w : Monitor κ) (pc : Word) (console : κ) : Prop where
  /-- The instruction is executed and the next one may follow. -/
  retired : v.step = (.ok .retired, w)
  /-- The machine still runs. -/
  running : w.cpu.state = .running
  /-- It goes on at `pc`. -/
  pc : w.cpu.regs.pc = pc
  /-- The memory is the old one. -/
  memory : w.bus.memory = v.bus.memory
  /-- The console is the one given. -/
  console : w.bus.console = console
  /-- The instruction is counted. -/
  steps : w.cpu.steps = v.cpu.steps + 1

variable [Console κ] {v : Monitor κ} {i : Instruction}

/-- A step is the instruction that comes next, on a bus with one more report at most. -/
theorem Next.step (h : v.Next i) : ∃ journal, v.cpu.step v.bus =
    v.cpu.finish v.cpu.regs.pc (v.bus.memory.get v.cpu.regs.pc)
      (i.execute { v.cpu.regs with pc := v.cpu.regs.pc + 1 } { v.bus with journal }) := by
  have hread := v.bus.read_of_ne h.unpolled
  obtain ⟨journal, hfetched⟩ : ∃ journal, v.cpu.fetched v.bus = { v.bus with journal } := by
    rw [Cpu.fetched, hread]
    split
    · exact ⟨_, rfl⟩
    · exact ⟨_, rfl⟩
  exact ⟨journal, by rw [Cpu.step_of_running h.running, hread, h.decode, hfetched]⟩

/-- An instruction that proceeds and stores nothing. -/
theorem Next.moves (h : v.Next i) {regs : Registers} {console : κ}
    (heffect : ∀ journal,
      i.execute { v.cpu.regs with pc := v.cpu.regs.pc + 1 } { v.bus with journal } =
        ⟨.ok .proceed, regs, { v.bus with journal, console }⟩) :
    ∃ w, v.Moves w regs.pc console ∧ w.cpu.regs = regs := by
  obtain ⟨journal, hstep⟩ := h.step
  rw [heffect] at hstep
  refine ⟨v.step.2, ⟨Prod.ext ?_ rfl, ?_, ?_, ?_, ?_, ?_⟩, ?_⟩
  · exact congrArg Cpu.Stepped.result hstep
  · exact (congrArg (·.cpu.state) hstep).trans h.running
  · exact congrArg (·.cpu.regs.pc) hstep
  · exact congrArg (·.bus.memory) hstep
  · exact congrArg (·.bus.console) hstep
  · exact congrArg (·.cpu.steps) hstep
  · exact congrArg (·.cpu.regs) hstep

/-- A branch goes on behind itself or elsewhere. -/
theorem Next.branch {mask offset : Word} (h : v.Next (.br mask offset)) :
    ∃ w, v.Moves w (if v.cpu.regs.cond.isIn mask then v.cpu.regs.pc + 1 + offset
      else v.cpu.regs.pc + 1) v.bus.console ∧ w.cpu.regs.get Reg.r0 = v.cpu.regs.get Reg.r0 := by
  have hcontrol : Instruction.control { v.cpu.regs with pc := v.cpu.regs.pc + 1 }
      (.br mask offset) = { v.cpu.regs with pc := if v.cpu.regs.cond.isIn mask then
        v.cpu.regs.pc + 1 + offset else v.cpu.regs.pc + 1 } := by
    rw [Instruction.control]
    split <;> rfl
  obtain ⟨w, hmoves, hregs⟩ := h.moves (fun _ => congrArg (Effect.mk _ · _) hcontrol)
  refine ⟨w, hmoves, ?_⟩
  rw [hregs]
  rfl

/-- A load takes a word from beside the program. -/
theorem Next.ld {dr : Reg} {offset : Word} (h : v.Next (.ld dr offset))
    (hkey : v.cpu.regs.pc + 1 + offset ≠ keyboardStatus) :
    ∃ w, v.Moves w (v.cpu.regs.pc + 1) v.bus.console ∧ ∀ r, w.cpu.regs.get r =
      if r = dr then v.bus.memory.get (v.cpu.regs.pc + 1 + offset) else v.cpu.regs.get r := by
  let regs := { v.cpu.regs with pc := v.cpu.regs.pc + 1 }.assign dr
    (v.bus.memory.get (v.cpu.regs.pc + 1 + offset))
  obtain ⟨w, hmoves, hregs⟩ : ∃ w, v.Moves w regs.pc v.bus.console ∧ w.cpu.regs = regs := by
    refine h.moves fun journal => ?_
    have hread := Bus.read_of_ne { v.bus with journal } hkey
    simp only [Instruction.execute, Instruction.group, Instruction.access, Instruction.load, hread,
      regs]
  refine ⟨w, hmoves, fun r => ?_⟩
  rw [hregs]
  exact Registers.get_assign ..

/-- A store through a pointer is the store of the register to where the pointer leads. -/
theorem Next.sti {sr : Reg} {offset : Word} (h : v.Next (.sti sr offset))
    (hkey : v.cpu.regs.pc + 1 + offset ≠ keyboardStatus) :
    ∃ journal, v.step = (.ok .retired,
      { v with
        cpu := { v.cpu with
          regs := { v.cpu.regs with pc := v.cpu.regs.pc + 1 }, steps := v.cpu.steps + 1 }
        bus := { v.bus with journal }.write (v.bus.memory.get (v.cpu.regs.pc + 1 + offset))
          (v.cpu.regs.get sr) }) := by
  obtain ⟨journal, hstep⟩ := h.step
  have hread := Bus.read_of_ne { v.bus with journal } hkey
  simp only [Instruction.execute, Instruction.group, Instruction.access, hread] at hstep
  refine ⟨journal, ?_⟩
  rw [Monitor.step, hstep]
  rfl

section Buffer

variable {v : Monitor BufferConsole}

/-- `GETC` takes the next byte. -/
theorem Next.getc (h : v.Next (.trap 0x20)) :
    ∃ w, v.Moves w (v.cpu.regs.pc + 1) v.bus.console.take.2 ∧
      w.cpu.regs.get Reg.r0 = inputWord v.bus.console.take.1 ∧
      w.cpu.regs.cond = .ofWord (inputWord v.bus.console.take.1) := by
  let regs := v.cpu.calling.assign Reg.r0 (inputWord v.bus.console.take.1)
  have hr0 : regs.get Reg.r0 = inputWord v.bus.console.take.1 := Registers.get_assign ..
  obtain ⟨w, hmoves, hregs⟩ : ∃ w, v.Moves w regs.pc v.bus.console.take.2 ∧ w.cpu.regs = regs :=
    h.moves fun _ => rfl
  refine ⟨w, hmoves, ?_, ?_⟩
  · rw [hregs, hr0]
  · rw [hregs, ← hr0]
    rfl

/-- `OUT` writes the byte in register 0. -/
theorem Next.out (h : v.Next (.trap 0x21)) :
    ∃ w, v.Moves w (v.cpu.regs.pc + 1)
      (v.bus.console.put [lowByte (v.cpu.regs.get Reg.r0)]) := by
  have heffect (journal : Journal) : (Instruction.trap 0x21).execute
      { v.cpu.regs with pc := v.cpu.regs.pc + 1 } { v.bus with journal } =
        ⟨.ok .proceed, v.cpu.calling, { v.bus with
          journal
          console := v.bus.console.put [lowByte (v.cpu.calling.get Reg.r0)] }⟩ := rfl
  have hr0 : v.cpu.calling.get Reg.r0 = v.cpu.regs.get Reg.r0 := v.cpu.get_calling _
  obtain ⟨w, hmoves, -⟩ := h.moves heffect
  rw [← hr0]
  exact ⟨w, hmoves⟩

/-- `HALT` stops the machine. -/
theorem Next.halt (h : v.Next (.trap 0x25)) :
    ∃ w, v.step = (.ok (.stopped .halted), w) ∧ w.bus.console = v.bus.console ∧
      w.cpu.regs.get Reg.r0 = v.cpu.regs.get Reg.r0 ∧ w.cpu.steps = v.cpu.steps + 1 := by
  have hr0 : v.cpu.calling.get Reg.r0 = v.cpu.regs.get Reg.r0 := v.cpu.get_calling _
  obtain ⟨journal, hstep⟩ := h.step
  refine ⟨v.step.2, Prod.ext ?_ rfl, ?_, ?_, ?_⟩
  · exact congrArg Cpu.Stepped.result hstep
  · exact congrArg (·.bus.console) hstep
  · exact (congrArg (·.cpu.regs.get Reg.r0) hstep).trans hr0
  · exact congrArg (·.cpu.steps) hstep

end Buffer

end Monitor

end LC3
