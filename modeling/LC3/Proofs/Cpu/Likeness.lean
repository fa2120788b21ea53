import LC3.Proofs.Bus.Quiet
import LC3.Proofs.Cpu.Store

/-!
# Steps on buses that are alike

Two buses are alike in some respect if they answer every access alike and are still alike after it.
A step makes no other use of a bus, so it does the same on both of them. Nor does it look at what
the processor counts and records.

- `Bus.Likeness`: relations of this kind. Buses that differ in their reports alone are alike
  (`likeness_quiet`).
- `Service.alike_perform`, `Instruction.alike_execute`: what an instruction leaves on buses that are
  alike.
- `Cpu.step_alike`: so it is with a step, also of two processors that differ in what they count,
  record and report.
- `Cpu.step_congr`: the same processor is left on both buses.
-/

namespace LC3

variable {κ δ : Type}

/-! ## Buses -/

/-- Related buses answer every access alike and stay related. What is reported makes no
difference. -/
structure Bus.Likeness [Console κ] [Handler δ] (R : Bus κ δ → Bus κ δ → Prop) : Prop where
  /-- Every word is the same. -/
  memory : ∀ {b b'}, R b b' → b.memory = b'.memory
  /-- Reports do not matter. -/
  reports : ∀ {b b'}, R b b' → ∀ es es', R (b.reportAll es) (b'.reportAll es')
  /-- Loads find the same. -/
  read : ∀ {b b'}, R b b' → ∀ a, (b.read a).1 = (b'.read a).1 ∧ R (b.read a).2 (b'.read a).2
  /-- Stores do the same. -/
  write : ∀ {b b'}, R b b' → ∀ a v, R (b.write a v) (b'.write a v)
  /-- Input is the same. -/
  readByte : ∀ {b b'}, R b b' → b.readByte.1 = b'.readByte.1 ∧ R b.readByte.2 b'.readByte.2
  /-- Output is made visible with the same result. -/
  flush : ∀ {b b'}, R b b' → b.flush.1 = b'.flush.1 ∧ R b.flush.2 b'.flush.2
  /-- Output is taken with the same result. -/
  emit : ∀ {b b'}, R b b' → ∀ bytes,
    (b.emit bytes).1 = (b'.emit bytes).1 ∧ R (b.emit bytes).2 (b'.emit bytes).2

/-- Buses that differ in their reports alone are alike. -/
theorem Bus.likeness_quiet [Console κ] [Handler δ] :
    Likeness fun b b' : Bus κ δ => b.quiet = b'.quiet where
  memory {b b'} h := by
    show b.quiet.memory = b'.quiet.memory
    rw [h]
  reports h _ _ := h
  read {b b'} h a := by
    have hread := congrArg (·.read a) h
    simp only [quiet_read] at hread
    exact Prod.mk.inj hread
  write {b b'} h a v := by
    rw [← quiet_write, h, quiet_write]
  readByte {b b'} h := by
    have hread := congrArg readByte h
    simp only [quiet_readByte] at hread
    exact Prod.mk.inj hread
  flush {b b'} h := by
    have hflush := congrArg flush h
    simp only [quiet_flush] at hflush
    exact Prod.mk.inj hflush
  emit {b b'} h bytes := by
    have hemit := congrArg (·.emit bytes) h
    simp only [quiet_emit] at hemit
    exact Prod.mk.inj hemit

/-- Answers that agree, and the buses that they leave. -/
theorem Bus.exists_answers {R : Bus κ δ → Bus κ δ → Prop} {ρ : Type} {o o' : ρ × Bus κ δ}
    (h : o.1 = o'.1 ∧ R o.2 o'.2) : ∃ result b b', o = (result, b) ∧ o' = (result, b') ∧ R b b' :=
  ⟨o.1, o.2, o'.2, rfl, Prod.ext h.1.symm rfl, h.2⟩

/-! ## Instructions -/

/-- Two instructions leave the same, on buses that are alike. -/
structure Effect.Alike (R : Bus κ δ → Bus κ δ → Prop) (e e' : Effect κ δ) : Prop where
  /-- They ask for the same, or fail alike. -/
  signal : e.signal = e'.signal
  /-- The registers are the same. -/
  regs : e.regs = e'.regs
  /-- The buses are alike. -/
  bus : R e.bus e'.bus

variable [Console κ] [Handler δ] {R : Bus κ δ → Bus κ δ → Prop} {b b' : Bus κ δ}

namespace Service

omit [Console κ] [Handler δ] in
theorem alike_settle (service : Service) (signal : Signal) (regs : Registers)
    {o o' : Except IoError Unit × Bus κ δ} (h : o.1 = o'.1 ∧ R o.2 o'.2) :
    (settle service signal regs o).Alike R (settle service signal regs o') := by
  obtain ⟨result, b, b', rfl, rfl, hbus⟩ := Bus.exists_answers h
  cases result with
  | ok _ => exact ⟨rfl, rfl, hbus⟩
  | error cause => exact ⟨rfl, rfl, hbus⟩

theorem alike_perform (hR : Bus.Likeness R) (h : R b b') (service : Service) (regs : Registers) :
    (service.perform regs b).Alike R (service.perform regs b') := by
  have hmemory := hR.memory h
  cases service with
  | getc =>
    obtain ⟨result, c, c', hread, hread', hbus⟩ := Bus.exists_answers (hR.readByte h)
    simp only [perform, hread, hread']
    cases result with
    | error cause => exact ⟨rfl, rfl, hbus⟩
    | ok byte => exact ⟨rfl, rfl, hbus⟩
  | echo =>
    obtain ⟨result, c, c', hread, hread', hbus⟩ := Bus.exists_answers (hR.readByte h)
    simp only [perform, hread, hread']
    rcases result with cause | (_ | byte)
    · exact ⟨rfl, rfl, hbus⟩
    · exact ⟨rfl, rfl, hbus⟩
    · -- what was taken is written, and that may fail as well
      obtain ⟨result, e, e', hemit, hemit', hbus⟩ := Bus.exists_answers (hR.emit hbus [byte])
      simp only [hemit, hemit']
      cases result with
      | error cause => exact ⟨rfl, rfl, hbus⟩
      | ok _ => exact ⟨rfl, rfl, hbus⟩
  | out | puts | putsp =>
    simp only [perform, hmemory]
    exact alike_settle _ _ _ (hR.emit h _)
  | halt => exact alike_settle _ _ _ (hR.flush (hR.reports h [_] [_]))

theorem alike_call (hR : Bus.Likeness R) (h : R b b') (vector : UInt8) (regs : Registers) :
    (call vector regs b).Alike R (call vector regs b') := by
  simp only [call]
  split
  · exact ⟨rfl, rfl, hR.reports h [_] [_]⟩
  · exact alike_perform hR h _ _

end Service

theorem Instruction.alike_execute (hR : Bus.Likeness R) (h : R b b') (i : Instruction)
    (regs : Registers) : (i.execute regs b).Alike R (i.execute regs b') := by
  have hload (dr : Reg) {b b' : Bus κ δ} (h : R b b') {a a' : Word} (ha : a = a') :
      (load regs b dr a).1 = (load regs b' dr a').1 ∧
        R (load regs b dr a).2 (load regs b' dr a').2 := by
    subst ha
    obtain ⟨hword, hbus⟩ := hR.read h a
    exact ⟨congrArg (regs.assign dr) hword, hbus⟩
  cases i with
  | trap vector => exact Service.alike_call hR h vector regs
  | ld dr offset =>
    obtain ⟨hregs, hbus⟩ := hload dr h (rfl : regs.pc + offset = _)
    exact ⟨rfl, hregs, hbus⟩
  | ldr dr base offset =>
    obtain ⟨hregs, hbus⟩ := hload dr h (rfl : regs.get base + offset = _)
    exact ⟨rfl, hregs, hbus⟩
  | ldi dr offset =>
    obtain ⟨hpointer, hfetched⟩ := hR.read h (regs.pc + offset)
    obtain ⟨hregs, hbus⟩ := hload dr hfetched hpointer
    exact ⟨rfl, hregs, hbus⟩
  | st sr offset => exact ⟨rfl, rfl, hR.write h _ _⟩
  | str sr base offset => exact ⟨rfl, rfl, hR.write h _ _⟩
  | sti sr offset =>
    obtain ⟨hpointer, hbus⟩ := hR.read h (regs.pc + offset)
    refine ⟨rfl, rfl, ?_⟩
    show R ((b.read _).2.write (b.read _).1 _) ((b'.read _).2.write (b'.read _).1 _)
    rw [hpointer]
    exact hR.write hbus _ _
  | _ => exact ⟨rfl, rfl, h⟩

/-! ## Steps -/

namespace Cpu

/-- The processors have the same registers and both run or have stopped in the same way. They may
differ in what they count, record and report. -/
structure Alike (c c' : Cpu) : Prop where
  /-- The registers are the same. -/
  regs : c.regs = c'.regs
  /-- They are in the same state. -/
  state : c.state = c'.state

theorem Alike.refl (c : Cpu) : c.Alike c := ⟨rfl, rfl⟩

variable {c c' : Cpu}

/-- Whether the fetched word is reported makes no difference. -/
theorem alike_fetched (hR : Bus.Likeness R) (hc : c.Alike c') (h : R b b') :
    R (c.fetched b) (c'.fetched b') := by
  obtain ⟨-, hbus⟩ := hR.read h c.regs.pc
  simp only [fetched, ← hc.regs]
  split
  · split
    · exact hR.reports hbus [_] [_]
    · exact hR.reports hbus [_] []
  · split
    · exact hR.reports hbus [] [_]
    · exact hbus

theorem alike_finish (hR : Bus.Likeness R) (hc : c.Alike c') (address word : Word)
    {e e' : Effect κ δ} (he : e.Alike R e') :
    (c.finish address word e).result = (c'.finish address word e').result ∧
      (c.finish address word e).cpu.Alike (c'.finish address word e').cpu ∧
      R (c.finish address word e).bus (c'.finish address word e').bus := by
  simp only [finish, he.signal, he.regs]
  cases e'.signal with
  | error fault => exact ⟨rfl, ⟨rfl, hc.state⟩, he.bus⟩
  | ok signal =>
    cases signal with
    | proceed => exact ⟨rfl, ⟨rfl, hc.state⟩, hR.reports he.bus _ _⟩
    | halt => exact ⟨rfl, ⟨rfl, rfl⟩, hR.reports he.bus _ _⟩
    | abort opcode => exact ⟨rfl, ⟨rfl, rfl⟩, hR.reports he.bus _ _⟩

omit [Console κ] [Handler δ] in
theorem cpu_finish (c : Cpu) (address word : Word) {e e' : Effect κ δ} (he : e.Alike R e') :
    (c.finish address word e).cpu = (c.finish address word e').cpu := by
  simp only [finish, he.signal, he.regs]
  cases e'.signal <;> rfl

/-- **Steps of two processors** that differ in what they count, record and report, on buses that
are alike: they have the same result, and the processors and the buses are as alike as before. -/
theorem step_alike (hR : Bus.Likeness R) (hc : c.Alike c') (h : R b b') :
    (c.step b).result = (c'.step b').result ∧ (c.step b).cpu.Alike (c'.step b').cpu ∧
      R (c.step b).bus (c'.step b').bus := by
  by_cases hrun : c.state = .running
  · have hrun' : c'.state = .running := hc.state ▸ hrun
    obtain ⟨hword, -⟩ := hR.read h c.regs.pc
    rw [step_of_running hrun, step_of_running hrun', ← hc.regs, ← hword]
    exact alike_finish hR hc _ _ (Instruction.alike_execute hR (alike_fetched hR hc h) _ _)
  · have hstopped' : c'.state ≠ .running := hc.state ▸ hrun
    rw [step, step, if_neg hrun, if_neg hstopped']
    exact ⟨by rw [hc.state], hc, h⟩

/-- **Steps of one processor** on buses that are alike: it has the same result and becomes the
same, and the buses are still alike. -/
theorem step_congr (hR : Bus.Likeness R) (c : Cpu) (h : R b b') :
    (c.step b).result = (c.step b').result ∧ (c.step b).cpu = (c.step b').cpu ∧
      R (c.step b).bus (c.step b').bus := by
  obtain ⟨hresult, -, hbus⟩ := step_alike hR (.refl c) h
  refine ⟨hresult, ?_, hbus⟩
  by_cases hrun : c.state = .running
  · obtain ⟨hword, -⟩ := hR.read h c.regs.pc
    rw [step_of_running hrun, step_of_running hrun, ← hword]
    exact cpu_finish c _ _ (Instruction.alike_execute hR (alike_fetched hR (.refl c) h) _ _)
  · rw [step, step, if_neg hrun, if_neg hrun]

end Cpu

end LC3
