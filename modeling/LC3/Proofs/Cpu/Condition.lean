import LC3.Proofs.Cpu.Stop

/-!
# The history of the condition code

The condition code is that of a value which need not be in any register any more: the instructions
that set the code are few, and any other may overwrite the register that it came from. So the code
is a matter of what has happened, and what the registers hold does not tell it.

- `flagged?`: the register that an instruction assigns together with the condition code.
- `Effect.Sets`, `Instruction.sets_execute`, `Cpu.cond_step`: what an instruction and a step make
  of the code.
- `Cpu.latest?`: the value assigned most recently, carried along a run.
- `Cpu.cond_history`: the condition code of a run is that of this value.
-/

namespace LC3

open Reference (register meets)

/-- The class of a value: zero, or negative by its highest bit, or positive. -/
def classOf (value : Word) : Condition :=
  if value = 0 then .zero else if value.toNat.testBit 15 then .negative else .positive

theorem ofWord_eq_classOf (value : Word) : Condition.ofWord value = classOf value := by
  have hvalue := value.toNat_lt
  have hbit : value.toNat.testBit 15 = decide (value ≥ 0x8000) := by
    rw [Nat.testBit_eq_decide_div_mod_eq, decide_eq_decide, ge_iff_le, UInt16.le_iff_toNat_le]
    show value.toNat / 32768 % 2 = 1 ↔ 32768 ≤ value.toNat
    omega
  simp only [Condition.ofWord, classOf, hbit, decide_eq_true_eq]

/-- The register that the instruction `w` assigns together with the condition code. An instruction
that does not set the condition code has none. -/
def flagged? (w : Word) : Option Reg :=
  match w.toNat / 4096 with
  | 1 | 2 | 5 | 6 | 9 | 10 | 14 => some (register w.toNat 512)
  | 15 => if w.toNat % 256 = 0x20 ∨ w.toNat % 256 = 0x23 then some .r0 else none
  | _ => none

variable {κ δ : Type}

/-- What was assigned to the register `r?`, if there is one and nothing failed. -/
def assignment {ε ρ : Type} (r? : Option Reg) (result : Except ε ρ) (regs : Registers) :
    Option Word :=
  match result with
  | .ok _ => r?.map regs.get
  | .error _ => none

/-- The effect sets the condition code to the class of what it assigns to the register `r?`, or
leaves it as it was. -/
def Effect.Sets (e : Effect κ δ) (earlier : Condition) (r? : Option Reg) : Prop :=
  e.regs.cond = (assignment r? e.signal e.regs).elim earlier classOf

theorem Registers.cond_assign (g : Registers) (r : Reg) (value : Word) :
    (g.assign r value).cond = classOf ((g.assign r value).get r) := by
  rw [← ofWord_eq_classOf]
  rfl

variable [Console κ]

/-! ## Services -/

namespace Service

/-- The register that a service assigns together with the condition code. -/
def assigned? : Service → Option Reg
  | getc | echo => some .r0
  | out | puts | putsp | halt => none

theorem bind_assigned? (vector : UInt8) :
    (ofVector vector).bind assigned? =
      if vector.toNat = 0x20 ∨ vector.toNat = 0x23 then some .r0 else none := by
  rw [ofVector]
  split <;> simp_all [assigned?]

variable (regs : Registers) (bus : Bus κ δ)

omit [Console κ] in
theorem sets_settle (service : Service) (signal : Signal)
    (outcome : Except IoError Unit × Bus κ δ) :
    (settle service signal regs outcome).Sets regs.cond none := by
  obtain ⟨result, b⟩ := outcome
  cases result <;> rfl

/-- A service that takes input sets the condition code unless it fails, and no other does. -/
theorem sets_perform (service : Service) :
    (service.perform regs bus).Sets regs.cond service.assigned? := by
  cases service with
  | getc =>
    simp only [perform]
    cases bus.readByte with
    | mk result b =>
      cases result with
      | error cause => rfl
      | ok byte => exact regs.cond_assign ..
  | echo =>
    simp only [perform]
    cases bus.readByte with
    | mk result b =>
      rcases result with cause | (_ | byte)
      · rfl
      · exact regs.cond_assign ..
      · -- the byte is kept only if it could be shown
        simp only
        cases b.emit [byte] with
        | mk result b =>
          cases result with
          | error cause => rfl
          | ok done => exact regs.cond_assign ..
  | out | puts | putsp | halt => exact sets_settle ..

theorem sets_call (vector : UInt8) :
    (call vector regs bus).Sets regs.cond ((ofVector vector).bind assigned?) := by
  simp only [call]
  split
  · next h =>
    rw [h]
    rfl
  · next service h =>
    rw [h]
    exact sets_perform (regs.set Reg.link regs.pc) bus service

end Service

/-! ## Instructions -/

namespace Instruction

/-- The register that an instruction assigns together with the condition code. -/
def assigned? : Instruction → Option Reg
  | add dr .. | and dr .. | not dr _ | ld dr _ | ldi dr _ | ldr dr .. | lea dr _ => some dr
  | trap vector => (Service.ofVector vector).bind Service.assigned?
  | br .. | jmp _ | jsr _ | jsrr _ | st .. | sti .. | str .. | rti | reserved => none

theorem assigned?_decode (w : Word) : (decode w).assigned? = flagged? w := by
  have hw := w.toNat_lt
  have hdigit : w.toNat / 4096 < 16 := by omega
  rw [decode_eq, flagged?, ← toNat_lowByte, ← Service.bind_assigned?]
  generalize w.toNat / 4096 = digit at hdigit ⊢
  match digit, hdigit with
  | 4, _ => simp only; split <;> rfl
  | 0, _ | 1, _ | 2, _ | 3, _ | 5, _ | 6, _ | 7, _ | 8, _ | 9, _ | 10, _ | 11, _ | 12, _ | 13, _
  | 14, _ | 15, _ => rfl
  | digit + 16, h => omega

variable [Handler δ] (regs : Registers) (bus : Bus κ δ)

/-- **Instructions**: the condition code is set by the assignment that goes with it and by nothing
else. -/
theorem sets_execute (i : Instruction) : (i.execute regs bus).Sets regs.cond i.assigned? := by
  cases i with
  | trap vector => exact Service.sets_call regs bus vector
  | add | and | not | ld | ldi | ldr | lea => exact Registers.cond_assign ..
  | br mask offset =>
    show (if regs.cond.isIn mask then { regs with pc := regs.pc + offset } else regs).cond = _
    split <;> rfl
  | _ => rfl

end Instruction

/-! ## Steps -/

namespace Cpu

variable [Handler δ]

/-- **Steps** of a running processor. -/
theorem cond_step {c : Cpu} (h : c.state = .running) (bus : Bus κ δ) :
    let stepped := c.step bus
    stepped.cpu.regs.cond =
      (assignment (flagged? (bus.read c.regs.pc).1) stepped.result stepped.cpu.regs).elim
        c.regs.cond classOf := by
  have hsets := Instruction.sets_execute { c.regs with pc := c.regs.pc + 1 } (c.fetched bus)
    (Instruction.decode (bus.read c.regs.pc).1)
  rw [Instruction.assigned?_decode] at hsets
  rw [step_of_running h]
  generalize (Instruction.decode (bus.read c.regs.pc).1).execute
    { c.regs with pc := c.regs.pc + 1 } (c.fetched bus) = effect at hsets ⊢
  cases hsignal : effect.signal with
  | error fault =>
    rw [Effect.Sets, hsignal] at hsets
    simp only [finish, hsignal]
    exact hsets
  | ok signal =>
    rw [Effect.Sets, hsignal] at hsets
    simp only [finish, hsignal]
    cases signal <;> exact hsets

/-- The program counter after a branch. -/
theorem pc_branch {c : Cpu} (h : c.state = .running) {bus : Bus κ δ}
    (hbranch : (bus.read c.regs.pc).1.toNat / 4096 = 0) :
    let w := (bus.read c.regs.pc).1
    (c.step bus).cpu.regs.pc =
      if meets w.toNat c.regs.cond then c.regs.pc + 1 + UInt16.ofInt (signed 9 w.toNat)
      else c.regs.pc + 1 := by
  intro w
  have hdecode : Instruction.decode w = .br (w >>> 9 &&& 7) (UInt16.ofInt (signed 9 w.toNat)) := by
    rw [Instruction.decode_eq]
    simp only [w, hbranch]
  rw [step_of_running h, show Instruction.decode (bus.read c.regs.pc).1 = _ from hdecode]
  show (if c.regs.cond.isIn (w >>> 9 &&& 7) then _ else _ : Registers).pc = _
  rw [Instruction.isIn_eq_meets]
  split <;> rfl

/-! ## Runs -/

/-- The value that a call assigns together with the condition code, if it does: what a step that
does not fail has put into the register. -/
def Call.assigns? (x : Call) (c : Cpu) : Option Word :=
  match x with
  | @Call.step _ _ _ _ bus =>
    if c.state = .running then
      assignment (flagged? (bus.read c.regs.pc).1) (c.step bus).result (c.step bus).cpu.regs
    else none
  | _ => none

/-- The value that was assigned most recently together with the condition code, if `known` was it
before the calls. After a reset there is none. -/
def latest? (c : Cpu) (known : Option Word) : List Call → Option Word
  | [] => known
  | .reset pc :: rest => (c.reset pc).latest? none rest
  | x :: rest => (c.perform x).latest? ((x.assigns? c).or known) rest

/-- A step sets the condition code to the class of what it assigns, or leaves it. -/
theorem cond_perform (c : Cpu) {x : Call} (h : ¬ x.IsReset) :
    (c.perform x).regs.cond = (x.assigns? c).elim c.regs.cond classOf := by
  cases x with
  | step bus =>
    simp only [perform, Call.assigns?]
    by_cases hrun : c.state = .running
    · rw [if_pos hrun, cond_step hrun]
    · rw [if_neg hrun, step_of_stopped hrun]
      rfl
  | reset pc => exact absurd trivial h
  | setTrace on => rfl

/-- **Runs**: the condition code follows what is assigned. -/
theorem cond_after {c : Cpu} {known : Option Word} (h : c.regs.cond = known.elim .positive classOf)
    (calls : List Call) :
    (c.after calls).regs.cond = (c.latest? known calls).elim .positive classOf := by
  induction calls generalizing c known with
  | nil => exact h
  | cons x rest ih =>
    have hnext (hreset : ¬ x.IsReset) :
        (c.perform x).regs.cond = ((x.assigns? c).or known).elim .positive classOf := by
      rw [cond_perform c hreset, h]
      cases x.assigns? c <;> rfl
    cases x with
    | reset pc => exact ih rfl
    | step bus => exact ih (hnext id)
    | setTrace on => exact ih (hnext id)

/-- **The history of the condition code**: in every run it is the class of the value that was
assigned most recently by an instruction that sets it and did not fail, and positive if there was
none since the start. Nothing else changes it, and a branch is taken just when its mask meets
it. -/
theorem cond_history (pc : Word) (calls : List Call) :
    let c := (start pc).after calls
    let code := ((start pc).latest? none calls).elim .positive classOf
    c.regs.cond = code ∧
    ∀ {κ δ : Type} [Console κ] [Handler δ] (bus : Bus κ δ),
      let w := (bus.read c.regs.pc).1
      let stepped := c.step bus
      (flagged? w = none ∨ (∃ fault, stepped.result = .error fault) →
        stepped.cpu.regs.cond = code) ∧
      (c.state = .running → w.toNat / 4096 = 0 →
        stepped.cpu.regs.pc =
          if meets w.toNat code then c.regs.pc + 1 + UInt16.ofInt (signed 9 w.toNat)
          else c.regs.pc + 1) := by
  intro c code
  have hstart : (start pc).regs.cond = (none : Option Word).elim .positive classOf := rfl
  have hcode : c.regs.cond = code := cond_after hstart calls
  refine ⟨hcode, ?_⟩
  intro κ δ _ _ bus w stepped
  constructor
  · intro hother
    have hcond := cond_perform c (x := .step bus) id
    have hnone : Call.assigns? (.step bus) c = none := by
      simp only [Call.assigns?]
      split
      · obtain hflagged | ⟨fault, hfault⟩ := hother
        · rw [show flagged? (bus.read c.regs.pc).1 = none from hflagged]
          cases (c.step bus).result <;> rfl
        · rw [show (c.step bus).result = .error fault from hfault]
          rfl
      · rfl
    rw [hnone] at hcond
    exact hcond.trans hcode
  · intro hrun hbranch
    rw [← hcode]
    exact pc_branch hrun hbranch

/-- The code outlives its value: a call that fails overwrites the register it came from, and the
branch behind the call is taken all the same. -/
theorem cond_history_link :
    let console : Rationed BufferConsole := ⟨.ofInput [], none, none, some 0, none⟩
    let bus : Bus (Rationed BufferConsole) Device :=
      (((Bus.ofConsole console .silent).mapMemory (·.set 0x3000 0x1FFF)).mapMemory
        (·.set 0x3001 0xF021)).mapMemory (·.set 0x3002 0x0802)
    let called := (start 0x3000).after [.step bus, .step bus]
    let taken := (called.step bus).cpu.regs
    (start 0x3000).latest? none [.step bus, .step bus] = some 0xFFFF ∧
      called.regs.get Reg.link = 0x3002 ∧ called.regs.cond = .negative ∧
      taken.pc = 0x3005 ∧ taken.cond = .negative := by
  intro console
  let behind (pc link : Word) : Cpu :=
    ⟨⟨pc, #v[0, 0, 0, 0, 0, 0, 0, link], .negative⟩, .running, 1, false, none⟩
  -- all that matters of the bus are the three words and that nothing can be written
  have hlink : ∀ bus : Bus (Rationed BufferConsole) Device, bus.console = console →
      bus.memory.get 0x3000 = 0x1FFF → bus.memory.get 0x3001 = 0xF021 →
      bus.memory.get 0x3002 = 0x0802 →
      let called := (start 0x3000).after [.step bus, .step bus]
      let taken := (called.step bus).cpu.regs
      (start 0x3000).latest? none [.step bus, .step bus] = some 0xFFFF ∧
        called.regs.get Reg.link = 0x3002 ∧ called.regs.cond = .negative ∧
        taken.pc = 0x3005 ∧ taken.cond = .negative := by
    intro bus hconsole hadd hout hbr called taken
    have hfetch {address w : Word} (h : address ≠ keyboardStatus)
        (hw : bus.memory.get address = w) : bus.read address = (w, bus) := by
      rw [Bus.read_of_ne bus h, hw]
    have hadded : (start 0x3000).step bus = ⟨.ok .retired, behind 0x3001 0xFFFF, bus⟩ := by
      rw [step_of_running rfl, fetched,
        show bus.read (start 0x3000).regs.pc = _ from hfetch (by decide) hadd,
        show Instruction.decode 0x1FFF = .add 7 7 (.immediate 0xFFFF) by decide]
      rfl
    have hfailed : (behind 0x3001 0xFFFF).step bus =
        ⟨.error ⟨.out, .broken "write"⟩, behind 0x3002 0x3002, bus⟩ := by
      obtain ⟨memory, _, devices, dispatched, lastDispatch, journal⟩ := bus
      obtain rfl := hconsole
      rw [step_of_running rfl, fetched,
        show Bus.read _ (behind 0x3001 0xFFFF).regs.pc = _ from hfetch (by decide) hout,
        show Instruction.decode 0xF021 = .trap 0x21 by decide]
      rfl
    have hfirst : Call.assigns? (.step bus) (start 0x3000) = some 0xFFFF := by
      have hrun : (start 0x3000).state = .running := rfl
      rw [Call.assigns?, if_pos hrun, hadded,
        show bus.read (start 0x3000).regs.pc = _ from hfetch (by decide) hadd,
        show flagged? 0x1FFF = some 7 by decide]
      rfl
    have hsecond : Call.assigns? (.step bus) (behind 0x3001 0xFFFF) = none := by
      have hrun : (behind 0x3001 0xFFFF).state = .running := rfl
      rw [Call.assigns?, if_pos hrun, hfailed]
      rfl
    have hlatest : (start 0x3000).latest? none [.step bus, .step bus] = some 0xFFFF := by
      show (Call.assigns? (.step bus) ((start 0x3000).step bus).cpu).or
        ((Call.assigns? (.step bus) (start 0x3000)).or none) = _
      rw [hfirst, hadded, hsecond]
      rfl
    have hcalled : called = behind 0x3002 0x3002 := by
      simp only [called, after, perform, hadded, hfailed]
    have hword : (bus.read called.regs.pc).1 = 0x0802 := by
      rw [hcalled, show bus.read (behind 0x3002 0x3002).regs.pc = _ from hfetch (by decide) hbr]
    obtain ⟨hcond, hnext⟩ := cond_history 0x3000 [.step bus, .step bus]
    rw [hlatest] at hcond hnext
    have hcode := (hnext bus).1 (.inl ((congrArg flagged? hword).trans (by decide)))
    have htaken := (hnext bus).2 (congrArg (·.state) hcalled)
      ((congrArg (·.toNat / 4096) hword).trans (by decide))
    refine ⟨hlatest, congrArg (·.regs.get Reg.link) hcalled, hcond, ?_, hcode⟩
    rw [show taken.pc = _ from htaken, hword,
      show called.regs.pc = _ from congrArg (·.regs.pc) hcalled]
    decide
  intro bus
  have hmemory : bus.memory =
      ((Memory.zero.set 0x3000 0x1FFF).set 0x3001 0xF021).set 0x3002 0x0802 := rfl
  refine hlink bus rfl ?_ ?_ ?_
  · rw [hmemory, Memory.get_set_other (by decide), Memory.get_set_other (by decide),
      Memory.get_set_self]
  · rw [hmemory, Memory.get_set_other (by decide), Memory.get_set_self]
  · rw [hmemory, Memory.get_set_self]

end Cpu

end LC3
