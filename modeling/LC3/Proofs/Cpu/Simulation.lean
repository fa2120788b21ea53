import LC3.Proofs.Bus.Quiet
import LC3.Proofs.Cpu.Decode
import LC3.Proofs.Cpu.Store
import LC3.Proofs.Cpu.Text

/-!
# The processor and the reference machine

Every step of the processor is one step of the reference machine, on any bus with any devices, as
long as the console does what it is asked.

- `Console.Reliable`: consoles whose calls succeed.
- `Reference.Matches`: the effect of an instruction is the outcome of the reference, up to what
  is reported.
- `matches_arithmetic`, `matches_control`, `matches_access`, `matches_call`: one group of
  instructions each.
- `Cpu.step_eq_reference`: one step.
-/

namespace LC3

/-- The consoles of `P` do what they are asked, and go on to be consoles of `P`. A poll that
fails is of no account, since nothing depends on it. -/
structure Console.Reliable {κ : Type} [Console κ] (P : κ → Prop) : Prop where
  /-- A poll leaves a console of `P`. -/
  pollKey : ∀ c, P c → P (Console.pollKey c).2
  /-- A byte is taken, or the end of input is found. -/
  readByte : ∀ c, P c → ∃ byte c', Console.readByte c = (.ok byte, c') ∧ P c'
  /-- Bytes are written. -/
  writeBytes : ∀ c bytes, P c → ∃ c', Console.writeBytes c bytes = (.ok (), c') ∧ P c'
  /-- Output is made visible. -/
  flush : ∀ c, P c → ∃ c', Console.flush c = (.ok (), c') ∧ P c'

namespace Reference

open Instruction

/-! ## Registers -/

/-- The registers of the processor as numbers. -/
def Numbers.ofRegisters (g : Registers) : Numbers where
  pc := g.pc.toNat
  reg r := (g.get r).toNat
  cond := g.cond

theorem condition_toNat (w : Word) : condition w.toNat = .ofWord w := by
  have hzero : w.toNat = 0 ↔ w = 0 := by
    rw [← UInt16.toNat_inj]
    rfl
  have hhigh : w.toNat < 32768 ↔ ¬ w ≥ 0x8000 := by
    rw [ge_iff_le, UInt16.le_iff_toNat_le]
    simp only [UInt16.reduceToNat]
    omega
  simp only [condition, Condition.ofWord, hzero, hhigh, ite_not]

theorem ofRegisters_set (g : Registers) (r : Reg) (v : Word) :
    Numbers.ofRegisters (g.set r v) = (Numbers.ofRegisters g).put r v.toNat := by
  simp only [Numbers.ofRegisters, Numbers.put, Registers.get_set, apply_ite UInt16.toNat]
  rfl

/-- What is assigned decides the condition code. -/
theorem ofRegisters_assign (g : Registers) (r : Reg) (v : Word) :
    Numbers.ofRegisters (g.assign r v) = (Numbers.ofRegisters g).assign r v.toNat := by
  have hcond : Condition.ofWord ((g.set r v).get r) = condition v.toNat := by
    rw [Registers.get_set, if_pos rfl, condition_toNat]
  have hset := ofRegisters_set g r v
  show { Numbers.ofRegisters (g.set r v) with cond := Condition.ofWord ((g.set r v).get r) } = _
  rw [hset, hcond]
  rfl

/-- A call keeps the return address and goes elsewhere. -/
theorem ofRegisters_link (g : Registers) (target : Word) :
    Numbers.ofRegisters { g.set Reg.link g.pc with pc := target } =
      { (Numbers.ofRegisters g).put 7 g.pc.toNat with pc := target.toNat } := by
  rw [← ofRegisters_set]
  rfl

variable (regs : Registers) {w : Word}

/-! ## Operands -/

theorem ofRegisters_jump (x : Int) :
    Numbers.ofRegisters { regs with pc := regs.pc + UInt16.ofInt x } =
      { Numbers.ofRegisters regs with pc := wrap (regs.pc.toNat + x) } := by
  rw [← toNat_add_ofInt]
  rfl

theorem toNat_add_operand (a : Word) :
    (a + (operandOf w).value regs).toNat =
      wrap (a.toNat + operand w.toNat (.ofRegisters regs)) := by
  rw [operandOf_eq, operand]
  split
  · exact toNat_add_ofInt a _
  · exact toNat_add_eq_wrap a _

theorem toNat_and_operand (a : Word) :
    (a &&& (operandOf w).value regs).toNat =
      a.toNat &&& wrap (operand w.toNat (.ofRegisters regs)) := by
  rw [operandOf_eq, operand, UInt16.toNat_and]
  refine congrArg (a.toNat &&& ·) ?_
  split
  · exact toNat_ofInt_eq_wrap _
  · rw [← toNat_ofInt_eq_wrap]
    exact congrArg UInt16.toNat (ofInt_toNat _).symm

theorem toNat_not (a : Word) : (~~~a).toNat = 65535 - a.toNat := by
  rw [UInt16.toNat_not]
  rfl

variable {κ δ : Type} (bus : Bus κ δ)

/-! ## Accesses -/

theorem load_quiet [Console κ] (a : Word) :
    load bus.quiet a.toNat = ((bus.read a).1.toNat, (bus.read a).2.quiet) := by
  rw [load, UInt16.ofNat_toNat, Bus.quiet_read]

theorem store_quiet [Handler δ] (a v : Word) :
    store bus.quiet a.toNat v.toNat = (bus.write a v).quiet := by
  rw [store, UInt16.ofNat_toNat, UInt16.ofNat_toNat, Bus.quiet_write]

/-! ## Strings -/

theorem text_quiet (a : Word) :
    text bus.quiet a.toNat = (stringWords bus.memory a).map UInt16.toNat := by
  have hword : ∀ i : Nat, UInt16.ofNat (wrap (a.toNat + i)) = a + UInt16.ofNat i := by
    intro i
    rw [ofNat_wrap, ofInt_toNat_add, ofInt_natCast]
  have hzero : ∀ v : Word, decide (v.toNat ≠ 0) = decide (v ≠ 0) := by
    intro v
    rw [decide_eq_decide, ne_eq, ne_eq, ← UInt16.toNat_inj]
    rfl
  rw [stringWords_eq_takeWhile, text]
  simp only [hword, Bus.quiet_memory, List.takeWhile_map, List.map_map, Function.comp_def, hzero]

theorem ofNat_low (v : Word) : UInt8.ofNat (v.toNat % 256) = lowByte v := by
  rw [← UInt8.toNat_inj, UInt8.toNat_ofNat', toNat_lowByte]
  omega

theorem pair_toNat (v : Word) : pair v.toNat = packedPair v := by
  have hhigh : UInt8.ofNat (v.toNat / 256) = highByte v := by
    have hv := v.toNat_lt
    rw [← UInt8.toNat_inj, UInt8.toNat_ofNat', toNat_highByte]
    omega
  have hzero : v.toNat / 256 = 0 ↔ highByte v = 0 := by
    rw [← UInt8.toNat_inj, toNat_highByte]
    rfl
  simp only [pair, packedPair, ofNat_low, hhigh, hzero]

/-- The bytes of a string of one byte a word. -/
theorem map_text_quiet (a : Word) :
    ((text bus.quiet a.toNat).map fun n => UInt8.ofNat (n % 256)) = stringBytes bus.memory a := by
  rw [text_quiet, List.map_map, stringBytes]
  exact List.map_congr_left fun v _ => ofNat_low v

/-- The bytes of a string of two bytes a word. -/
theorem flatMap_text_quiet (a : Word) :
    (text bus.quiet a.toNat).flatMap pair = packedBytes bus.memory a := by
  rw [text_quiet, List.flatMap_map, packedBytes]
  simp only [pair_toNat]

/-! ## Outcomes -/

/-- The effect of an instruction is the outcome of the reference, up to what is reported. -/
structure Matches (e : Effect κ δ) (o : Outcome κ δ) : Prop where
  /-- It does not fail, and asks for the same. -/
  signal : e.signal = .ok o.signal
  /-- The registers hold the same numbers. -/
  regs : Numbers.ofRegisters e.regs = o.regs
  /-- The bus is the same. -/
  bus : e.bus.quiet = o.bus

/-- The processor as a reference machine. -/
def Machine.ofCpu (c : Cpu) : Machine where
  regs := .ofRegisters c.regs
  state := c.state
  steps := c.steps
  fault := c.fault.map fun f => (f.opcode, f.pc.toNat)

/-- The reference counts and stops as the processor does. -/
theorem ofCpu_retire (c : Cpu) (address word : Word) (signal : Signal) :
    let retired := c.retire address word signal
    Machine.ofCpu retired.2.1 = retire (.ofCpu c) address.toNat signal ∧
      (c.state = .running →
        retired.1 = (retire (.ofCpu c) address.toNat signal).result) := by
  cases signal with
  | proceed =>
    refine ⟨rfl, fun hrun => ?_⟩
    show _ = if c.state = .running then _ else _
    rw [if_pos hrun]
    rfl
  | halt => exact ⟨rfl, fun _ => rfl⟩
  | abort opcode => exact ⟨rfl, fun _ => rfl⟩

/-- What is made of the effect of an instruction is what the reference makes of its outcome. -/
theorem finish_of_matches {e : Effect κ δ} {o : Outcome κ δ} (h : Matches e o) {c : Cpu}
    (hrun : c.state = .running) (address word : Word) :
    let finished := c.finish address word e
    let m := retire { Machine.ofCpu c with regs := o.regs } address.toNat o.signal
    finished.result = .ok m.result ∧ Machine.ofCpu finished.cpu = m ∧
      finished.bus.quiet = o.bus := by
  obtain ⟨hmachine, hresult⟩ := ofCpu_retire { c with regs := e.regs } address word o.signal
  have hregs : Machine.ofCpu { c with regs := e.regs } =
      { Machine.ofCpu c with regs := o.regs } := by
    rw [← h.regs]
    rfl
  rw [hregs] at hmachine hresult
  simp only [Cpu.finish, h.signal]
  exact ⟨congrArg Except.ok (hresult hrun), hmachine, h.bus⟩

variable [Console κ]

/-! ## Services -/

section Reliable

variable {P : κ → Prop} {bus}

theorem flush_of_reliable (bus : Bus κ δ) (hP : Console.Reliable P) (hconsole : P bus.console) :
    ∃ b', bus.flush = (.ok (), b') ∧ b'.quiet = flush bus.quiet := by
  obtain ⟨c, hflush, -⟩ := hP.flush bus.console hconsole
  refine ⟨{ bus with console := c }, ?_, ?_⟩
  · rw [Bus.flush, hflush]
  · simp only [flush, Bus.quiet, hflush]

theorem emit_of_reliable (hP : Console.Reliable P) (hconsole : P bus.console)
    (bytes : List UInt8) :
    ∃ b', bus.emit bytes = (.ok (), b') ∧ b'.quiet = display bus.quiet bytes := by
  obtain ⟨c, hwrite, hc⟩ := hP.writeBytes bus.console bytes hconsole
  obtain ⟨b', hflush, hb'⟩ := flush_of_reliable { bus with console := c } hP hc
  refine ⟨b', ?_, ?_⟩
  · simp only [Bus.emit, hwrite, hflush]
  · rw [hb', display, Bus.quiet_console, hwrite]
    rfl

theorem readByte_of_reliable (hP : Console.Reliable P) (hconsole : P bus.console) :
    ∃ byte b', bus.readByte = (.ok byte, b') ∧ receive bus.quiet = (byte, b'.quiet) ∧
      P b'.console := by
  obtain ⟨byte, c, hread, hc⟩ := hP.readByte bus.console hconsole
  refine ⟨byte, { bus with console := c }, ?_, ?_, hc⟩
  · rw [Bus.readByte, hread]
  · simp only [receive, Bus.quiet, hread]

/-- A service that writes and asks for nothing. -/
theorem matches_settle (hP : Console.Reliable P) (hconsole : P bus.console) (s : Service)
    {bytes shown : List UInt8} (hshown : shown = bytes) :
    Matches (Service.settle s .proceed regs (bus.emit bytes))
      ⟨.ofRegisters regs, display bus.quiet shown, .proceed⟩ := by
  obtain ⟨b', hemit, hb'⟩ := emit_of_reliable hP hconsole bytes
  rw [hemit, hshown]
  exact ⟨rfl, rfl, hb'⟩

theorem matches_getc (hP : Console.Reliable P) (hconsole : P bus.console) :
    Matches (Service.getc.perform regs bus) (service 0x20 (.ofRegisters regs) bus.quiet) := by
  obtain ⟨byte, b', hread, hreceive, -⟩ := readByte_of_reliable hP hconsole
  simp only [Service.perform, hread, service, hreceive]
  refine ⟨?_, ?_, ?_⟩
  all_goals cases byte
  · rfl
  · rfl
  · exact ofRegisters_assign ..
  · rw [ofRegisters_assign, inputWord, UInt8.toNat_toUInt16]
    rfl
  · rfl
  · rfl

theorem matches_echo (hP : Console.Reliable P) (hconsole : P bus.console) :
    Matches (Service.echo.perform regs bus) (service 0x23 (.ofRegisters regs) bus.quiet) := by
  obtain ⟨byte, b', hread, hreceive, hb'⟩ := readByte_of_reliable hP hconsole
  simp only [Service.perform, hread, service, hreceive]
  cases byte with
  | none => exact ⟨rfl, ofRegisters_assign .., rfl⟩
  | some byte =>
    obtain ⟨b'', hemit, hb''⟩ := emit_of_reliable hP hb' [byte]
    simp only [hemit]
    refine ⟨rfl, ?_, hb''⟩
    rw [ofRegisters_assign, inputWord, UInt8.toNat_toUInt16]
    rfl

/-- The vector of a service. -/
def code : Service → Nat
  | .getc => 0x20
  | .out => 0x21
  | .puts => 0x22
  | .echo => 0x23
  | .putsp => 0x24
  | .halt => 0x25

theorem toNat_of_ofVector {vector : UInt8} {s : Service} (h : Service.ofVector vector = some s) :
    vector.toNat = code s := by
  rw [Service.ofVector] at h
  split at h
  all_goals
    cases h
    try assumption

/-- A vector without a service does nothing in the reference either. -/
theorem service_of_unknown {vector : UInt8} (h : Service.ofVector vector = none) (g : Numbers)
    (b : Bus κ δ) : service vector.toNat g b = ⟨g, b, .proceed⟩ := by
  rw [Service.ofVector] at h
  split at h
  -- the last branch is the one for all other vectors
  case h_7 => simp only [service]
  all_goals cases h

/-- **Services**: each of them does what the reference does. -/
theorem matches_call (hP : Console.Reliable P) (hconsole : P bus.console) (vector : UInt8) :
    Matches (Service.call vector regs bus)
      (service vector.toNat ((Numbers.ofRegisters regs).put 7 regs.pc.toNat) bus.quiet) := by
  have hlink : (Numbers.ofRegisters regs).put 7 regs.pc.toNat =
      .ofRegisters (regs.set Reg.link regs.pc) := (ofRegisters_set ..).symm
  rw [hlink, Service.call]
  cases hservice : Service.ofVector vector with
  | none =>
    rw [service_of_unknown hservice]
    exact ⟨rfl, rfl, rfl⟩
  | some s =>
    rw [toNat_of_ofVector hservice]
    cases s with
    | getc => exact matches_getc _ hP hconsole
    | echo => exact matches_echo _ hP hconsole
    | out => exact matches_settle _ hP hconsole .out (congrArg (fun low => [low]) (ofNat_low _))
    | puts => exact matches_settle _ hP hconsole .puts (map_text_quiet bus _)
    | putsp => exact matches_settle _ hP hconsole .putsp (flatMap_text_quiet bus _)
    | halt =>
      obtain ⟨b', hflush, hb'⟩ := flush_of_reliable
        (bus.report (.haltCalled ((regs.set Reg.link regs.pc).pc - 1))) hP hconsole
      simp only [Service.perform, hflush, Service.settle]
      exact ⟨rfl, rfl, hb'⟩

theorem read_of_reliable (hP : Console.Reliable P) (hconsole : P bus.console) (a : Word) :
    P (bus.read a).2.console := by
  show P (if a = keyboardStatus then bus.poll else bus).console
  split
  · have hpoll := hP.pollKey bus.console hconsole
    rw [Bus.poll]
    split
    all_goals
      next heq => rwa [heq] at hpoll
  · exact hconsole

theorem fetched_of_reliable (hP : Console.Reliable P) (c : Cpu) (hconsole : P bus.console) :
    P (c.fetched bus).console := by
  have hread := read_of_reliable hP hconsole c.regs.pc
  rw [Cpu.fetched]
  split
  · exact hread
  · exact hread

end Reliable

variable [Handler δ]

/-! ## Groups of instructions -/

/-- `ADD`, `AND` and `NOT`. -/
theorem matches_arithmetic
    (h : w.toNat / 4096 = 1 ∨ w.toNat / 4096 = 5 ∨ w.toNat / 4096 = 9) :
    Matches ((decode w).execute regs bus) (execute w.toNat (.ofRegisters regs) bus.quiet) := by
  obtain h | h | h := h
  all_goals
    rw [decode_eq]
    simp only [h, Reference.execute]
    refine ⟨rfl, (ofRegisters_assign ..).trans ?_, rfl⟩
  · rw [toNat_add_operand]
    rfl
  · rw [toNat_and_operand]
    rfl
  · rw [toNat_not]
    rfl

/-- `BR`, `JSR`, `JSRR` and `JMP`. -/
theorem matches_control
    (h : w.toNat / 4096 = 0 ∨ w.toNat / 4096 = 4 ∨ w.toNat / 4096 = 12) :
    Matches ((decode w).execute regs bus) (execute w.toNat (.ofRegisters regs) bus.quiet) := by
  obtain h | h | h := h
  all_goals
    rw [decode_eq]
    simp only [h, Reference.execute]
  · refine ⟨rfl, ?_, rfl⟩
    show Numbers.ofRegisters (if regs.cond.isIn (w >>> 9 &&& 7) then _ else regs) = _
    rw [isIn_eq_meets, apply_ite Numbers.ofRegisters, ofRegisters_jump]
    rfl
  · split
    · refine ⟨rfl, ?_, rfl⟩
      show Numbers.ofRegisters { regs.set Reg.link regs.pc with pc := regs.pc + _ } = _
      rw [ofRegisters_link, toNat_add_ofInt]
      rfl
    · exact ⟨rfl, ofRegisters_link .., rfl⟩
  · exact ⟨rfl, rfl, rfl⟩

/-- Loads, stores and `LEA`. -/
theorem matches_access
    (h : w.toNat / 4096 = 2 ∨ w.toNat / 4096 = 3 ∨ w.toNat / 4096 = 6 ∨ w.toNat / 4096 = 7 ∨
      w.toNat / 4096 = 10 ∨ w.toNat / 4096 = 11 ∨ w.toNat / 4096 = 14) :
    Matches ((decode w).execute regs bus) (execute w.toNat (.ofRegisters regs) bus.quiet) := by
  -- the two addresses that an instruction may compute
  have hnear : wrap ((Numbers.ofRegisters regs).pc + signed 9 w.toNat) =
      (regs.pc + UInt16.ofInt (signed 9 w.toNat)).toNat := (toNat_add_ofInt ..).symm
  have hbased : wrap ((Numbers.ofRegisters regs).reg (register w.toNat 64) + signed 6 w.toNat) =
      (regs.get (register w.toNat 64) + UInt16.ofInt (signed 6 w.toNat)).toNat :=
    (toNat_add_ofInt ..).symm
  obtain h | h | h | h | h | h | h := h
  all_goals
    rw [decode_eq]
    simp only [h, Reference.execute, hnear, hbased, load_quiet]
  · exact ⟨rfl, ofRegisters_assign .., rfl⟩
  · exact ⟨rfl, rfl, (store_quiet ..).symm⟩
  · exact ⟨rfl, ofRegisters_assign .., rfl⟩
  · exact ⟨rfl, rfl, (store_quiet ..).symm⟩
  · exact ⟨rfl, ofRegisters_assign .., rfl⟩
  · exact ⟨rfl, rfl, (store_quiet ..).symm⟩
  · exact ⟨rfl, ofRegisters_assign .., rfl⟩

/-- `RTI` and the reserved operation. -/
theorem matches_missing (h : w.toNat / 4096 = 8 ∨ w.toNat / 4096 = 13) :
    Matches ((decode w).execute regs bus) (execute w.toNat (.ofRegisters regs) bus.quiet) := by
  obtain h | h := h
  all_goals
    rw [decode_eq]
    simp only [h, Reference.execute]
    exact ⟨rfl, rfl, rfl⟩

/-! ## Steps -/

/-- **Instructions**: each of them does what the reference does. -/
theorem matches_execute {P : κ → Prop} (hP : Console.Reliable P) (hconsole : P bus.console)
    (w : Word) :
    Matches ((decode w).execute regs bus) (execute w.toNat (.ofRegisters regs) bus.quiet) := by
  have hw := w.toNat_lt
  have hop : (w.toNat / 4096 = 1 ∨ w.toNat / 4096 = 5 ∨ w.toNat / 4096 = 9) ∨
      (w.toNat / 4096 = 0 ∨ w.toNat / 4096 = 4 ∨ w.toNat / 4096 = 12) ∨
      (w.toNat / 4096 = 2 ∨ w.toNat / 4096 = 3 ∨ w.toNat / 4096 = 6 ∨ w.toNat / 4096 = 7 ∨
        w.toNat / 4096 = 10 ∨ w.toNat / 4096 = 11 ∨ w.toNat / 4096 = 14) ∨
      (w.toNat / 4096 = 8 ∨ w.toNat / 4096 = 13) ∨ w.toNat / 4096 = 15 := by
    omega
  -- sixteen codes, in the groups above; the last one is `TRAP`
  obtain h | h | h | h | h := hop
  · exact matches_arithmetic regs bus h
  · exact matches_control regs bus h
  · exact matches_access regs bus h
  · exact matches_missing regs bus h
  · rw [decode_eq]
    simp only [h, Reference.execute]
    rw [← toNat_lowByte]
    exact matches_call regs hP hconsole (lowByte w)

/-- The reference fetches what the processor fetches. -/
theorem step_ofCpu (c : Cpu) :
    let outcome := execute (bus.read c.regs.pc).1.toNat
      (.ofRegisters { c.regs with pc := c.regs.pc + 1 }) (c.fetched bus).quiet
    step (.ofCpu c) bus.quiet =
      (retire { Machine.ofCpu c with regs := outcome.regs } c.regs.pc.toNat outcome.signal,
        outcome.bus) := by
  intro outcome
  have hload : load bus.quiet c.regs.pc.toNat =
      ((bus.read c.regs.pc).1.toNat, (c.fetched bus).quiet) := by
    rw [load_quiet, Cpu.fetched]
    split <;> rfl
  have hpc : wrap (c.regs.pc.toNat + 1) = (c.regs.pc + 1).toNat :=
    (toNat_add_ofInt c.regs.pc 1).symm
  -- both point behind the instruction before it is executed
  have hbehind : { (Machine.ofCpu c).regs with pc := wrap (c.regs.pc.toNat + 1) } =
      Numbers.ofRegisters { c.regs with pc := c.regs.pc + 1 } := by
    rw [hpc]
    rfl
  exact step_of_load (m := .ofCpu c) hload (congrArg (execute _ · _) hbehind)

end Reference

variable {κ δ : Type} [Console κ] [Handler δ]

/-- **A step is a step of the reference machine**: whatever the registers, the memory and the
devices, a step of a running processor over a console whose calls succeed has the result, the
registers and the bus of a step of the reference machine, up to what is reported. -/
theorem Cpu.step_eq_reference {P : κ → Prop} (hP : Console.Reliable P) (c : Cpu)
    (hrun : c.state = .running) (bus : Bus κ δ) (hconsole : P bus.console) :
    let stepped := c.step bus
    let reference := Reference.step (.ofCpu c) bus.quiet
    stepped.result = .ok reference.1.result ∧ Reference.Machine.ofCpu stepped.cpu = reference.1 ∧
      stepped.bus.quiet = reference.2 := by
  intro stepped reference
  have hreference : reference = _ := Reference.step_ofCpu bus c
  have hstepped : stepped = _ := step_of_running hrun bus
  have hmatches := Reference.matches_execute { c.regs with pc := c.regs.pc + 1 } _ hP
    (Reference.fetched_of_reliable hP c hconsole) (bus.read c.regs.pc).1
  rw [hreference, hstepped]
  exact Reference.finish_of_matches hmatches hrun c.regs.pc (bus.read c.regs.pc).1

theorem Console.reliable_bufferConsole : Console.Reliable fun _ : BufferConsole => True where
  pollKey _ _ := trivial
  readByte c _ := ⟨c.take.1, c.take.2, rfl, trivial⟩
  writeBytes c bytes _ := ⟨c.put bytes, rfl, trivial⟩
  flush c _ := ⟨c, rfl, trivial⟩

/-- A processor at `ADD R0, R0, #-2` counts down from zero around the ceiling. -/
theorem Cpu.step_eq_reference_add :
    let bus : Bus BufferConsole Device :=
      (Bus.ofConsole (.ofInput []) .silent).mapMemory (·.set 0x3000 0x103E)
    let stepped := (start 0x3000).step bus
    stepped.result = .ok .retired ∧ (stepped.cpu.regs.get 0).toNat = 65534 ∧
      stepped.cpu.regs.pc.toNat = 0x3001 ∧ stepped.cpu.regs.cond = .negative := by
  -- all that matters of the bus is the word that is fetched
  have hstep : ∀ bus : Bus BufferConsole Device, bus.memory.get 0x3000 = 0x103E →
      let stepped := (start 0x3000).step bus
      stepped.result = .ok .retired ∧ (stepped.cpu.regs.get 0).toNat = 65534 ∧
        stepped.cpu.regs.pc.toNat = 0x3001 ∧ stepped.cpu.regs.cond = .negative := by
    intro bus hword stepped
    obtain ⟨hresult, hcpu, -⟩ := step_eq_reference Console.reliable_bufferConsole (start 0x3000)
      rfl bus trivial
    have hload : Reference.load bus.quiet 0x3000 = (0x103E, bus.quiet) := by
      rw [Reference.load, Bus.read_of_ne bus.quiet (by decide)]
      exact congrArg (fun w : Word => (w.toNat, bus.quiet)) hword
    rw [Reference.step_of_load (m := .ofCpu (start 0x3000)) hload rfl] at hresult hcpu
    have hregs := congrArg Reference.Machine.regs hcpu
    exact ⟨hresult, congrFun (congrArg Reference.Numbers.reg hregs) 0,
      congrArg Reference.Numbers.pc hregs, congrArg Reference.Numbers.cond hregs⟩
  exact hstep _ (Memory.get_set_self ..)

end LC3
