import LC3.Proofs.Cpu.Accesses
import LC3.Proofs.Cpu.Simulation
import LC3.Proofs.Cpu.Stop

/-!
# Steps that fail

A console may fail at any call. A poll of the keyboard that fails is as good as one that finds no
key, so what is left are the uses that a service makes of the console: a step fails exactly when it
calls a service and one of these uses fails. The service has then changed nothing but the console,
and the instruction nothing but the program counter and the link register.

- `Console.Use`, `Console.carryOut`: uses of a console, one after the other up to the first that
  fails.
- `Service.uses`: the uses that a service makes of the console.
- `Service.perform_uses`: a service fails exactly when its uses do.
- `Cpu.step_uses`: so does the step that calls the service.
- `Cpu.failed_step`: which steps fail, with which fault, and what they leave.
-/

namespace LC3

namespace Console

variable {κ : Type} [Console κ]

/-- A use of a console by a service. -/
inductive Use where
  /-- To take a byte of input. -/
  | read
  /-- To write bytes. -/
  | write (bytes : List UInt8)
  /-- To make all output visible. -/
  | flush
  deriving DecidableEq

/-- Whether a use works, and the console that is left. -/
def use (console : κ) : Use → Except IoError Unit × κ
  | .read => ((readByte console).1.map fun _ => (), (readByte console).2)
  | .write bytes => writeBytes console bytes
  | .flush => flush console

/-- Uses one after the other, up to the first that fails: what went wrong, if anything did, and the
console that is left. -/
def carryOut (console : κ) : List Use → Except IoError Unit × κ
  | [] => (.ok (), console)
  | u :: rest =>
    match use console u with
    | (.error cause, console) => (.error cause, console)
    | (.ok (), console) => carryOut console rest

end Console

open Console (Use carryOut)

variable {κ δ : Type} [Console κ]

namespace Bus

theorem flush_eq (b : Bus κ δ) :
    b.flush = ((carryOut b.console [.flush]).1,
      { b with console := (carryOut b.console [.flush]).2 }) := by
  simp only [flush, carryOut, Console.use]
  cases Console.flush b.console with
  | mk result console => cases result <;> rfl

theorem emit_eq (b : Bus κ δ) (bytes : List UInt8) :
    b.emit bytes = ((carryOut b.console [.write bytes, .flush]).1,
      { b with console := (carryOut b.console [.write bytes, .flush]).2 }) := by
  simp only [emit, carryOut, Console.use]
  cases Console.writeBytes b.console bytes with
  | mk result console =>
    cases result with
    | error cause => rfl
    | ok done =>
      simp only [flush]
      cases Console.flush console with
      | mk result console => cases result <;> rfl

end Bus

/-! ## Services -/

namespace Service

/-- The uses that a service makes of the console, with `r0` in `R0` and `m` in memory. `IN` writes
the byte that it takes, if there is one. -/
def uses (service : Service) (r0 : Word) (m : Memory) (console : κ) : List Use :=
  match service with
  | .getc => [.read]
  | .out => [.write [lowByte r0], .flush]
  | .puts => [.write (stringBytes m r0), .flush]
  | .echo =>
    match (Console.readByte console).1 with
    | .ok (some byte) => [.read, .write [byte], .flush]
    | _ => [.read]
  | .putsp => [.write (packedBytes m r0), .flush]
  | .halt => [.flush]

/-- What a service leaves when the uses that it makes of the console come out as `outcome`: it
fails if they do, and then it has set no register. Nothing changes on the bus but the console. -/
structure Follows (service : Service) (regs : Registers) (bus : Bus κ δ)
    (outcome : Except IoError Unit × κ) (effect : Effect κ δ) : Prop where
  /-- The service fails if one of the uses does. -/
  fails : ∀ fault, effect.signal = .error fault ↔
    fault.service = service ∧ outcome.1 = .error fault.cause
  /-- A service that fails sets no register. -/
  regs : ∀ fault, effect.signal = .error fault → effect.regs = regs
  /-- The bus has another console. -/
  bus : ∃ journal, effect.bus = { bus with console := outcome.2, journal }

omit [Console κ] in
/-- The two ways in which a service can end. -/
theorem Follows.of_cases {service : Service} {regs : Registers} {bus : Bus κ δ}
    {outcome : Except IoError Unit × κ} {effect : Effect κ δ} (journal : Journal)
    (hok : outcome.1 = .ok () → ∃ asked regs',
      effect = ⟨.ok asked, regs', { bus with console := outcome.2, journal }⟩)
    (herror : ∀ cause, outcome.1 = .error cause →
      effect = ⟨.error ⟨service, cause⟩, regs, { bus with console := outcome.2, journal }⟩) :
    service.Follows regs bus outcome effect := by
  cases hresult : outcome.1 with
  | ok done =>
    obtain ⟨asked, regs', rfl⟩ := hok hresult
    exact ⟨by simp [hresult], by simp, journal, rfl⟩
  | error cause =>
    obtain rfl := herror cause hresult
    refine ⟨fun fault => ?_, fun _ _ => rfl, journal, rfl⟩
    obtain ⟨running, wrong⟩ := fault
    simp [hresult, eq_comm]

omit [Console κ] in
theorem follows_settle (service : Service) (asked : Signal) (regs : Registers) (bus : Bus κ δ)
    (journal : Journal) (outcome : Except IoError Unit × κ) :
    service.Follows regs bus outcome
      (settle service asked regs (outcome.1, { bus with console := outcome.2, journal })) := by
  refine .of_cases journal (fun hok => ⟨asked, regs, ?_⟩) fun cause herror => ?_
  · rw [hok, settle]
  · rw [herror, settle]

/-- **A service fails exactly when one of its uses of the console does.** -/
theorem perform_uses (service : Service) (regs : Registers) (bus : Bus κ δ) :
    service.Follows regs bus
      (carryOut bus.console (service.uses (regs.get Reg.r0) bus.memory bus.console))
      (service.perform regs bus) := by
  cases service with
  | out | puts | putsp =>
    simp only [perform, Bus.emit_eq]
    exact follows_settle _ _ _ _ bus.journal _
  | halt =>
    simp only [perform, Bus.flush_eq]
    exact follows_settle _ _ _ bus _ _
  | getc =>
    simp only [perform, Bus.readByte, uses, carryOut, Console.use]
    obtain ⟨result, console⟩ := Console.readByte bus.console
    refine .of_cases bus.journal (fun hok => ?_) fun cause herror => ?_
    · cases result with
      | error cause => cases hok
      | ok byte => exact ⟨.proceed, _, rfl⟩
    · cases result with
      | error wrong => cases herror; rfl
      | ok byte => cases herror
  | echo =>
    simp only [perform, Bus.readByte, uses]
    rcases hread : Console.readByte bus.console with ⟨result, console⟩
    cases result with
    | error cause =>
      simp only [hread, carryOut, Console.use]
      exact follows_settle .echo .proceed regs bus bus.journal (.error cause, console)
    | ok byte =>
      cases byte with
      | none =>
        simp only [hread, carryOut, Console.use]
        refine .of_cases bus.journal (fun _ => ⟨.proceed, _, rfl⟩) fun cause herror => ?_
        cases herror
      | some byte =>
        -- the byte is written once it has been read
        have hrest : carryOut bus.console [.read, .write [byte], .flush] =
            carryOut console [.write [byte], .flush] := by
          rw [carryOut]
          simp only [Console.use, hread, Except.map]
        simp only [hrest, Bus.emit_eq]
        refine .of_cases bus.journal (fun hok => ?_) fun cause herror => ?_
        · rw [hok]
          exact ⟨.proceed, _, rfl⟩
        · rw [herror]

end Service

/-! ## Steps -/

/-- A word calls a service if it is a `TRAP` with the vector of one. -/
theorem Instruction.service?_decode (w : Word) :
    (decode w).service? = if w.toNat / 4096 = 15 then Service.ofVector (lowByte w) else none := by
  have hw := w.toNat_lt
  have hdigit : w.toNat / 4096 < 16 := by omega
  rw [decode_eq]
  generalize w.toNat / 4096 = digit at hdigit ⊢
  match digit, hdigit with
  | 4, _ => simp only; split <;> rfl
  | 0, _ | 1, _ | 2, _ | 3, _ | 5, _ | 6, _ | 7, _ | 8, _ | 9, _ | 10, _ | 11, _ | 12, _ | 13, _
  | 14, _ | 15, _ => rfl
  | digit + 16, h => omega

namespace Cpu

variable [Handler δ]

/-- A step that fails does not count, and the processor runs on. -/
theorem cpu_of_error {c : Cpu} {bus : Bus κ δ} (h : c.state = .running) {fault : ConsoleFault}
    (hfailed : (c.step bus).result = .error fault) :
    (c.step bus).cpu = { c with regs := (c.step bus).cpu.regs } := by
  obtain ⟨_, hresult, -⟩ | ⟨_, _, -, hcpu⟩ | ⟨_, -, hresult, -⟩ | ⟨_, -, hresult, -⟩ :=
    step_cases h bus
  · cases hresult.symm.trans hfailed
  · rw [hcpu]
  · cases hresult.symm.trans hfailed
  · cases hresult.symm.trans hfailed

omit [Handler δ] in
/-- A running processor calls a service if the word that it fetches is a `TRAP` with the vector of
that service. -/
theorem service?_eq_some_iff {c : Cpu} {bus : Bus κ δ} (h : c.state = .running) {s : Service} :
    c.service? bus = some s ↔ (bus.read c.regs.pc).1.toNat / 4096 = 15 ∧
      Service.ofVector (lowByte (bus.read c.regs.pc).1) = some s := by
  rw [service?, if_pos h]
  show (Instruction.decode (bus.read c.regs.pc).1).service? = _ ↔ _
  rw [Instruction.service?_decode, Option.ite_none_right_eq_some]

/-- **A step that calls a service** fails exactly when one of the uses of the service does, and
changes nothing on the bus but the console. If it fails, it has only stored the link. -/
theorem step_uses {c : Cpu} {bus : Bus κ δ} {s : Service} (hcalled : c.service? bus = some s) :
    let fetched := (bus.read c.regs.pc).2
    let outcome := carryOut fetched.console
      (s.uses (c.regs.get Reg.r0) fetched.memory fetched.console)
    (∀ fault, (c.step bus).result = .error fault ↔
      fault.service = s ∧ outcome.1 = .error fault.cause) ∧
    (∀ fault, (c.step bus).result = .error fault → (c.step bus).cpu.regs = c.calling) ∧
    (c.step bus).bus =
      { fetched with console := outcome.2, journal := (c.step bus).bus.journal } := by
  intro fetched outcome
  obtain ⟨haccesses, hregs, hbus, hresult⟩ := step_of_service? hcalled
  rw [haccesses] at hregs hbus hresult
  -- the link register is not the one that holds an argument
  have hr0 : c.calling.get Reg.r0 = c.regs.get Reg.r0 := c.get_calling Reg.r0
  have hfollows := s.perform_uses c.calling fetched
  rw [hr0] at hfollows
  refine ⟨fun fault => (hresult fault).trans (hfollows.fails fault),
    fun fault hfailed => hregs.trans (hfollows.regs fault ((hresult fault).mp hfailed)), ?_⟩
  obtain ⟨journal, hjournal⟩ := hfollows.bus
  have hquiet : (c.step bus).bus.quiet = { fetched with console := outcome.2 }.quiet := by
    refine hbus.trans ?_
    rw [show (s.perform c.calling (bus.accesses [.read c.regs.pc])).bus = _ from hjournal]
    rfl
  exact Bus.eq_of_quiet hquiet

/-- **Steps that fail**, on any console. A step of a running processor fails exactly when the word
that it fetches is a `TRAP` with the vector of a service and one of the uses that the service makes
of the console fails, and the fault names both. Then nothing has changed on the bus since the fetch
but the console and what was reported, and nothing in the processor but the program counter and the
link register, which both point behind the instruction. -/
theorem failed_step (c : Cpu) (bus : Bus κ δ) (h : c.state = .running) :
    let word := (bus.read c.regs.pc).1
    let fetched := (bus.read c.regs.pc).2
    let stepped := c.step bus
    let regs := stepped.cpu.regs
    ∀ fault : ConsoleFault,
      let outcome := carryOut fetched.console
        (fault.service.uses (c.regs.get Reg.r0) fetched.memory fetched.console)
      (stepped.result = .error fault ↔ word.toNat / 4096 = 15 ∧
        Service.ofVector (lowByte word) = some fault.service ∧
          outcome.1 = .error fault.cause) ∧
      (stepped.result = .error fault →
        (0x20 ≤ word.toNat % 256 ∧ word.toNat % 256 ≤ 0x25) ∧
        stepped.bus = { fetched with console := outcome.2, journal := stepped.bus.journal } ∧
        stepped.cpu = { c with regs } ∧ regs.pc = c.regs.pc + 1 ∧ regs.cond = c.regs.cond ∧
        ∀ r, regs.get r = if r = Reg.link then c.regs.pc + 1 else c.regs.get r) := by
  intro word fetched stepped regs fault outcome
  have hcalls : c.service? bus = some fault.service ↔ _ := service?_eq_some_iff h
  have hasked (hfailed : stepped.result = .error fault) : c.service? bus = some fault.service := by
    cases hcalled : c.service? bus with
    | none => exact absurd hfailed ((step_of_service?_none hcalled).2 fault)
    | some s => rw [(((step_uses hcalled).1 fault).mp hfailed).1]
  refine ⟨⟨fun hfailed => ?_, fun ⟨htrap, hvector, houtcome⟩ => ?_⟩, fun hfailed => ?_⟩
  · have hcalled := hasked hfailed
    obtain ⟨htrap, hvector⟩ := hcalls.mp hcalled
    exact ⟨htrap, hvector, (((step_uses hcalled).1 fault).mp hfailed).2⟩
  · have hcalled := hcalls.mpr ⟨htrap, hvector⟩
    exact ((step_uses hcalled).1 fault).mpr ⟨rfl, houtcome⟩
  · have hcalled := hasked hfailed
    obtain ⟨-, hvector⟩ := hcalls.mp hcalled
    obtain ⟨-, hregs, hbus⟩ := step_uses hcalled
    have hsame : regs = c.calling := hregs fault hfailed
    refine ⟨?_, hbus, cpu_of_error h hfailed, by rw [hsame]; rfl, by rw [hsame]; rfl, fun r => ?_⟩
    · rw [← toNat_lowByte, Reference.toNat_of_ofVector hvector]
      cases fault.service <;> decide
    · rw [hsame, get_calling]

/-- `IN` is fetched from the keyboard status, on a console that fails at every poll and at every
write. The poll goes unnoticed, one byte is taken, and it cannot be written. -/
theorem failed_step_echo :
    let console : Rationed BufferConsole := ⟨.ofInput [0x41], some 0, some 1, some 0, none⟩
    let bus : Bus (Rationed BufferConsole) Device :=
      (Bus.ofConsole console .silent).mapMemory (·.set keyboardStatus 0xF023)
    let c := Cpu.start keyboardStatus
    (c.step bus).result = .error ⟨.echo, .broken "write"⟩ ∧
      (c.step bus).bus.memory = bus.memory.set keyboardData 0 ∧
      (c.step bus).bus.console.inner = .ofInput [] ∧ (c.step bus).cpu.steps = 0 ∧
      (c.step bus).cpu.regs.pc = 0xFE01 ∧ (c.step bus).cpu.regs.get Reg.link = 0xFE01 := by
  intro console bus c
  -- all that matters of the memory is the word that is fetched
  have hword : bus.memory.get keyboardStatus = 0xF023 := by
    simp only [bus, Bus.mapMemory, Memory.get_set_self]
  have hconsole : bus.console = console := rfl
  clear_value bus
  have hpoll : bus.poll = { bus with
      memory := bus.memory.set keyboardData 0
      journal := bus.journal.record (.pollFailed (.broken "poll")) } := by
    simp only [Bus.poll, hconsole]
    rfl
  have hread : bus.read c.regs.pc = (0xF023, bus.poll) := by
    have hne : keyboardStatus ≠ keyboardData := by decide
    show (bus.poll.memory.get keyboardStatus, bus.poll) = _
    rw [hpoll, Memory.get_set_other hne, hword]
  have hpolled : bus.poll.console = console := by rw [hpoll, hconsole]
  obtain ⟨hfails, hleft⟩ := failed_step c bus rfl ⟨.echo, .broken "write"⟩
  simp only [hread, hpolled] at hfails hleft
  have hfailed : (c.step bus).result = .error ⟨.echo, .broken "write"⟩ :=
    hfails.mpr ⟨by decide, by decide, rfl⟩
  obtain ⟨-, hbus, hcpu, hpc, -, hgeneral⟩ := hleft hfailed
  refine ⟨hfailed, ?_, ?_, ?_, hpc, hgeneral Reg.link⟩
  · rw [show (c.step bus).bus = _ from hbus, hpoll]
  · rw [show (c.step bus).bus = _ from hbus]
    rfl
  · rw [show (c.step bus).cpu = _ from hcpu]
    rfl

end Cpu

end LC3
