import LC3.Proofs.Cpu.Accesses
import LC3.Proofs.Cpu.Stop
import LC3.Proofs.Monitor.Interleaving

/-!
# The history of the keyboard registers

Loading the keyboard status asks the console for a key, whichever part of an instruction does it.
What the console answered so far determines both keyboard registers, as long as nobody else writes
them: a program that stores there, or a device that was led out of its ring.

- `Bus.polled?`, `Monitor.polls`: what the console answered, one poll after the other.
- `Memory.Latches`: the keyboard registers tell of these answers.
- `Bus.Keyed`: what makes them do so, kept by accesses, by services and by steps.
- `Monitor.keyboard_history`: the registers in runs of any length, also in the middle of a step.
-/

namespace LC3

/-- What the console answers when it is asked for a key. -/
abbrev Poll := Except IoError (Option UInt8)

/-- The key that an answer brings. -/
def Poll.key? : Poll → Option UInt8
  | .ok key => key
  | .error _ => none

/-- The keyboard registers after polls: the status says whether any of them brought a key, and the
data register holds what the last one brought. -/
structure Memory.Latches (m : Memory) (polls : List Poll) : Prop where
  /-- A key that was found stays on record. -/
  status : m.get keyboardStatus = if polls.any (·.key?.isSome) then keyReady else 0
  /-- Every poll puts its own key in place of the one before. -/
  data : m.get keyboardData = ((polls.getLast?.bind Poll.key?).map UInt8.toUInt16).getD 0

theorem Memory.Latches.congr {m n : Memory} {polls : List Poll} (h : m.Latches polls)
    (hstatus : n.get keyboardStatus = m.get keyboardStatus)
    (hdata : n.get keyboardData = m.get keyboardData) : n.Latches polls :=
  ⟨hstatus.trans h.status, hdata.trans h.data⟩

/-! ## Polls -/

namespace Bus

/-- Whether an access asks the console for a key. -/
def Access.polls : Access → Bool
  | .read a => a = keyboardStatus
  | .write .. | .change _ => false

variable {κ δ : Type} [Console κ]

/-- What the console answers if an access asks it for a key. -/
def polled? (b : Bus κ δ) (x : Access) : Option Poll :=
  if x.polls then some (Console.pollKey b.console).1 else none

/-- **A poll** puts its answer into the keyboard registers. -/
theorem latches_poll {b : Bus κ δ} {polls : List Poll} (h : b.memory.Latches polls) :
    b.poll.memory.Latches (polls ++ [(Console.pollKey b.console).1]) := by
  have hne : keyboardStatus ≠ keyboardData := by decide
  rw [poll]
  rcases Console.pollKey b.console with ⟨cause | (_ | key), console⟩
  case ok.some =>
    constructor
    · simp [Poll.key?, Memory.get_set_other hne]
    · simp [Poll.key?]
  -- without a key the status stays as it is, also when the console fails
  all_goals
    constructor
    · simp [Poll.key?, Memory.get_set_other hne, h.status]
    · simp [Poll.key?]

theorem latches_read {b : Bus κ δ} {polls : List Poll} (h : b.memory.Latches polls) (a : Word) :
    (b.read a).2.memory.Latches (polls ++ (b.polled? (.read a)).toList) := by
  show (if a = keyboardStatus then b.poll else b).memory.Latches _
  by_cases ha : a = keyboardStatus
  · simpa [polled?, Access.polls, ha] using latches_poll h
  · simpa [polled?, Access.polls, ha] using h

end Bus

/-! ## The invariant -/

namespace BlockDriver

variable {driver : BlockDriver}

/-- An access that a program may make without having a hand in the keyboard registers: any load,
and a store that reaches neither them nor the address words of the descriptors. -/
def Spares (driver : BlockDriver) : Bus.Access → Prop
  | .read _ => True
  | .write a _ => Bus.OffKeyboard a ∧ ∀ i, a ≠ driver.ring.cell i .addr
  | .change _ => False

/-- The keyboard registers lie beyond the ring and the doorbell. -/
theorem beyond_keyboard (hplaced : driver.Placed) (hkeys : driver.Unkeyed) :
    driver.Beyond keyboardStatus ∧ driver.Beyond keyboardData := by
  have hdata : driver.doorbell ≠ keyboardData := by
    intro e
    have hwindow := hplaced.window
    rw [e] at hwindow
    exact absurd hwindow (by decide)
  exact ⟨⟨hplaced.status, hplaced.doorbell_ne.symm⟩, fun h => (hkeys _ h).2 rfl, hdata.symm⟩

end BlockDriver

namespace Bus

variable {κ : Type} {b b' : Bus κ Device} {driver : BlockDriver} {polls : List Poll}

/-- The keyboard registers tell of `polls`, and the driver's device does not leave its ring. -/
structure Keyed (b : Bus κ Device) (driver : BlockDriver) (polls : List Poll) : Prop where
  /-- The device is the driver's. -/
  device : ∃ dev, driver.Faces b dev
  /-- Descriptors have their own buffers. -/
  intact : driver.ring.Intact b.memory
  /-- The registers tell of the polls. -/
  latches : b.memory.Latches polls

/-- Only the memory and the devices matter. -/
theorem Keyed.talked (h : b.Keyed driver polls) (hb : b.OnlyTalked b') :
    b'.Keyed driver polls := by
  obtain ⟨⟨dev, hfaces⟩, hintact, hlatches⟩ := h
  rw [← hb.memory] at hintact hlatches
  exact ⟨⟨dev, hfaces.polled hb.onlyPolled⟩, hintact, hlatches⟩

theorem Keyed.of_quiet (h : b.Keyed driver polls) (hquiet : b'.quiet = b.quiet) :
    b'.Keyed driver polls := by
  rw [eq_of_quiet hquiet]
  exact h.talked ⟨rfl, rfl⟩

variable [Console κ]

/-- **An access**: a load of the status adds one poll, and nothing else adds any. -/
theorem Keyed.access (hplaced : driver.Placed) (hkeys : driver.Unkeyed)
    (h : b.Keyed driver polls) {x : Access} (hx : driver.Spares x) :
    (b.access x).Keyed driver (polls ++ (b.polled? x).toList) := by
  obtain ⟨dev, hfaces⟩ := h.device
  cases x with
  | read a =>
    have hpolled := b.onlyPolled_read a
    exact ⟨⟨dev, hfaces.polled hpolled⟩, BlockDriver.intact_polled hkeys h.intact hpolled,
      latches_read h.latches a⟩
  | write a v =>
    obtain ⟨⟨hstatus, hdata⟩, haddr⟩ := hx
    obtain ⟨hintact, hsame⟩ := BlockDriver.intact_write hplaced hfaces h.intact haddr v
    obtain ⟨hbeyond, hbeyond'⟩ := BlockDriver.beyond_keyboard hplaced hkeys
    have hnone : polls ++ (b.polled? (.write a v)).toList = polls := List.append_nil polls
    rw [hnone]
    exact ⟨BlockDriver.faces_write hplaced hfaces a v, hintact, h.latches.congr
      ((hsame _ hbeyond).trans (Memory.get_set_other hstatus.symm))
      ((hsame _ hbeyond').trans (Memory.get_set_other hdata.symm))⟩
  | change f => exact hx.elim

/-- **Accesses**, one after the other. -/
theorem Keyed.accesses (hplaced : driver.Placed) (hkeys : driver.Unkeyed)
    (h : b.Keyed driver polls) {xs : List Access} (hxs : ∀ x ∈ xs, driver.Spares x) :
    (b.accesses xs).Keyed driver (polls ++ b.notes polled? xs) := by
  induction xs generalizing b polls with
  | nil => rwa [notes, List.append_nil]
  | cons x rest ih =>
    rw [List.forall_mem_cons] at hxs
    have hfirst := h.access hplaced hkeys hxs.1
    rw [notes, ← List.append_assoc]
    exact ih hfirst hxs.2

/-- **A step**: its polls are those of its accesses. -/
theorem Keyed.step (hplaced : driver.Placed) (hkeys : driver.Unkeyed) (h : b.Keyed driver polls)
    {c : Cpu} (hspares : ∀ x ∈ c.accesses b, driver.Spares x) :
    (c.step b).bus.Keyed driver (polls ++ b.notes polled? (c.accesses b)) := by
  have haccesses := h.accesses hplaced hkeys hspares
  cases hservice : c.service? b with
  | none => exact haccesses.of_quiet (Cpu.step_of_service?_none hservice).1
  | some s =>
    obtain ⟨-, -, hquiet, -⟩ := Cpu.step_of_service? hservice
    exact (haccesses.talked (Service.onlyTalked_perform _ _ s)).of_quiet hquiet

end Bus

/-! ## Machines -/

namespace Monitor

variable {κ : Type} [Console κ]

/-- The accesses of the next step. -/
def accesses (v : Monitor κ) : List Bus.Access := v.cpu.accesses v.bus

/-- The service that the next step calls. -/
def service? (v : Monitor κ) : Option Service := v.cpu.service? v.bus

/-- What `f` says of each of the first `n` steps, on the machine that takes the step. -/
def collect {α : Type} (f : Monitor κ → List α) (v : Monitor κ) (n : Nat) : List α :=
  (List.range n).flatMap fun k => f (v.after k)

theorem collect_succ {α : Type} (f : Monitor κ → List α) (v : Monitor κ) (n : Nat) :
    v.collect f (n + 1) = v.collect f n ++ f (v.after n) := by
  simp only [collect, List.range_succ, List.flatMap_append, List.flatMap_singleton]

/-- What the console answered in the first `n` steps, whenever it was asked for a key. -/
def polls (v : Monitor κ) (n : Nat) : List Poll :=
  v.collect (fun w => w.bus.notes Bus.polled? w.accesses) n

/-- A step whose store spares the keyboard registers and the address words spares them in all of
its accesses. -/
theorem spares_accesses {driver : BlockDriver} {v : Monitor κ}
    (h : ∀ a value, v.store? = some (a, value) →
      Bus.OffKeyboard a ∧ ∀ i, a ≠ driver.ring.cell i .addr) :
    ∀ x ∈ v.accesses, driver.Spares x := by
  intro x hx
  obtain ⟨a, rfl⟩ | ⟨a, value, rfl, hstore⟩ := Cpu.store?_of_mem_accesses hx
  · trivial
  · exact h a value hstore

/-- **Run**: the polls of all steps so far are on record. -/
theorem keyed_after {driver : BlockDriver} {v : Monitor κ} (hplaced : driver.Placed)
    (hkeys : driver.Unkeyed) (h : v.bus.Keyed driver []) {n : Nat}
    (hspares : ∀ k < n, ∀ x ∈ (v.after k).accesses, driver.Spares x) :
    (v.after n).bus.Keyed driver (v.polls n) := by
  induction n with
  | zero => exact h
  | succ n ih =>
    have hpast := ih fun k hk => hspares k (Nat.lt_succ_of_lt hk)
    rw [polls, collect_succ]
    exact hpast.step hplaced hkeys (hspares n (Nat.lt_succ_self n))

omit [Console κ] in
/-- A machine is started with nothing in its keyboard registers, and loading programs elsewhere
keeps it so. -/
theorem keyed_of_loads (config : Config) (console : κ) (journal : Journal) {loaded : Monitor κ}
    (hload : Loads (start config console journal) loaded)
    (hsame : (start config console journal).bus.memory.SameOn
      (fun a => a = keyboardStatus ∨ a = keyboardData ∨ ∃ i, a = Ring.standard.cell i .addr)
      loaded.bus.memory) : loaded.bus.Keyed (.standard 1) [] := by
  obtain ⟨-, hdevices⟩ := hload.frame
  have hmemory : (start config console journal).bus.memory = Ring.standard.init .zero := rfl
  rw [hmemory] at hsame
  have hzero (a : Word) (ha : ¬ Ring.standard.InHeader a) :
      (Ring.standard.init .zero).get a = 0 :=
    (Ring.standard.sameOn_init .zero a ha).trans (Memory.get_zero a)
  refine ⟨⟨.standard, hdevices, rfl, rfl⟩, ?_, ?_, ?_⟩
  · exact (Ring.standard.idle_init .zero).intact.congr hsame fun i => .inr (.inr ⟨i, rfl⟩)
  · exact (hsame _ (.inl rfl)).trans (hzero _ (by decide))
  · exact (hsame _ (.inr (.inl rfl))).trans (hzero _ (by decide))

/-- **The history of the keyboard registers**: on a machine with programs loaded elsewhere than to
the keyboard registers and the address words of the descriptors, in a run of any length whose
stores avoid these as well, the keyboard registers tell of all polls so far, between two steps and
between two accesses of a step. Whatever a poll comes to, it does not stop the processor: only
`HALT` and the operations that do not exist do, and a step fails only if a service does. -/
theorem keyboard_history (config : Config) (console : κ) (journal : Journal) {loaded : Monitor κ}
    (hload : Loads (start config console journal) loaded)
    (hkeys : ∀ a, a = keyboardStatus ∨ a = keyboardData →
      loaded.bus.memory.get a = (start config console journal).bus.memory.get a)
    (hbuffers : ∀ i : Slot, loaded.bus.memory.get (0x8000 + 4 * i.word) =
      (start config console journal).bus.memory.get (0x8000 + 4 * i.word))
    (n : Nat)
    (hstores : ∀ k < n, ∀ a value, (loaded.after k).store? = some (a, value) →
      a ≠ keyboardStatus ∧ a ≠ keyboardData ∧ ∀ i : Slot, a ≠ 0x8000 + 4 * i.word) :
    (∀ k ≤ n, (loaded.after k).bus.memory.Latches (loaded.polls k)) ∧
    (∀ k < n, ∀ i, let v := loaded.after k
      let xs := v.accesses.take i
      (v.bus.accesses xs).memory.Latches (loaded.polls k ++ v.bus.notes Bus.polled? xs)) ∧
    ∀ k, let v := loaded.after k
      v.cpu.state = .running →
      let word := (v.bus.read v.cpu.regs.pc).1
      (v.step.2.cpu.state = .running ∨ IsHalt word ∨ IsMissing word) ∧
        ∀ fault, v.step.1 = .error fault → ∃ s, v.service? = some s ∧
          (s.perform v.cpu.calling (v.bus.accesses v.accesses)).signal = .error fault := by
  -- the host makes no transfers here, so any driver will do, however impatient
  have hplaced := BlockDriver.placed_standard (show (1 : UInt32) ≤ 1 by decide)
  have hunkeyed := BlockDriver.unkeyed_standard 1
  have hloaded : loaded.bus.Keyed (.standard 1) [] := by
    refine keyed_of_loads config console journal hload ?_
    rintro a (ha | ha | ⟨i, rfl⟩)
    · exact hkeys a (.inl ha)
    · exact hkeys a (.inr ha)
    · rw [Ring.cell_addr_standard]
      exact hbuffers i
  have hspares : ∀ k < n, ∀ x ∈ (loaded.after k).accesses,
      (BlockDriver.standard 1).Spares x := by
    intro k hk
    apply spares_accesses
    intro a value hstore
    obtain ⟨hstatus, hdata, haddr⟩ := hstores k hk a value hstore
    refine ⟨⟨hstatus, hdata⟩, fun i => ?_⟩
    rw [show (BlockDriver.standard 1).ring.cell i .addr = _ from Ring.cell_addr_standard i]
    exact haddr i
  have hrun (k : Nat) (hk : k ≤ n) : (loaded.after k).bus.Keyed (.standard 1) (loaded.polls k) :=
    keyed_after hplaced hunkeyed hloaded fun j hj => hspares j (Nat.lt_of_lt_of_le hj hk)
  refine ⟨fun k hk => (hrun k hk).latches, fun k hk i => ?_, fun k => ?_⟩
  · exact ((hrun k (Nat.le_of_lt hk)).accesses hplaced hunkeyed
      fun x hx => hspares k hk x (List.mem_of_mem_take hx)).latches
  · intro v hrunning word
    constructor
    · obtain ⟨_, -, hcpu⟩ | ⟨_, _, -, hcpu⟩ | ⟨_, hhalt, -⟩ | ⟨_, hmissing, -⟩ :=
        Cpu.step_cases hrunning v.bus
      · exact .inl ((congrArg Cpu.state hcpu).trans hrunning)
      · exact .inl ((congrArg Cpu.state hcpu).trans hrunning)
      · exact .inr (.inl hhalt)
      · exact .inr (.inr (BadOpcode.isMissing hmissing))
    · intro fault hfault
      cases hservice : v.service? with
      | none => exact absurd hfault ((Cpu.step_of_service?_none hservice).2 fault)
      | some s =>
        obtain ⟨-, -, -, hfails⟩ := Cpu.step_of_service? hservice
        exact ⟨s, rfl, (hfails fault).mp hfault⟩

/-- `LDI` through a pointer to the keyboard status asks for a key once and goes on. -/
theorem step_of_ldi {v : Monitor κ} {dr : Reg} {offset : Word} (hrun : v.cpu.state = .running)
    (hpc : v.cpu.regs.pc ≠ keyboardStatus)
    (hdecode : Instruction.decode (v.bus.memory.get v.cpu.regs.pc) = .ldi dr offset)
    (hplace : v.cpu.regs.pc + 1 + offset ≠ keyboardStatus)
    (hpointer : v.bus.memory.get (v.cpu.regs.pc + 1 + offset) = keyboardStatus) :
    v.store? = none ∧ v.step.2.cpu.state = .running ∧
      v.step.2.cpu.regs.pc = v.cpu.regs.pc + 1 ∧ v.step.2.bus.quiet = v.bus.poll.quiet ∧
      v.bus.notes Bus.polled? v.accesses = [(Console.pollKey v.bus.console).1] := by
  have hfetch := v.bus.read_of_ne hpc
  have hload : v.bus.read (v.cpu.regs.pc + 1 + offset) = (keyboardStatus, v.bus) := by
    rw [v.bus.read_of_ne hplace, hpointer]
  have haccesses : v.accesses = [.read v.cpu.regs.pc, .read (v.cpu.regs.pc + 1 + offset),
      .read keyboardStatus] := by
    rw [accesses, Cpu.accesses, if_pos hrun]
    simp only [hfetch, hdecode, Instruction.accesses, hload]
  have hservice : v.service? = none := by
    rw [service?, Cpu.service?, if_pos hrun, hfetch, hdecode]
    rfl
  refine ⟨?_, ?_, ?_, ?_, ?_⟩
  · rw [store?, Cpu.store?, if_pos hrun]
    simp only [hfetch, hdecode, Instruction.store?]
  · show (v.cpu.step v.bus).cpu.state = _
    rw [Cpu.step_of_running hrun, hfetch, hdecode]
    exact hrun
  · show (v.cpu.step v.bus).cpu.regs.pc = _
    rw [Cpu.step_of_running hrun, (Cpu.regs_finish _ _ _ _).1, hfetch, hdecode]
    rfl
  · refine (Cpu.step_of_service?_none hservice).1.trans ?_
    show (v.bus.accesses v.accesses).quiet = _
    rw [haccesses]
    show (((v.bus.read _).2.read _).2.read keyboardStatus).2.quiet = _
    rw [hfetch, hload]
    rfl
  · rw [haccesses]
    show (v.bus.polled? (.read _)).toList ++ (((v.bus.read _).2.polled? (.read _)).toList ++
      ((((v.bus.read _).2.read _).2.polled? (.read keyboardStatus)).toList ++ [])) = _
    rw [hfetch, hload]
    simp [Bus.polled?, Bus.Access.polls, hpc, hplace]

/-- Two instructions ask for a key, on a console that answers once and then fails: `LDI R0, #1` and
`LDI R0, #0`, with a pointer to the status behind them. -/
theorem keyboard_history_of_two_polls :
    let console : Rationed BufferConsole := ⟨.ofInput [0x41], some 1, none, none, none⟩
    let loaded := ((start {} console .silent).loadWords 0x3000 [0xA001, 0xA000, 0xFE00]).2
    loaded.polls 2 = [.ok (some 0x41), .error (.broken "poll")] ∧
      (loaded.after 1).bus.memory.get keyboardStatus = 0x8000 ∧
      (loaded.after 1).bus.memory.get keyboardData = 0x41 ∧
      (loaded.after 2).bus.memory.get keyboardStatus = 0x8000 ∧
      (loaded.after 2).bus.memory.get keyboardData = 0 ∧
      (loaded.after 2).cpu.state = .running := by
  intro console loaded
  have hload : Loads (start {} console .silent) loaded :=
    .words .nothing 0x3000 [0xA001, 0xA000, 0xFE00]
  have hmemory : loaded.bus.memory =
      (((Ring.standard.init .zero).set 0x3000 0xA001).set 0x3001 0xA000).set 0x3002 0xFE00 := by
    show (Ring.standard.init .zero).placeFrom 0x3000 [0xA001, 0xA000, 0xFE00] = _
    rfl
  have hcode : loaded.bus.memory.get 0x3000 = 0xA001 ∧ loaded.bus.memory.get 0x3001 = 0xA000 ∧
      loaded.bus.memory.get 0x3002 = keyboardStatus := by
    rw [hmemory]
    refine ⟨?_, ?_, Memory.get_set_self ..⟩
    · rw [Memory.get_set_other (by decide), Memory.get_set_other (by decide), Memory.get_set_self]
    · rw [Memory.get_set_other (by decide), Memory.get_set_self]
  have helsewhere (a : Word) (ha : 0x3002 < a) :
      loaded.bus.memory.get a = (start {} console .silent).bus.memory.get a := by
    rw [hmemory]
    repeat rw [Memory.get_set_other (by rintro rfl; exact absurd ha (by decide))]
    rfl
  have hconsole : loaded.bus.console = console := rfl
  have hpc : loaded.cpu.regs.pc = 0x3000 := rfl
  have hstate : loaded.cpu.state = .running := rfl
  -- nothing else matters of the machine
  clear_value loaded
  have hdecode : Instruction.decode 0xA001 = .ldi 0 1 ∧ Instruction.decode 0xA000 = .ldi 0 0 := by
    decide
  obtain ⟨hstore, hrun, hnext, hquiet, hpoll⟩ := step_of_ldi hstate (by rw [hpc]; decide)
    (by rw [hpc, hcode.1]; exact hdecode.1) (by rw [hpc]; decide) (by rw [hpc]; exact hcode.2.2)
  -- the first poll changes nothing but the keyboard registers and the console
  obtain ⟨journal, hpolled⟩ : ∃ journal, loaded.step.2.bus = { loaded.bus.poll with journal } :=
    ⟨_, Bus.eq_of_quiet hquiet⟩
  have hkept (a : Word) (ha : Bus.OffKeyboard a) :
      loaded.step.2.bus.memory.get a = loaded.bus.memory.get a := by
    rw [hpolled]
    exact loaded.bus.onlyPolled_poll.memory a ha
  have hspent : loaded.step.2.bus.console = ⟨.ofInput [], some 0, none, none, none⟩ := by
    rw [hpolled]
    show loaded.bus.poll.console = _
    rw [Bus.poll, hconsole]
    rfl
  have hpc₁ : loaded.step.2.cpu.regs.pc = 0x3001 := by
    rw [hnext, hpc]
    rfl
  obtain ⟨hstore₁, hrun₁, -, -, hpoll₁⟩ := step_of_ldi hrun (by rw [hpc₁]; decide)
    (by rw [hpc₁, hkept _ ⟨by decide, by decide⟩, hcode.2.1]; exact hdecode.2)
    (by rw [hpc₁]; decide) (by rw [hpc₁, hkept _ ⟨by decide, by decide⟩]; exact hcode.2.2)
  have hone : loaded.polls 1 = [.ok (some 0x41)] := by
    rw [polls, collect_succ]
    show [] ++ loaded.bus.notes Bus.polled? loaded.accesses = _
    rw [hpoll, hconsole]
    rfl
  have htwo : loaded.polls 2 = [.ok (some 0x41), .error (.broken "poll")] := by
    rw [polls, collect_succ, ← polls, hone]
    show _ ++ loaded.step.2.bus.notes Bus.polled? loaded.step.2.accesses = _
    rw [hpoll₁, hspent]
    rfl
  obtain ⟨hlatches, -⟩ := keyboard_history {} console .silent hload
    (by rintro a (rfl | rfl) <;> exact helsewhere _ (by decide))
    (fun i => helsewhere _ (by revert i; decide)) 2 (by
      intro k hk a value h
      obtain rfl | rfl : k = 0 ∨ k = 1 := by omega
      · cases hstore.symm.trans h
      · cases hstore₁.symm.trans h)
  have hfirst := hlatches 1 (by decide)
  have hsecond := hlatches 2 (by decide)
  rw [hone] at hfirst
  rw [htwo] at hsecond
  exact ⟨htwo, hfirst.status, hfirst.data, hsecond.status, hsecond.data, hrun₁⟩

end Monitor

end LC3
