import LC3.Proofs.Driver.Session
import LC3.Proofs.Image.Loading
import LC3.Proofs.Monitor.Isolation

/-!
# Programs and transfers of the host, interleaved

The host may ask the block device for transfers while a program is running, between any two of
its steps, and the program may use the doorbell and the buffers for purposes of its own. As long
as it keeps away from the header of the ring, the two do not notice each other: between the
transfers the ring is idle, and an idle ring is all that a transfer needs.

- `Monitor.Loads`: the machines that loading programs leads to.
- `Monitor.Interleaves`: the machines that steps and transfers in any order lead to.
- `Monitor.Quiet`: the invariant of both kinds of moves.
- `Monitor.undisturbed`: after any number of moves a transfer returns its answer, and a program
  cannot tell that it took place.
-/

namespace LC3

namespace Monitor

variable {κ : Type}

/-! ## Moves -/

/-- `Loads v w`: the machine `w` is `v` after programs were loaded, whatever came of it. -/
inductive Loads (v : Monitor κ) : Monitor κ → Prop where
  /-- Nothing was loaded. -/
  | nothing : Loads v v
  /-- An image was loaded from a source of bytes. -/
  | image {w : Monitor κ} (h : Loads v w) (source : ByteSource) : Loads v (w.load source).2
  /-- An image file was loaded. -/
  | file {w : Monitor κ} (h : Loads v w) (files : FileTree) (name : String) :
    Loads v (w.loadFile files name).2
  /-- Words were placed in memory. -/
  | words {w : Monitor κ} (h : Loads v w) (origin : Word) (values : List Word) :
    Loads v (w.loadWords origin values).2

variable [Console κ]

/-- Carry out a transfer that the host asks for. A write that succeeds returns no words. -/
def call (v : Monitor κ) : BlockDriver.Call → Except DriverError (List Word) × Monitor κ
  | .read position count => v.driverRead position count
  | .write position data =>
    let (result, v) := v.driverWrite position data
    (result.map fun _ => [], v)

/-- `Interleaves v w`: the machine `w` is `v` after steps of the program and transfers of the
host in some order. No step stores to the header of the ring, and every transfer is of a size
that fits. Steps may fail, and the machine may have stopped. -/
inductive Interleaves (v : Monitor κ) : Monitor κ → Prop where
  /-- Nothing has happened yet. -/
  | start : Interleaves v v
  /-- The program has taken a step. -/
  | guest {w : Monitor κ} (h : Interleaves v w)
    (hstore : ∀ a value, w.store? = some (a, value) → ¬ (0x7FFF ≤ a ∧ a ≤ 0x802B)) :
    Interleaves v w.step.2
  /-- The host has carried out a transfer. -/
  | host {w : Monitor κ} (h : Interleaves v w) {c : BlockDriver.Call} (hfits : c.Fits) :
    Interleaves v (w.call c).2

omit [Console κ] in
/-- Loading reaches the memory and what is reported, and nothing else. -/
theorem Loads.frame {v w : Monitor κ} (h : Loads v w) :
    w.driver = v.driver ∧ w.bus.devices = v.bus.devices := by
  induction h with
  | nothing => exact ⟨rfl, rfl⟩
  | image _ source ih => exact ih
  | file _ files name ih =>
    obtain ⟨memory, journal, hrest⟩ := loadFile_snd _ files name
    rw [hrest]
    exact ih
  | words _ origin values ih => exact ih

theorem call_eq (v : Monitor κ) (c : BlockDriver.Call) :
    v.call c = ((v.driver.perform v.bus c).1, { v with bus := (v.driver.perform v.bus c).2 }) := by
  cases c <;> rfl

/-! ## The invariant -/

/-- The host's driver faces the standard block device over an idle ring. -/
structure Quiet (pollLimit : UInt32) (v : Monitor κ) : Prop where
  /-- The driver is the standard one. -/
  driver : v.driver = .standard pollLimit
  /-- So is the device. -/
  device : ∃ dev, (BlockDriver.standard pollLimit).Faces v.bus dev
  /-- The ring is idle. -/
  idle : Ring.standard.Idle v.bus.memory

variable {pollLimit : UInt32} {v : Monitor κ}

/-- **Step of the program**: it leaves the ring as it is. -/
theorem Quiet.step (h : v.Quiet pollLimit) (hlimit : 1 ≤ pollLimit)
    (hstore : ∀ a value, v.store? = some (a, value) → ¬ Ring.standard.InHeader a) :
    v.step.2.Quiet pollLimit := by
  have hplaced := BlockDriver.placed_standard hlimit
  obtain ⟨dev, hfaces⟩ := h.device
  exact ⟨h.driver, BlockDriver.faces_step hplaced hfaces v.cpu,
    BlockDriver.idle_step hplaced (BlockDriver.unkeyed_standard pollLimit) hfaces h.idle hstore⟩

/-- **Step of the host**: a transfer returns its answer, leaves the ring ready for the next one
and touches nothing else. -/
theorem Quiet.call (h : v.Quiet pollLimit) (hlimit : 1 ≤ pollLimit) {c : BlockDriver.Call}
    (hfits : c.Fits) :
    (v.call c).1 = .ok c.answer ∧ (v.call c).2.Quiet pollLimit ∧ (v.call c).2.cpu = v.cpu ∧
      (v.call c).2.bus.console = v.bus.console ∧
      v.bus.memory.SameOn (BlockDriver.standard pollLimit).Beyond (v.call c).2.bus.memory := by
  obtain ⟨dev, hfaces⟩ := h.device
  obtain ⟨b', dev', hperform, hsettled, -⟩ :=
    BlockDriver.perform_of_idle (BlockDriver.placed_standard hlimit) hfaces h.idle hfits
  rw [call_eq, h.driver, hperform]
  exact ⟨rfl, ⟨rfl, ⟨dev', hsettled.faces⟩, hsettled.idle⟩, rfl, hsettled.console,
    hsettled.memory⟩

/-- **Run**: the invariant holds between any two moves. -/
theorem Interleaves.quiet {w : Monitor κ} (h : Interleaves v w) (hquiet : v.Quiet pollLimit)
    (hlimit : 1 ≤ pollLimit) : w.Quiet pollLimit := by
  induction h with
  | start => exact hquiet
  | guest _ hstore ih =>
    exact ih.step hlimit fun a value hsome hin =>
      hstore a value hsome (Ring.inHeader_standard.mp hin)
  | host _ hfits ih => exact (ih.call hlimit hfits).2.1

omit [Console κ] in
/-- A machine starts quiet, and stays so while programs are loaded elsewhere. -/
theorem quiet_of_loads (config : Config) (console : κ) (journal : Journal) {loaded : Monitor κ}
    (hload : Loads (start config console journal) loaded)
    (hheader : (start config console journal).bus.memory.SameOn Ring.standard.InHeader
      loaded.bus.memory) : loaded.Quiet config.pollLimit := by
  obtain ⟨hdriver, hdevices⟩ := hload.frame
  have hidle : Ring.standard.Idle (start config console journal).bus.memory :=
    Ring.standard.idle_init .zero
  exact ⟨hdriver, ⟨.standard, hdevices, rfl, rfl⟩, hidle.congr hheader⟩

/-- **Programs and transfers do not disturb each other**: on a machine with programs loaded
outside the header of the ring, after steps and transfers in any order, every transfer that fits
returns its answer, and it changes neither the processor nor the console nor any word beyond the
ring and the doorbell. -/
theorem undisturbed (config : Config) (hlimit : 1 ≤ config.pollLimit) (console : κ)
    (journal : Journal) {loaded v : Monitor κ}
    (hload : Loads (start config console journal) loaded)
    (hheader : ∀ a, 0x7FFF ≤ a → a ≤ 0x802B →
      loaded.bus.memory.get a = (start config console journal).bus.memory.get a)
    (hrun : Interleaves loaded v) (c : BlockDriver.Call) (hfits : c.Fits) :
    (v.call c).1 = .ok c.answer ∧ (v.call c).2.cpu = v.cpu ∧
      (v.call c).2.bus.console = v.bus.console ∧
      ∀ a, ¬ (0x7FFF ≤ a ∧ a ≤ 0x816B) → a ≠ 0x0100 →
        (v.call c).2.bus.memory.get a = v.bus.memory.get a := by
  have hloaded := quiet_of_loads config console journal hload fun a ha =>
    hheader a (Ring.inHeader_standard.mp ha).1 (Ring.inHeader_standard.mp ha).2
  obtain ⟨hanswer, -, hcpu, hconsole, hmemory⟩ := (hrun.quiet hloaded hlimit).call hlimit hfits
  exact ⟨hanswer, hcpu, hconsole,
    fun a hring hbell => hmemory a ⟨fun h => hring (Ring.within_standard.mp h), hbell⟩⟩

/-- A transfer after the first step of a program, `STI R0, #1`, that stores to the doorbell. -/
theorem undisturbed_after_doorbell :
    let loaded :=
      ((start {} (BufferConsole.ofInput []) .silent).loadWords 0x3000 [0xB001, 0, 0x0100]).2
    loaded.store? = some (0x0100, 0) ∧
      (loaded.step.2.call (.read (-2) 3)).1 = .ok [0x2E, 0x2F, 0x30] ∧
      (loaded.step.2.call (.read (-2) 3)).2.cpu = loaded.step.2.cpu := by
  intro loaded
  have hmemory : loaded.bus.memory =
      (((Ring.standard.init .zero).set 0x3000 0xB001).set 0x3001 0).set 0x3002 0x0100 := by
    show (Ring.standard.init .zero).placeFrom 0x3000 [0xB001, 0, 0x0100] = _
    rfl
  have hfetch : loaded.bus.read 0x3000 = (0xB001, loaded.bus) := by
    rw [Bus.read_of_ne loaded.bus (by decide), hmemory, Memory.get_set_other (by decide),
      Memory.get_set_other (by decide), Memory.get_set_self]
  have hpointer : loaded.bus.read 0x3002 = (0x0100, loaded.bus) := by
    rw [Bus.read_of_ne loaded.bus (by decide), hmemory, Memory.get_set_self]
  -- the pointer behind the instruction leads to the doorbell
  have hfetched : loaded.cpu.fetched loaded.bus = loaded.bus := by
    have huntraced : ¬ loaded.cpu.trace = true := by decide
    rw [Cpu.fetched, if_neg huntraced]
    exact congrArg Prod.snd hfetch
  have hdecode : Instruction.decode 0xB001 = .sti 0 1 := by decide
  have hstore : loaded.store? = some (0x0100, 0) := by
    rw [store?, Cpu.store?_of_running rfl, hfetched]
    show (Instruction.decode (loaded.bus.read 0x3000).1).store? _ _ = _
    rw [hfetch, hdecode]
    show some ((loaded.bus.read 0x3002).1, _) = _
    rw [hpointer]
    rfl
  have hheader : ∀ a, 0x7FFF ≤ a → a ≤ 0x802B →
      loaded.bus.memory.get a = (Ring.standard.init .zero).get a := by
    intro a hlow _
    rw [hmemory]
    repeat rw [Memory.get_set_other (by rintro rfl; exact absurd hlow (by decide))]
  have hrun : Interleaves loaded loaded.step.2 := by
    refine .guest .start fun a value hsome hin => ?_
    obtain ⟨rfl, -⟩ : 0x0100 = a ∧ 0 = value := by
      simpa only [Option.some.injEq, Prod.mk.injEq] using hstore.symm.trans hsome
    exact absurd hin (by decide)
  obtain ⟨hanswer, hcpu, -⟩ := undisturbed {} (by decide) (BufferConsole.ofInput []) .silent
    (.words .nothing 0x3000 [0xB001, 0, 0x0100]) hheader hrun (.read (-2) 3) (by decide)
  exact ⟨hstore, hanswer, hcpu⟩

end Monitor

end LC3
