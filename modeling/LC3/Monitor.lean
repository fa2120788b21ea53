import LC3.Cpu
import LC3.Driver
import LC3.FileTree
import LC3.Image

/-!
# The monitor

A whole machine: a processor on a bus with the standard block device.

- `Monitor.start`: a machine as configured.
- `Monitor.loadBytes`, `Monitor.loadFile`: a program in its memory.
- `Monitor.step`, `Monitor.runFor`, `Monitor.run`: execution.
- `Monitor.driverRead`, `Monitor.driverWrite`: transfers asked for by the host.
- `Monitor.sync`: its memory in a file.
-/

namespace LC3

/-- A machine with a console of type `κ`. -/
structure Monitor (κ : Type) where
  /-- The processor. -/
  cpu : Cpu
  /-- Memory, devices and console. -/
  bus : Bus κ Device
  /-- Where a reset begins. -/
  pcStart : Word
  /-- The host's driver for the block device. -/
  driver : BlockDriver

/-- Lay out the ring of a block device and attach the device. -/
def Bus.attachBlock {κ : Type} (b : Bus κ Device) (d : BlockDevice) : Bus κ Device :=
  ((b.mapMemory d.ring.init).report (.ringLaid d.ring)).attach (.block d)

namespace Monitor

variable {κ : Type}

/-- A machine as configured, with the ring of its block device laid out. -/
def start (config : Config) (console : κ) (journal : Journal) : Monitor κ where
  cpu := { Cpu.start config.start with trace := config.traces }
  bus := (Bus.ofConsole console journal).attachBlock .standard
  pcStart := config.start
  driver := .standard config.pollLimit

/-- The machine with its processor as at the start. Memory and devices are kept. -/
def reset (v : Monitor κ) : Monitor κ := { v with cpu := v.cpu.reset v.pcStart }

/-- The machine with more input in the queue of its console. -/
def feed (v : Monitor BufferConsole) (bytes : List UInt8) : Monitor BufferConsole :=
  { v with bus := { v.bus with console := v.bus.console.feed bytes } }

/-! ## Loading and saving -/

/-- Load what a source delivers. -/
def load (v : Monitor κ) (source : ByteSource) : Except LoadError Loaded × Monitor κ :=
  let loading := v.bus.memory.load source
  (loading.result,
    { v with bus := { v.bus with memory := loading.memory }.reportAll loading.events })

/-- Load an image of given bytes. -/
def loadBytes (v : Monitor κ) (bytes : List UInt8) : Except LoadError Loaded × Monitor κ :=
  v.load (.ofBytes bytes)

/-- Load an image file. -/
def loadFile (v : Monitor κ) (files : FileTree) (name : String) :
    Except LoadError Loaded × Monitor κ :=
  match files.open? name with
  | .error cause => (.error (.unopened name cause), v)
  | .ok node =>
    match v.load node.source with
    | (.error cause, v) => (.error cause, v)
    | (.ok loaded, v) =>
      (.ok loaded, { v with bus := v.bus.report (.imageLoaded name loaded.count loaded.origin) })

/-- Place words in memory, as far as there are addresses, and say how many. -/
def loadWords (v : Monitor κ) (origin : Word) (values : List Word) : Nat × Monitor κ :=
  let (memory, stored) := v.bus.memory.loadAt origin values
  (stored, { v with bus := { v.bus with memory } })

/-- Write the whole memory to a file, as an image. -/
def sync (v : Monitor κ) (files : FileTree) (name : String) :
    Except IoError FileTree × Monitor κ :=
  match files.create name v.bus.memory.image with
  | .error cause => (.error cause, v)
  | .ok files => (.ok files, { v with bus := v.bus.report (.memorySynced name) })

/-! ## Execution -/

section Execution

variable [Console κ]

/-- Execute one instruction. -/
def step (v : Monitor κ) : Except ConsoleFault StepResult × Monitor κ :=
  let stepped := v.cpu.step v.bus
  (stepped.result, { v with cpu := stepped.cpu, bus := stepped.bus })

/-- Execute instructions until the machine stops or a service fails, at most `budget` of
them. -/
def runFor (v : Monitor κ) : Nat → Except ConsoleFault RunState × Monitor κ
  | 0 => (.ok v.cpu.state, v)
  | budget + 1 =>
    match v.step with
    | (.error fault, v) => (.error fault, v)
    | (.ok (.stopped state), v) => (.ok state, v)
    | (.ok .retired, v) => runFor v budget

/-- The machine after the start of a run is reported. -/
def announced (v : Monitor κ) : Monitor κ :=
  { v with bus := v.bus.report (.running v.cpu.regs.pc) }

/-- Report the start of a run, then execute instructions until the machine stops or a service
fails. A run that is still going after `fuel` instructions is cut short. -/
def run (v : Monitor κ) (fuel : Nat) : Except ConsoleFault RunState × Monitor κ :=
  v.announced.runFor fuel

/-! ## Transfers -/

/-- Read from the block device. -/
def driverRead (v : Monitor κ) (position : Int16) (count : Nat) :
    Except DriverError (List Word) × Monitor κ :=
  let (result, bus) := v.driver.read v.bus position count
  (result, { v with bus })

/-- Write to the block device. -/
def driverWrite (v : Monitor κ) (position : Int16) (data : List Word) :
    Except DriverError Unit × Monitor κ :=
  let (result, bus) := v.driver.write v.bus position data
  (result, { v with bus })

end Execution

/-- The machine in one line. -/
def describe (v : Monitor κ) : String :=
  "Monitor \x7b cpu: " ++ v.cpu.describe ++ ", pc_start: " ++ Text.wordHex v.pcStart ++
    ", .. \x7d"

end Monitor

end LC3
