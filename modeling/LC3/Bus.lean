import LC3.Console
import LC3.Device

/-!
# The bus

The memory with everything that hangs on it. The machine loads and stores through the bus,
because two kinds of access do more than touch a word:

- loading the keyboard status asks the console for a key and latches it (`Bus.poll`);
- storing into the interrupt window delivers the stored word to the device that owns the
  entry, and the device is done before the store is (`Bus.dispatch`).

`Bus.read` and `Bus.write` are these accesses. Loaders, the string services and devices use
the memory itself.
-/

namespace LC3

/-- What became of an event. -/
inductive Dispatch where
  /-- No device owns the entry. -/
  | unclaimed
  /-- A device answered. -/
  | handled (outcome : Outcome)
  deriving DecidableEq, Repr

/-- Memory, devices and console of a machine. -/
structure Bus (κ δ : Type) where
  /-- The memory. -/
  memory : Memory
  /-- The console. -/
  console : κ
  /-- The devices, in the order in which they were attached. -/
  devices : List δ
  /-- How many events a device has answered. -/
  dispatched : Nat
  /-- What became of the latest event. -/
  lastDispatch : Option Dispatch
  /-- What was reported. -/
  journal : Journal

namespace Bus

variable {κ δ : Type}

/-- A bus over zeroed memory without devices. -/
def ofConsole (console : κ) (journal : Journal) : Bus κ δ :=
  ⟨.zero, console, [], 0, none, journal⟩

/-- The bus after an event is reported. -/
def report (b : Bus κ δ) (e : Event) : Bus κ δ := { b with journal := b.journal.record e }

/-- The bus after events are reported. -/
def reportAll (b : Bus κ δ) (es : List Event) : Bus κ δ :=
  { b with journal := b.journal.recordAll es }

/-- The bus after a change of its memory. -/
def mapMemory (b : Bus κ δ) (f : Memory → Memory) : Bus κ δ := { b with memory := f b.memory }

/-! ## Devices -/

section Devices

variable [Handler δ]

/-- The completion code that a serviced device leaves at its entry. -/
def completion : Word := 2

/-- The bus with one more device. It takes the place of an earlier device of its entry. -/
def attach (b : Bus κ δ) (d : δ) : Bus κ δ :=
  let entry := Handler.vector d
  { b with
    devices := b.devices.filter (Handler.vector · != entry) ++ [d]
    journal := b.journal.record (.registered (Handler.name d) entry) }

/-- Whether a device owns `entry`. -/
def isClaimed (b : Bus κ δ) (entry : Word) : Bool :=
  b.devices.any (Handler.vector · == entry)

/-- The devices before the first one that owns `entry`, that device, and those after it. -/
def owner? (entry : Word) : List δ → Option (List δ × δ × List δ)
  | [] => none
  | d :: rest =>
    if Handler.vector d = entry then some ([], d, rest)
    else (owner? entry rest).map fun (before, owner, after) => (d :: before, owner, after)

/-- Deliver the word at `entry` to the device that owns the entry. If the device has serviced
it, the completion code replaces the word; that store is raw and causes no further event. -/
def dispatch (b : Bus κ δ) (entry : Word) : Bus κ δ :=
  let b := b.report (.interrupt entry)
  match owner? entry b.devices with
  | none => { b with lastDispatch := some .unclaimed }
  | some (before, owner, after) =>
    let reply := Handler.handle owner b.memory (b.memory.get entry)
    let b := { b with
      memory := reply.memory
      devices := before ++ reply.device :: after
      dispatched := b.dispatched + 1
      lastDispatch := some (.handled reply.outcome)
      journal := b.journal.recordAll reply.events }
    match reply.outcome with
    | .ignored => b
    | .serviced => (b.mapMemory (·.set entry completion)).report (.replayed entry completion)

/-- Store with effects. -/
def write (b : Bus κ δ) (address value : Word) : Bus κ δ :=
  let b := b.mapMemory (·.set address value)
  if inInterruptWindow address then b.dispatch address else b

end Devices

/-! ## Keyboard -/

section Keyboard

variable [Console κ]

/-- Ask the console for a key. A key found is latched and marked as ready; otherwise the data
register is cleared and the status stays as it was, also when the console fails. -/
def poll (b : Bus κ δ) : Bus κ δ :=
  match Console.pollKey b.console with
  | (.ok (some key), console) =>
    { b with
      console
      memory := (b.memory.set keyboardStatus keyReady).set keyboardData key.toUInt16 }
  | (.ok none, console) => { b with console, memory := b.memory.set keyboardData 0 }
  | (.error cause, console) =>
    { b with
      console
      memory := b.memory.set keyboardData 0
      journal := b.journal.record (.pollFailed cause) }

/-- Load with effects. -/
def read (b : Bus κ δ) (address : Word) : Word × Bus κ δ :=
  let b := if address = keyboardStatus then b.poll else b
  (b.memory.get address, b)

/-- Take the next byte of input. -/
def readByte (b : Bus κ δ) : Except IoError (Option UInt8) × Bus κ δ :=
  let (result, console) := Console.readByte b.console
  (result, { b with console })

/-- Make all output visible. -/
def flush (b : Bus κ δ) : Except IoError Unit × Bus κ δ :=
  let (result, console) := Console.flush b.console
  (result, { b with console })

/-- Write bytes and make them visible. -/
def emit (b : Bus κ δ) (bytes : List UInt8) : Except IoError Unit × Bus κ δ :=
  match Console.writeBytes b.console bytes with
  | (.error cause, console) => (.error cause, { b with console })
  | (.ok (), console) => { b with console }.flush

end Keyboard

/-! ## Description -/

/-- The memory in one line. -/
def describeMemory (m : Memory) : String :=
  s!"Memory \x7b words: {addressCount}, used: {m.usedWords} \x7d"

/-- The bus in one line. -/
def describe [Handler δ] (b : Bus κ δ) : String :=
  let devices := b.devices.map fun d =>
    s!"({Text.quoted (Handler.name d)}, {(Handler.vector d).toNat})"
  "Bus \x7b memory: " ++ describeMemory b.memory ++
    ", interrupts: InterruptDispatcher \x7b handlers: [" ++ ", ".intercalate devices ++
    s!"], dispatched: {b.dispatched} \x7d, .. \x7d"

end Bus

end LC3
