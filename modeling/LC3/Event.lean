import LC3.Config
import LC3.Instruction
import LC3.IoError
import LC3.Request

/-!
# Events

Everything the machine reports while it works. An event is a value, which says what
happened; its level and its text follow from it.

- `Level`: how much an event matters.
- `Event`, `Event.level`, `Event.message`: what is reported.
- `Journal`: the events of at least a given level.
-/

namespace LC3

/-- How much an event matters, from the most urgent to the least. -/
inductive Level where
  /-- The program cannot go on. -/
  | error
  /-- Something was asked for in vain. -/
  | warn
  /-- Something worth knowing. -/
  | info
  /-- Inner workings. -/
  | debug
  /-- Every single step. -/
  | trace
  deriving DecidableEq, Repr

namespace Level

/-- The place of a level in the order of urgency. -/
def rank : Level → Nat
  | error => 0
  | warn => 1
  | info => 2
  | debug => 3
  | trace => 4

/-- The name of a level in a log. -/
def name : Level → String
  | error => "ERROR"
  | warn => "WARN"
  | info => "INFO"
  | debug => "DEBUG"
  | trace => "TRACE"

/-- The level of a name. -/
def ofName? (s : String) : Option Level :=
  [error, warn, info, debug, trace].find? (·.name = s)

end Level

/-- The direction of a transfer. -/
inductive Transfer where
  /-- Words from the device. -/
  | read
  /-- Words to the device. -/
  | write
  deriving DecidableEq, Repr

/-- The name of a transfer in reports. -/
def Transfer.name : Transfer → String
  | read => "read"
  | write => "write"

/-- Something that happened. -/
inductive Event where
  /-- A ring was laid out. -/
  | ringLaid (ring : Ring)
  /-- A device was registered at an entry. -/
  | registered (name : String) (entry : Word)
  /-- A store reached the interrupt window. -/
  | interrupt (entry : Word)
  /-- Completion was stored at an entry. -/
  | replayed (entry completion : Word)
  /-- The block device was rung. -/
  | rung (flags : Word)
  /-- The block device was rung with nothing announced. -/
  | nothingAnnounced
  /-- An announced descriptor does not exist. -/
  | requestDropped (index : Word) (cause : RingError)
  /-- An announced descriptor is free. -/
  | notAllocated (index : Word)
  /-- A request asks for more words than its buffer holds. -/
  | requestTruncated (requested : Word) (served : Nat)
  /-- A request was filled. -/
  | blockRead (position : Int16) (count : Nat)
  /-- A request was taken. -/
  | blockWrite (position : Int16) (data : List Word)
  /-- A request asks for something unknown. -/
  | unsupportedOperation (code : Word)
  /-- The driver submitted a request. -/
  | submitted (transfer : Transfer) (index : Word)
  /-- The driver found no free descriptor. -/
  | ringFull (op : Operation)
  /-- The keyboard could not be asked. -/
  | pollFailed (cause : IoError)
  /-- A program called a service that does not exist. -/
  | unknownService (vector : UInt8) (address : Word)
  /-- A program asked to stop. -/
  | haltCalled (address : Word)
  /-- An instruction is about to execute. -/
  | executing (address word : Word)
  /-- The machine stopped as asked. -/
  | halted (address : Word) (steps : Nat)
  /-- The machine met an operation that it does not have. -/
  | badOpcode (opcode : BadOpcode) (word address : Word)
  /-- A run begins. -/
  | running (pc : Word)
  /-- An image does not fit below the ceiling. -/
  | imageTruncated (origin : Word)
  /-- An image file was loaded. -/
  | imageLoaded (path : String) (count : Nat) (origin : Word)
  /-- The memory was written to a file. -/
  | memorySynced (path : String)
  /-- The environment sets the address of the first instruction. -/
  | startOverridden (pc : Word)
  /-- The environment sets the file that receives the memory. -/
  | syncOverridden (path : String)
  /-- A setting of the environment makes no sense. -/
  | overrideIgnored (name value : String)
  /-- A configuration file was read. -/
  | configRead (path : String)
  /-- A configuration file is not well formed. -/
  | configMalformed (path : String)
  /-- A configuration file could not be read. -/
  | configUnreadable (path : String) (cause : IoError)
  /-- The configuration is complete. -/
  | configured (config : Config)

namespace Event

/-- How much an event matters. -/
def level : Event → Level
  | badOpcode .. => .error
  | requestDropped .. | requestTruncated .. | unsupportedOperation .. | ringFull .. => .warn
  | pollFailed .. | unknownService .. | imageTruncated .. => .warn
  | overrideIgnored .. | configMalformed .. | configUnreadable .. => .warn
  | blockRead .. | blockWrite .. | halted .. | running .. => .info
  | imageLoaded .. | memorySynced .. => .info
  | startOverridden .. | syncOverridden .. | configRead .. => .info
  | ringLaid .. | registered .. | interrupt .. | rung .. | nothingAnnounced .. => .debug
  | notAllocated .. | submitted .. | haltCalled .. | configured .. => .debug
  | replayed .. | executing .. => .trace

open Text in
/-- The text of an event. -/
def message : Event → String
  | ringLaid ring =>
    s!"vring at {wordHex ring.base}: {ringSize} descriptors, data " ++
      s!"{wordHex ring.dataStart}..{wordHex ring.dataEnd}"
  | registered name entry => s!"Registered {name} at interrupt entry {wordHex entry}"
  | interrupt entry => s!"Interrupt entry {wordHex entry}"
  | replayed entry completion => s!"Replay {wordHex entry} -> {wordHex completion}"
  | rung flags => s!"virtio handler: flags {wordHex flags}"
  | nothingAnnounced => "virtio: kick with empty available ring"
  | requestDropped index cause =>
    s!"virtio: dropped request on descriptor {index.toNat}: {cause.message}"
  | notAllocated index => s!"virtio: descriptor {index.toNat} announced but not allocated"
  | requestTruncated requested served =>
    s!"virtio: request length {requested.toNat} truncated to {served} words"
  | blockRead position count => s!"virtio read pos: {position.toInt} len: {count}"
  | blockWrite position data =>
    let text := String.ofList (data.map fun w => Char.ofNat (lowByte w).toNat)
    s!"virtio write pos: {position.toInt} len: {data.length} buf: {quoted text}"
  | unsupportedOperation code => s!"virtio: unsupported block operation {wordHex code}"
  | submitted transfer index =>
    s!"driver: {transfer.name} submitted on descriptor {index.toNat}"
  | ringFull op => s!"driver: ring full, dropping {op.name}"
  | pollFailed cause => s!"keyboard poll failed: {cause.message}"
  | unknownService vector address =>
    s!"unknown trap vector x{upperHex 2 vector.toNat} at {wordHex address}"
  | haltCalled address => s!"HALT at {wordHex address}"
  | executing address word =>
    s!"{wordHex address}: {upperHex 4 word.toNat}  {(Instruction.decode word).text}"
  | halted address steps => s!"halted at {wordHex address} after {steps} instructions"
  | badOpcode opcode word address =>
    s!"bad opcode {opcode.name} ({wordHex word}) at {wordHex address}"
  | running pc => s!"running from {wordHex pc}"
  | imageTruncated origin =>
    s!"image at {wordHex origin} runs past the top of memory, remainder ignored"
  | imageLoaded path count origin => s!"loaded {path}: {count} words at {wordHex origin}"
  | memorySynced path => s!"memory synced to {path}"
  | startOverridden pc => s!"Using LC3_VMM_PC_START from environment: {wordHex pc}"
  | syncOverridden path => s!"Using LC3_VMM_MEMORY_SYNC from environment: {path}"
  | overrideIgnored name value => s!"Ignoring {name}={quoted value}"
  | configRead path => s!"Loaded config from {path}"
  | configMalformed path => s!"Failed to parse {path}"
  | configUnreadable path cause => s!"Failed to read {path}: {cause.message}"
  | configured config => s!"Loaded configuration: {config.describe}"

end Event

/-- The events of at least a given level, oldest first. Without a level nothing is kept. -/
structure Journal where
  /-- The least urgent level that is kept. -/
  threshold : Option Level
  /-- What was kept. -/
  events : Array Event

namespace Journal

/-- A journal that keeps nothing. -/
def silent : Journal := ⟨none, #[]⟩

/-- An empty journal for a level. -/
def ofLevel (level : Option Level) : Journal := ⟨level, #[]⟩

/-- Whether a journal keeps events of a level. -/
def keeps (j : Journal) (level : Level) : Bool :=
  match j.threshold with
  | none => false
  | some threshold => level.rank ≤ threshold.rank

/-- The journal after one more event. -/
def record (j : Journal) (e : Event) : Journal :=
  if j.keeps e.level then { j with events := j.events.push e } else j

/-- The journal after more events. -/
def recordAll (j : Journal) (es : List Event) : Journal := es.foldl record j

/-- The journal without what it kept so far. -/
def cleared (j : Journal) : Journal := { j with events := #[] }

end Journal

end LC3
