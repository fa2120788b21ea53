import LC3.Event

/-!
# The block device

A device that answers requests announced in its ring. It has no storage: what is read
depends on the position alone, and of what is written only the latest is remembered.

- `BlockDevice.service`: one event at the device's entry.
- `BlockDevice.serveSlot`: one announced request.
- `BlockDevice.content`: the words that can be read.
-/

namespace LC3

/-- What a device did with an event. -/
inductive Outcome where
  /-- The device has been rung and has looked at its ring. -/
  | serviced
  /-- The event was not for the device. -/
  | ignored
  deriving DecidableEq, Repr

/-- A device of type `δ` and everything else after an event. -/
structure Reply (δ : Type) where
  /-- The device. -/
  device : δ
  /-- The memory. -/
  memory : Memory
  /-- What the device did. -/
  outcome : Outcome
  /-- What was reported meanwhile. -/
  events : List Event

/-- How often the block device met what. -/
structure BlockStats where
  /-- Rings of the doorbell. -/
  kicks : Nat := 0
  /-- Requests filled. -/
  reads : Nat := 0
  /-- Requests taken. -/
  writes : Nat := 0
  /-- Requests for something unknown. -/
  unsupported : Nat := 0
  /-- Announcements of descriptors that do not exist or are free. -/
  faults : Nat := 0
  deriving DecidableEq, Repr

/-- What was written to the block device. -/
structure WriteRecord where
  /-- Where. -/
  position : Int16
  /-- Which words. -/
  data : List Word
  deriving DecidableEq

/-- The block device. -/
structure BlockDevice where
  /-- Where its ring is. -/
  ring : Ring
  /-- The entry of the interrupt window that it owns. -/
  vector : Word
  /-- How often it met what. -/
  stats : BlockStats := {}
  /-- The latest write. -/
  lastWrite : Option WriteRecord := none
  deriving DecidableEq

namespace BlockDevice

/-- The block device of the standard machine. -/
def standard : BlockDevice := { ring := .standard, vector := defaultDoorbell }

/-- The bit of an event that rings the device. -/
def kick : Word := 1

/-- The word that is read at place `i` of a request at `position`. -/
def content (position : Int16) (i : Nat) : Word :=
  0x30 + position.toUInt16 + UInt16.ofNat i

/-- The words that are read by a request at `position`. -/
def contents (position : Int16) (count : Nat) : List Word :=
  (List.range count).map (content position)

/-- The number of payload words that are served for a request in a buffer of `capacity`
words. -/
def servedLength (q : Request) (capacity : Word) : Nat :=
  min q.payloadLength (capacity.toNat - headerWords)

/-- The outcome of a request: device, memory and reports. -/
structure Served where
  /-- The device. -/
  device : BlockDevice
  /-- The memory. -/
  memory : Memory
  /-- What was reported. -/
  events : List Event

/-- Fill the first `count` payload words of a request and answer it. -/
def fill (d : BlockDevice) (m : Memory) (i : Slot) (address : Word) (q : Request)
    (count : Nat) : Served :=
  let m := Request.clear m address
  let m := m.writeSlice (Request.payload address) (contents q.position count)
  let m := d.ring.setUsed m ⟨flagSet, i.word⟩
  { device := { d with stats.reads := d.stats.reads + 1 }
    memory := d.ring.setFlags m i flagSet
    events := [.blockRead q.position count] }

/-- Take the first `count` payload words of a request. It gets no answer. -/
def take (d : BlockDevice) (m : Memory) (address : Word) (q : Request) (count : Nat) : Served :=
  let m := Request.clear m address
  let data := m.readSlice (Request.payload address) count
  { device := { d with
      stats.writes := d.stats.writes + 1
      lastWrite := some ⟨q.position, data⟩ }
    memory := m
    events := [.blockWrite q.position data] }

/-- Serve the request in the buffer of descriptor `i`, which the device frees first. -/
def serveAllocated (d : BlockDevice) (m : Memory) (i : Slot) : Served :=
  let m := d.ring.setFlags m i 0
  let descriptor := d.ring.descriptor m i
  let q := Request.load m descriptor.addr
  let count := servedLength q descriptor.len
  let warning := if count < q.length.toNat then [.requestTruncated q.length count] else []
  let served :=
    match q.op with
    | .read => d.fill m i descriptor.addr q count
    | .write => d.take m descriptor.addr q count
    | .other code =>
      { device := { d with stats.unsupported := d.stats.unsupported + 1 }
        memory := m
        events := [.unsupportedOperation code] }
  { served with events := warning ++ served.events }

/-- Serve the request that the announced descriptor `index` holds. An index that names no
descriptor in use is a fault. -/
def serve (d : BlockDevice) (m : Memory) (index : Word) : Served :=
  let faulty := { d with stats.faults := d.stats.faults + 1 }
  match Ring.slot? index with
  | .error cause => ⟨faulty, m, [.requestDropped index cause]⟩
  | .ok i =>
    if d.ring.isAllocated m i then d.serveAllocated m i
    else ⟨faulty, m, [.notAllocated index]⟩

/-- Answer one event. The device is rung by bit 0 of the flags; it then takes back the
announcement, if there is one, and serves what was announced. -/
def service (d : BlockDevice) (m : Memory) (flags : Word) : Reply BlockDevice :=
  if flags &&& kick = 0 then ⟨d, m, .ignored, [.rung flags]⟩
  else
    let d := { d with stats.kicks := d.stats.kicks + 1 }
    let announced := d.ring.avail m
    if announced.flags &&& flagSet = 0 then
      ⟨d, m, .serviced, [.rung flags, .nothingAnnounced]⟩
    else
      let served := d.serve (d.ring.setAvail m ⟨0, announced.idx⟩) announced.idx
      ⟨served.device, served.memory, .serviced, .rung flags :: served.events⟩

end BlockDevice

end LC3
