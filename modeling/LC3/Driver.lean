import LC3.Bus

/-!
# The block driver of the host

The host asks the block device for transfers as a program would: it fills a free descriptor,
announces it, rings the doorbell and waits for the completion code. Every access but the
search for a free descriptor goes through the bus.

- `BlockDriver.read`, `BlockDriver.write`: one transfer each.
- `BlockDriver.submit`: everything up to the announcement.
- `BlockDriver.kickAndWait`: everything from the doorbell to the completion.
-/

namespace LC3

/-- Why a transfer did not take place. -/
inductive DriverError where
  /-- All descriptors are in use. -/
  | ringFull
  /-- The device did not complete the request in time. -/
  | timeout (polls : UInt32)
  /-- The device completed the request without an answer. -/
  | noCompletion
  /-- A buffer cannot hold so many words. -/
  | tooLarge (count : Nat)
  /-- The device named a descriptor that does not exist. -/
  | ring (cause : RingError)
  deriving DecidableEq, Repr

/-- The text reported for a failed transfer. -/
def DriverError.message : DriverError → String
  | .ringFull => "no free descriptor, request dropped"
  | .timeout polls => s!"no completion after {polls.toNat} polls of the interrupt register"
  | .noCompletion => "completion signalled without a used-ring response"
  | .tooLarge count => s!"payload of {count} words exceeds {maxPayload}"
  | .ring cause => cause.message

/-- A driver for the device behind a ring. -/
structure BlockDriver where
  /-- The ring shared with the device. -/
  ring : Ring
  /-- The entry at which the device is rung. -/
  doorbell : Word
  /-- How often to look for the completion code. -/
  pollLimit : UInt32
  deriving DecidableEq

namespace BlockDriver

variable {κ δ : Type} [Console κ] [Handler δ]

/-- The driver for the standard block device. -/
def standard (pollLimit : UInt32) : BlockDriver := ⟨.standard, defaultDoorbell, pollLimit⟩

/-- Store words one after the other through the bus. -/
def writeAll (b : Bus κ δ) (address : Word) : List Word → Bus κ δ
  | [] => b
  | value :: rest => writeAll (b.write address value) (address + 1) rest

/-- Load words one after the other through the bus. -/
def readAll (b : Bus κ δ) (address : Word) : Nat → List Word × Bus κ δ
  | 0 => ([], b)
  | count + 1 =>
    let (value, b) := b.read address
    let (rest, b) := readAll b (address + 1) count
    (value :: rest, b)

/-- Put a request with its payload into the buffer of the first free descriptor and announce
it. -/
def submit (driver : BlockDriver) (b : Bus κ δ) (q : Request) (payload : List Word) :
    Except DriverError Slot × Bus κ δ :=
  let ring := driver.ring
  match ring.findFree? b.memory with
  | none => (.error .ringFull, b.report (.ringFull q.op))
  | some i =>
    let (address, b) := b.read (ring.cell i .addr)
    let b := b.write (ring.cell i .flags) flagSet
    let b := writeAll b address q.header
    let b := writeAll b (Request.payload address) payload
    let b := b.write ring.availFlags flagSet
    let b := b.write ring.availIdx i.word
    (.ok i, b)

/-- Look for the completion code at most `polls` times. -/
def awaitCompletion (driver : BlockDriver) (b : Bus κ δ) : Nat → Bool × Bus κ δ
  | 0 => (false, b)
  | polls + 1 =>
    let (value, b) := b.read driver.doorbell
    if value = Bus.completion then (true, b) else awaitCompletion driver b polls

/-- Ring the doorbell and wait for the completion code. -/
def kickAndWait (driver : BlockDriver) (b : Bus κ δ) : Except DriverError Unit × Bus κ δ :=
  let b := b.write driver.doorbell BlockDevice.kick
  let (done, b) := driver.awaitCompletion b driver.pollLimit.toNat
  (if done then .ok () else .error (.timeout driver.pollLimit), b)

/-- Take the answer of a read: acknowledge it, free the descriptor that it names, and load
`count` words from its buffer. -/
def collect (driver : BlockDriver) (b : Bus κ δ) (count : Nat) :
    Except DriverError (List Word) × Bus κ δ :=
  let ring := driver.ring
  let (answered, b) := b.read ring.usedFlags
  if answered ≠ flagSet then (.error .noCompletion, b)
  else
    let b := b.write ring.usedFlags 0
    let (index, b) := b.read ring.usedIdx
    match Ring.slot? index with
    | .error cause => (.error (.ring cause), b)
    | .ok i =>
      let (flags, b) := b.read (ring.cell i .flags)
      if flags ≠ flagSet then (.error .noCompletion, b)
      else
        let b := b.write (ring.cell i .flags) 0
        let (address, b) := b.read (ring.cell i .addr)
        let (values, b) := readAll b (Request.payload address) count
        (.ok values, b)

/-- Read `count` words at `position`. -/
def read (driver : BlockDriver) (b : Bus κ δ) (position : Int16) (count : Nat) :
    Except DriverError (List Word) × Bus κ δ :=
  if maxPayload < count then (.error (.tooLarge count), b)
  else
    match driver.submit b ⟨.read, position, UInt16.ofNat count⟩ [] with
    | (.error cause, b) => (.error cause, b)
    | (.ok i, b) =>
      match driver.kickAndWait (b.report (.submitted .read i.word)) with
      | (.error cause, b) => (.error cause, b)
      | (.ok (), b) => driver.collect b count

/-- Write `data` at `position`. -/
def write (driver : BlockDriver) (b : Bus κ δ) (position : Int16) (data : List Word) :
    Except DriverError Unit × Bus κ δ :=
  if maxPayload < data.length then (.error (.tooLarge data.length), b)
  else
    match driver.submit b ⟨.write, position, UInt16.ofNat data.length⟩ data with
    | (.error cause, b) => (.error cause, b)
    | (.ok i, b) => driver.kickAndWait (b.report (.submitted .write i.word))

end BlockDriver

end LC3
