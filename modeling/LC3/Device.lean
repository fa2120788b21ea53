import LC3.Block

/-!
# Devices

A device owns one entry of the interrupt window and answers the events stored there. It may
change the memory, which is raw to it: a device never causes an event.

- `Handler`: what the machine asks of a device.
- `Probe`: a device that only notes its events.
- `Device`: the devices that a machine can be given.
-/

namespace LC3

/-- What the machine asks of a device of type `δ`. -/
class Handler (δ : Type) where
  /-- The entry that the device owns. -/
  vector : δ → Word
  /-- The name of the device in reports. -/
  name : δ → String
  /-- The answer to an event, which is the word just stored at the entry. -/
  handle : δ → Memory → Word → Reply δ

instance : Handler BlockDevice where
  vector d := d.vector
  name _ := "virtio-blk"
  handle := BlockDevice.service

/-- A device that stores every event at a fixed address, for observation. -/
structure Probe where
  /-- The entry of the interrupt window that it owns. -/
  vector : Word
  /-- Where it stores the events. -/
  store : Word
  deriving DecidableEq

instance : Handler Probe where
  vector p := p.vector
  name _ := "probe"
  handle p m flags :=
    ⟨p, m.set p.store flags, if flags &&& 1 = 0 then .ignored else .serviced, []⟩

/-- The devices that a machine can be given. -/
inductive Device where
  /-- A block device. -/
  | block (d : BlockDevice)
  /-- A probe. -/
  | probe (p : Probe)
  deriving DecidableEq

/-- A reply with another view of the device. -/
def Reply.map {α β : Type} (f : α → β) (r : Reply α) : Reply β :=
  ⟨f r.device, r.memory, r.outcome, r.events⟩

instance : Handler Device where
  vector
    | .block d => Handler.vector d
    | .probe p => Handler.vector p
  name
    | .block d => Handler.name d
    | .probe p => Handler.name p
  handle
    | .block d, m, flags => (Handler.handle d m flags).map .block
    | .probe p, m, flags => (Handler.handle p m flags).map .probe

end LC3
