import LC3.AddressMap
import LC3.Memory

/-!
# The descriptor ring

Driver and device share a ring in memory: a count, ten descriptors of four words, a slot in
which the driver announces a descriptor and a slot in which the device answers. Behind these
45 words lie ten buffers of 32 words, one for each descriptor. The ring is known by its base
address alone; everything else is read from memory, at addresses that wrap.

- `Ring.cell`, `Ring.buffer`: where the parts of the ring are.
- `Ring.slot?`: the check that an index names a descriptor.
- `Ring.init`: a fresh ring with every descriptor free.
- `Ring.findFree?`, `Ring.allocated`: the state of allocation, which the flags words hold.
-/

namespace LC3

/-- The number of descriptors. -/
abbrev ringSize : Nat := 10

/-- The words of one buffer. -/
def bufferWords : Word := 32

/-- The value of a flags word that is set. -/
def flagSet : Word := 1

/-- A descriptor of the ring. -/
abbrev Slot := Fin ringSize

/-- The index of a descriptor as memory holds it. -/
def Slot.word (i : Slot) : Word := UInt16.ofNat i.val

/-- Why the ring refuses an index. -/
inductive RingError where
  /-- There is no descriptor of this index. -/
  | outOfRange (index : Word)
  deriving DecidableEq, Repr

/-- The text reported for a refused index. -/
def RingError.message : RingError → String
  | .outOfRange index => s!"descriptor index {index.toNat} out of range (ring holds {ringSize})"

/-- The words of a descriptor, in order. -/
inductive DescriptorField where
  /-- The address of the buffer. -/
  | addr
  /-- The capacity of the buffer in words. -/
  | len
  /-- Not zero while the descriptor is allocated. -/
  | flags
  /-- The next descriptor of the chain. -/
  | next
  deriving DecidableEq, Repr

/-- The place of a field within its descriptor. -/
def DescriptorField.offset : DescriptorField → Word
  | .addr => 0
  | .len => 1
  | .flags => 2
  | .next => 3

/-- The contents of a descriptor. -/
structure Descriptor where
  /-- The address of the buffer. -/
  addr : Word
  /-- The capacity of the buffer in words. -/
  len : Word
  /-- Not zero while the descriptor is allocated. -/
  flags : Word
  /-- The next descriptor of the chain; zero ends it. -/
  next : Word
  deriving DecidableEq, Repr

/-- The words of a descriptor in the order in which memory holds them. -/
def Descriptor.words (d : Descriptor) : List Word := [d.addr, d.len, d.flags, d.next]

/-- A flag and the index of a descriptor: what driver and device tell each other. -/
structure Notice where
  /-- Whether there is something to tell; bit 0 counts. -/
  flags : Word
  /-- The descriptor that it is about. -/
  idx : Word
  deriving DecidableEq, Repr

/-- A ring, known by its base address. -/
structure Ring where
  /-- The address of the first word. -/
  base : Word
  deriving DecidableEq, Repr

namespace Ring

/-- The ring of the standard block device. -/
def standard : Ring := ⟨defaultRingBase⟩

/-! ## Layout -/

/-- The first word of descriptor `i`. -/
def descriptorStart (r : Ring) (i : Slot) : Word := r.base + (1 + i.word * 4)

/-- The address of one field of descriptor `i`. -/
def cell (r : Ring) (i : Slot) (f : DescriptorField) : Word := r.base + (1 + i.word * 4 + f.offset)

/-- The flags word in which the driver announces a request. -/
def availFlags (r : Ring) : Word := r.base + 41

/-- The word in which the driver names the announced descriptor. -/
def availIdx (r : Ring) : Word := r.base + 42

/-- The flags word in which the device answers. -/
def usedFlags (r : Ring) : Word := r.base + 43

/-- The word in which the device names the answered descriptor. -/
def usedIdx (r : Ring) : Word := r.base + 44

/-- The first word of the buffers. -/
def dataStart (r : Ring) : Word := r.base + 45

/-- The word behind the last buffer. -/
def dataEnd (r : Ring) : Word := r.dataStart + 320

/-- Where buffer number `index` begins. -/
def buffer (r : Ring) (index : Word) : Word := r.dataStart + index * bufferWords

/-- The descriptor of a given index. -/
def slot? (index : Word) : Except RingError Slot :=
  if h : index.toNat < ringSize then .ok ⟨index.toNat, h⟩ else .error (.outOfRange index)

/-- The address of one field of the descriptor `index`, if there is one. -/
def cell? (r : Ring) (index : Word) (f : DescriptorField) : Except RingError Word :=
  (slot? index).map (r.cell · f)

/-! ## Contents -/

/-- The word that holds the number of descriptors. -/
def num (r : Ring) (m : Memory) : Word := m.get r.base

/-- What descriptor `i` holds. -/
def descriptor (r : Ring) (m : Memory) (i : Slot) : Descriptor where
  addr := m.get (r.cell i .addr)
  len := m.get (r.cell i .len)
  flags := m.get (r.cell i .flags)
  next := m.get (r.cell i .next)

/-- What the descriptor `index` holds, if there is one. -/
def descriptor? (r : Ring) (m : Memory) (index : Word) : Except RingError Descriptor :=
  (slot? index).map (r.descriptor m)

/-- Whether descriptor `i` is in use. -/
def isAllocated (r : Ring) (m : Memory) (i : Slot) : Bool := m.get (r.cell i .flags) != 0

/-- Whether the descriptor `index`, if there is one, is in use. -/
def isAllocated? (r : Ring) (m : Memory) (index : Word) : Except RingError Bool :=
  (slot? index).map (r.isAllocated m)

/-- The memory after the flags of descriptor `i` are set. -/
def setFlags (r : Ring) (m : Memory) (i : Slot) (flags : Word) : Memory :=
  m.set (r.cell i .flags) flags

/-- The memory after the flags of the descriptor `index`, if there is one, are set. -/
def setFlags? (r : Ring) (m : Memory) (index flags : Word) : Except RingError Memory :=
  (slot? index).map (r.setFlags m · flags)

/-- The free descriptor of least index. The chain of `next` words is not followed. -/
def findFree? (r : Ring) (m : Memory) : Option Slot :=
  (List.finRange ringSize).find? fun i => !r.isAllocated m i

/-- The number of descriptors in use. -/
def allocated (r : Ring) (m : Memory) : Nat :=
  (List.finRange ringSize).countP (r.isAllocated m)

/-- What the driver announces. -/
def avail (r : Ring) (m : Memory) : Notice := ⟨m.get r.availFlags, m.get r.availIdx⟩

/-- The memory after the driver's announcement is stored. -/
def setAvail (r : Ring) (m : Memory) (n : Notice) : Memory :=
  (m.set r.availFlags n.flags).set r.availIdx n.idx

/-- What the device answers. -/
def used (r : Ring) (m : Memory) : Notice := ⟨m.get r.usedFlags, m.get r.usedIdx⟩

/-- The memory after the device's answer is stored. -/
def setUsed (r : Ring) (m : Memory) (n : Notice) : Memory :=
  (m.set r.usedFlags n.flags).set r.usedIdx n.idx

/-! ## A fresh ring -/

/-- Descriptor `i` of a fresh ring: free, with its own buffer, chained to the next one. -/
def freshDescriptor (r : Ring) (i : Slot) : Descriptor where
  addr := r.buffer i.word
  len := bufferWords
  flags := 0
  next := if i.val + 1 = ringSize then 0 else i.word + 1

/-- The memory after a fresh ring is laid out. The buffers keep what they hold. -/
def init (r : Ring) (m : Memory) : Memory :=
  let m := m.set r.base (UInt16.ofNat ringSize)
  let m := (List.finRange ringSize).foldl
    (fun m i => m.writeSlice (r.descriptorStart i) (r.freshDescriptor i).words) m
  r.setUsed (r.setAvail m ⟨0, 0⟩) ⟨0, 0⟩

end Ring

end LC3
