import LC3.Driver
import LC3.Proofs.Memory.Frame

/-!
# Accesses through the bus

Most accesses through the bus are nothing but accesses to its memory. This module says which
ones, and what the others do.

- `Bus.read_of_ne`: a load from anywhere but the keyboard status is a look at the memory.
- `Bus.Becomes`: a bus whose memory was exchanged while its devices and its console stayed
  as they were. Stores that no device answers are of this kind (`write_unclaimed`).
- `Bus.OnlyPolled`: a bus on which nothing but the keyboard registers has changed. Loads are of
  this kind (`onlyPolled_read`).
- `Bus.OnlyTalked`: a bus on which nothing has changed but the console. Every use of the console
  other than a poll is of this kind.
- `write_answered`: a store to the entry of a device is one event for that device, and
  `Bus.answering?` tells which device that is. `write_block` is the case of a single block device.
-/

namespace LC3

namespace Bus

variable {κ δ : Type}

/-! ## Loads -/

section Keyboard

variable [Console κ]

theorem read_of_ne (b : Bus κ δ) {a : Word} (h : a ≠ keyboardStatus) :
    b.read a = (b.memory.get a, b) := by
  simp only [read, if_neg h]

/-- Loads that avoid the keyboard status are one look at a run of words. -/
theorem readAll_eq {b : Bus κ δ} {a : Word} {count : Nat}
    (h : ∀ i < count, a + UInt16.ofNat i ≠ keyboardStatus) :
    BlockDriver.readAll b a count = (b.memory.readSlice a count, b) := by
  induction count generalizing a with
  | zero => rfl
  | succ count ih =>
    have hfirst : a ≠ keyboardStatus := by simpa using h 0 (Nat.succ_pos count)
    have hrest : ∀ i < count, a + 1 + UInt16.ofNat i ≠ keyboardStatus := by
      intro i hi
      rw [Memory.add_one_add_ofNat]
      exact h (i + 1) (Nat.succ_lt_succ hi)
    rw [BlockDriver.readAll, read_of_ne b hfirst]
    simp only [ih hrest, Memory.readSlice_succ]

end Keyboard

/-! ## Stores that no device answers -/

/-- The bus `b'` is the bus `b` with the memory `m`, up to what is recorded of events. -/
structure Becomes (b : Bus κ δ) (m : Memory) (b' : Bus κ δ) : Prop where
  /-- The memory is the new one. -/
  memory : b'.memory = m
  /-- The devices are the old ones. -/
  devices : b'.devices = b.devices
  /-- The console is the old one. -/
  console : b'.console = b.console

namespace Becomes

theorem refl (b : Bus κ δ) : b.Becomes b.memory b := ⟨rfl, rfl, rfl⟩

theorem trans {b b' b'' : Bus κ δ} {m m' : Memory} (h₁ : b.Becomes m b')
    (h₂ : b'.Becomes m' b'') : b.Becomes m' b'' :=
  ⟨h₂.memory, h₂.devices.trans h₁.devices, h₂.console.trans h₁.console⟩

theorem report {b b' : Bus κ δ} {m : Memory} (h : b.Becomes m b') (e : Event) :
    b.Becomes m (b'.report e) := ⟨h.memory, h.devices, h.console⟩

end Becomes

section Devices

variable [Handler δ]

/-- Whether an entry is owned depends on the devices alone. -/
theorem isClaimed_congr {b b' : Bus κ δ} (h : b'.devices = b.devices) (a : Word) :
    b'.isClaimed a = b.isClaimed a := by
  simp only [isClaimed, h]

theorem owner?_of_unclaimed {devices : List δ} {a : Word}
    (h : devices.any (Handler.vector · == a) = false) : owner? a devices = none := by
  induction devices with
  | nil => rfl
  | cons d rest ih =>
    rw [List.any_cons, Bool.or_eq_false_iff] at h
    have hd : Handler.vector d ≠ a := by simpa using h.1
    simp only [owner?, if_neg hd, ih h.2, Option.map_none]

/-- A store outside the interrupt window is a store to the memory. -/
theorem write_of_outside (b : Bus κ δ) {a : Word} (h : inInterruptWindow a = false) (v : Word) :
    b.write a v = b.mapMemory (·.set a v) := by
  rw [write, if_neg (Bool.eq_false_iff.mp h)]

/-- A store that no device answers is a store to the memory, also inside the interrupt
window. -/
theorem write_unclaimed (b : Bus κ δ) {a : Word} (h : b.isClaimed a = false) (v : Word) :
    b.Becomes (b.memory.set a v) (b.write a v) := by
  rw [write]
  split
  · have howner : owner? a (b.mapMemory (·.set a v)).devices = none := owner?_of_unclaimed h
    simp only [dispatch, report, howner]
    exact ⟨rfl, rfl, rfl⟩
  · exact ⟨rfl, rfl, rfl⟩

/-- Stores that no device answers are one run of stores to the memory. -/
theorem writeAll_unclaimed {b : Bus κ δ} {a : Word} {values : List Word}
    (h : ∀ i < values.length, b.isClaimed (a + UInt16.ofNat i) = false) :
    b.Becomes (b.memory.writeSlice a values) (BlockDriver.writeAll b a values) := by
  induction values generalizing b a with
  | nil => exact Becomes.refl b
  | cons value rest ih =>
    have hfirst : b.isClaimed a = false := by simpa using h 0 (Nat.succ_pos _)
    have hstore := b.write_unclaimed hfirst value
    -- a device that does not answer is still there for the next store
    have hrest : ∀ i < rest.length,
        (b.write a value).isClaimed (a + 1 + UInt16.ofNat i) = false := by
      intro i hi
      rw [isClaimed_congr hstore.devices, Memory.add_one_add_ofNat]
      exact h (i + 1) (Nat.succ_lt_succ hi)
    have hall := ih hrest
    rw [hstore.memory] at hall
    exact hstore.trans hall

/-! ## Stores that a device answers -/

/-- The number of the device that a store to `a` is delivered to: its place among the devices. -/
def answering? (b : Bus κ δ) (a : Word) : Option Nat :=
  if inInterruptWindow a then b.devices.findIdx? (Handler.vector · == a) else none

/-- Which device answers depends on the entries that the devices own. -/
theorem answering?_congr {b b' : Bus κ δ}
    (h : b'.devices.map Handler.vector = b.devices.map Handler.vector) (a : Word) :
    b'.answering? a = b.answering? a := by
  have hfind (x : Bus κ δ) : x.devices.findIdx? (Handler.vector · == a) =
      (x.devices.map Handler.vector).findIdx? (· == a) := by
    rw [List.findIdx?_map]
    rfl
  simp only [answering?, hfind, h]

/-- A device that is exchanged for one with the same entry answers in its place. -/
theorem answering?_set {b b' : Bus κ δ} {k : Nat} {d d' : δ} (hd : b.devices[k]? = some d)
    (hvector : Handler.vector d' = Handler.vector d) (hdevices : b'.devices = b.devices.set k d')
    (a : Word) : b'.answering? a = b.answering? a := by
  obtain ⟨hplace, rfl⟩ := List.getElem?_eq_some_iff.mp hd
  apply answering?_congr
  rw [hdevices, List.map_set, hvector, ← List.map_set, List.set_getElem_self]

/-- The first device that owns an entry stands at the first place at which one does. -/
theorem owner?_of_findIdx? {devices : List δ} {a : Word} {k : Nat} {d : δ}
    (h : devices.findIdx? (Handler.vector · == a) = some k) (hd : devices[k]? = some d) :
    owner? a devices = some (devices.take k, d, devices.drop (k + 1)) := by
  induction devices generalizing k with
  | nil => cases hd
  | cons x rest ih =>
    rw [List.findIdx?_cons] at h
    rw [owner?]
    by_cases hx : Handler.vector x = a
    · rw [if_pos (beq_iff_eq.mpr hx)] at h
      obtain rfl := Option.some.inj h
      obtain rfl := Option.some.inj hd
      rw [if_pos hx]
      rfl
    · rw [if_neg (by simpa using hx)] at h
      obtain ⟨j, hj, rfl⟩ := Option.map_eq_some_iff.mp h
      rw [if_neg hx, ih hj hd]
      rfl

theorem exists_of_answering? {b : Bus κ δ} {a : Word} {k : Nat} (h : b.answering? a = some k) :
    ∃ d, b.devices[k]? = some d := by
  obtain ⟨-, hfind⟩ := Option.ite_none_right_eq_some.mp h
  obtain ⟨hplace, -⟩ := List.findIdx?_eq_some_iff_getElem.mp hfind
  exact ⟨_, List.getElem?_eq_getElem hplace⟩

/-- **Delivery**: a store to the entry of a device is one event for that device. The completion
code goes to the entry last, and no other device notices. -/
theorem write_answered {b : Bus κ δ} {a : Word} {k : Nat} {d : δ} (h : b.answering? a = some k)
    (hd : b.devices[k]? = some d) (v : Word) :
    let reply := Handler.handle d (b.memory.set a v) v
    (b.write a v).memory =
        (match reply.outcome with
        | .ignored => reply.memory
        | .serviced => reply.memory.set a completion) ∧
      (b.write a v).devices = b.devices.set k reply.device ∧
      (b.write a v).console = b.console ∧
      (b.write a v).dispatched = b.dispatched + 1 ∧
      (b.write a v).lastDispatch = some (.handled reply.outcome) := by
  intro reply
  obtain ⟨hwindow, hfind⟩ := Option.ite_none_right_eq_some.mp h
  have howner : owner? a (b.mapMemory (·.set a v)).devices =
      some (b.devices.take k, d, b.devices.drop (k + 1)) := owner?_of_findIdx? hfind hd
  have hflags : (b.mapMemory (·.set a v)).memory.get a = v := Memory.get_set_self ..
  have hplace : k < b.devices.length := (List.getElem?_eq_some_iff.mp hd).1
  rw [write, if_pos hwindow, List.set_eq_take_append_cons_drop, if_pos hplace]
  simp only [dispatch, report, howner, hflags]
  simp only [mapMemory, show Handler.handle d (b.memory.set a v) v = reply from rfl]
  cases reply.outcome <;> exact ⟨rfl, rfl, rfl, rfl, rfl⟩

/-- A store that is delivered to no device is a store to the memory. -/
theorem write_unanswered {b : Bus κ δ} {a : Word} (h : b.answering? a = none) (v : Word) :
    b.Becomes (b.memory.set a v) (b.write a v) := by
  by_cases hwindow : inInterruptWindow a
  · rw [answering?, if_pos hwindow, List.findIdx?_eq_none_iff] at h
    exact b.write_unclaimed (List.any_eq_false.mpr (by simpa using h)) v
  · rw [write, if_neg hwindow]
    exact ⟨rfl, rfl, rfl⟩

end Devices

/-! ## Stores that ring a block device -/

section Block

variable {b : Bus κ Device} {dev : BlockDevice}

/-- The only entry of a bus with one block device is that of the device. -/
theorem isClaimed_block (h : b.devices = [.block dev]) (a : Word) :
    b.isClaimed a = (dev.vector == a) := by
  simp only [isClaimed, h, List.any_cons, List.any_nil, Bool.or_false]
  rfl

theorem isClaimed_block_of_ne (h : b.devices = [.block dev]) {a : Word} (ha : a ≠ dev.vector) :
    b.isClaimed a = false := by
  rw [isClaimed_block h]
  exact beq_false_of_ne ha.symm

/-- The memory that an event leaves: the completion code stands at the entry once the device
has serviced the event. -/
def afterEvent (r : Reply BlockDevice) (entry : Word) : Memory :=
  match r.outcome with
  | .ignored => r.memory
  | .serviced => r.memory.set entry completion

theorem afterEvent_of_serviced {r : Reply BlockDevice} (h : r.outcome = .serviced)
    (entry : Word) : afterEvent r entry = r.memory.set entry completion := by
  rw [afterEvent, h]

/-- A store to the entry of the only device is one event for it. -/
theorem write_block (h : b.devices = [.block dev]) (hwindow : inInterruptWindow dev.vector = true)
    (v : Word) :
    let reply := dev.service (b.memory.set dev.vector v) v
    (b.write dev.vector v).memory = afterEvent reply dev.vector ∧
      (b.write dev.vector v).devices = [.block reply.device] ∧
      (b.write dev.vector v).console = b.console := by
  intro reply
  have hanswering : b.answering? dev.vector = some 0 := by
    rw [answering?, if_pos hwindow, h, List.findIdx?_cons]
    exact if_pos (beq_iff_eq.mpr rfl)
  obtain ⟨hmemory, hdevices, hconsole, -⟩ := write_answered hanswering (by rw [h]; rfl) v
  rw [h] at hdevices
  exact ⟨hmemory, hdevices, hconsole⟩

end Block

/-! ## Uses of the console -/

section Keyboard

variable [Console κ]

/-- The addresses that no key ever reaches. -/
def OffKeyboard (a : Word) : Prop := a ≠ keyboardStatus ∧ a ≠ keyboardData

/-- Nothing on the bus has changed but the keyboard registers and the console. -/
structure OnlyPolled (b b' : Bus κ δ) : Prop where
  /-- The memory is the old one off the keyboard registers. -/
  memory : b.memory.SameOn OffKeyboard b'.memory
  /-- The devices are the old ones. -/
  devices : b'.devices = b.devices

omit [Console κ] in
theorem OnlyPolled.refl (b : Bus κ δ) : b.OnlyPolled b := ⟨.refl _ _, rfl⟩

omit [Console κ] in
theorem OnlyPolled.trans {b b' b'' : Bus κ δ} (h₁ : b.OnlyPolled b') (h₂ : b'.OnlyPolled b'') :
    b.OnlyPolled b'' := ⟨h₁.memory.trans h₂.memory, h₂.devices.trans h₁.devices⟩

omit [Console κ] in
theorem OnlyPolled.report {b b' : Bus κ δ} (h : b.OnlyPolled b') (e : Event) :
    b.OnlyPolled (b'.report e) := ⟨h.memory, h.devices⟩

omit [Console κ] in
theorem OnlyPolled.reportAll {b b' : Bus κ δ} (h : b.OnlyPolled b') (es : List Event) :
    b.OnlyPolled (b'.reportAll es) := ⟨h.memory, h.devices⟩

theorem onlyPolled_poll (b : Bus κ δ) : b.OnlyPolled b.poll := by
  have hdata : ∀ v, b.memory.SameOn OffKeyboard (b.memory.set keyboardData v) :=
    fun v => .set (fun h => h.2 rfl) v
  rw [poll]
  split
  · refine ⟨?_, rfl⟩
    exact (Memory.SameOn.set (fun h => h.1 rfl) _).trans (.set (fun h => h.2 rfl) _)
  · exact ⟨hdata 0, rfl⟩
  · exact ⟨hdata 0, rfl⟩

theorem onlyPolled_read (b : Bus κ δ) (a : Word) : b.OnlyPolled (b.read a).2 := by
  show b.OnlyPolled (if a = keyboardStatus then b.poll else b)
  split
  · exact b.onlyPolled_poll
  · exact .refl b

/-- Nothing on the bus has changed but the console and what is recorded of events. -/
structure OnlyTalked (b b' : Bus κ δ) : Prop where
  /-- The memory is the old one. -/
  memory : b'.memory = b.memory
  /-- The devices are the old ones. -/
  devices : b'.devices = b.devices

omit [Console κ] in
theorem OnlyTalked.trans {b b' b'' : Bus κ δ} (h₁ : b.OnlyTalked b') (h₂ : b'.OnlyTalked b'') :
    b.OnlyTalked b'' := ⟨h₂.memory.trans h₁.memory, h₂.devices.trans h₁.devices⟩

omit [Console κ] in
theorem OnlyTalked.onlyPolled {b b' : Bus κ δ} (h : b.OnlyTalked b') : b.OnlyPolled b' :=
  ⟨fun a _ => congrArg (·.get a) h.memory, h.devices⟩

theorem onlyTalked_readByte (b : Bus κ δ) : b.OnlyTalked b.readByte.2 := ⟨rfl, rfl⟩

theorem onlyTalked_emit (b : Bus κ δ) (bytes : List UInt8) : b.OnlyTalked (b.emit bytes).2 := by
  rw [emit]
  split
  · exact ⟨rfl, rfl⟩
  · exact ⟨rfl, rfl⟩

end Keyboard

end Bus

end LC3
