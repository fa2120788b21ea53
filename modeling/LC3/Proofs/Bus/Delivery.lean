import LC3.Proofs.Block.Count
import LC3.Proofs.Bus.Access

/-!
# Delivery of events

A store into the interrupt window is delivered to one device and to no other, and the device is
answered before the store ends. What the device does to the memory meanwhile causes no event,
even where it meets the interrupt window.

- `getElem?_devices_write`: what a store makes of each device.
- `HasBlock`: types of devices in which block devices occur, among devices of any behaviour.
- `Bus.Access`, `Bus.founds`: accesses to a bus, and what the kicks among them find.
- `accounts_access`, `accounts_accesses`: a block device counts every kick and what it finds.
- `Bus.answered_once`: a kick is answered once, and the counters tell so.
-/

namespace LC3

namespace Bus

variable {κ δ : Type}

/-! ## One store -/

section Devices

variable [Handler δ]

/-- A store changes a device only if it is delivered to the device, and then as the device
likes. -/
theorem getElem?_devices_write (b : Bus κ δ) (a v : Word) {k : Nat} {d : δ}
    (hd : b.devices[k]? = some d) :
    (b.write a v).devices[k]? =
      some (if b.answering? a = some k then (Handler.handle d (b.memory.set a v) v).device
        else d) := by
  by_cases h : b.answering? a = some k
  · have hplace : k < b.devices.length := (List.getElem?_eq_some_iff.mp hd).1
    rw [(write_answered h hd v).2.1, List.getElem?_set_self hplace, if_pos h]
  rw [if_neg h]
  cases hother : b.answering? a with
  | none => rw [(write_unanswered hother v).devices, hd]
  | some j =>
    have hne : j ≠ k := by
      rintro rfl
      exact h hother
    obtain ⟨e, he⟩ := exists_of_answering? hother
    rw [(write_answered hother he v).2.1, List.getElem?_set_ne hne, hd]

/-- A device that is attached is the one that answers at its entry. -/
theorem answering?_attach (b : Bus κ δ) {d : δ} (h : inInterruptWindow (Handler.vector d)) :
    (b.attach d).answering? (Handler.vector d) = some ((b.attach d).devices.length - 1) := by
  have hothers : (b.devices.filter (Handler.vector · != Handler.vector d)).findIdx?
      (Handler.vector · == Handler.vector d) = none := by
    rw [List.findIdx?_eq_none_iff]
    intro e he
    simpa using (List.mem_filter.mp he).2
  rw [answering?, if_pos h]
  simp [attach, List.findIdx?_append, hothers, List.findIdx?_cons]

theorem getElem?_attach (b : Bus κ δ) (d : δ) :
    (b.attach d).devices[(b.attach d).devices.length - 1]? = some d := by
  simp [attach]

end Devices

end Bus

/-! ## Block devices among others -/

/-- A type of devices in which block devices occur. Whatever else occurs in it may answer events as
it likes. -/
class HasBlock (δ : Type) [Handler δ] where
  /-- A block device. -/
  block : BlockDevice → δ
  /-- It owns the entry of the block device. -/
  vector_block : ∀ d, Handler.vector (block d) = d.vector
  /-- It answers as the block device does. -/
  handle_block : ∀ d m flags, Handler.handle (block d) m flags = (d.service m flags).map block

instance : HasBlock Device := ⟨.block, fun _ => rfl, fun _ _ _ => rfl⟩

namespace Bus

open HasBlock (block vector_block handle_block)

variable {κ δ : Type}

section Block

variable [Handler δ] [HasBlock δ] {b : Bus κ δ} {k : Nat} {d : BlockDevice}

/-- A store to the entry of a block device is one event for it and for no other device. -/
theorem write_block_answered (h : b.answering? d.vector = some k)
    (hd : b.devices[k]? = some (block d)) (v : Word) :
    let reply := d.service (b.memory.set d.vector v) v
    (b.write d.vector v).memory = afterEvent reply d.vector ∧
      (b.write d.vector v).devices = b.devices.set k (block reply.device) ∧
      (b.write d.vector v).console = b.console ∧
      (b.write d.vector v).dispatched = b.dispatched + 1 ∧
      (b.write d.vector v).lastDispatch = some (.handled reply.outcome) := by
  have hwrite := write_answered h hd v
  rw [handle_block] at hwrite
  exact hwrite

end Block

/-! ## Accesses, one after the other -/

/-- What can be done to a bus. -/
inductive Access where
  /-- A load. -/
  | read (address : Word)
  /-- A store. -/
  | write (address value : Word)
  /-- A change of the memory that the bus does not notice. -/
  | change (f : Memory → Memory)

variable [Console κ] [Handler δ]

/-- The bus after an access. -/
def access (b : Bus κ δ) : Access → Bus κ δ
  | .read a => (b.read a).2
  | .write a v => b.write a v
  | .change f => b.mapMemory f

/-- The bus after accesses, one after the other. -/
def accesses (b : Bus κ δ) (xs : List Access) : Bus κ δ := xs.foldl access b

/-- What an access makes device number `k` find on the ring `r`, if it is a kick for the device. -/
def found (b : Bus κ δ) (k : Nat) (r : Ring) : Access → Option Bool
  | .write a v => if b.answering? a = some k then r.found (b.memory.set a v) v else none
  | _ => none

/-- What device number `k` finds on the ring `r` in the course of accesses, kick after kick. -/
def founds (b : Bus κ δ) (k : Nat) (r : Ring) : List Access → List Bool
  | [] => []
  | x :: rest => (b.found k r x).toList ++ (b.access x).founds k r rest

variable [HasBlock δ] {b : Bus κ δ} {k : Nat} {d : BlockDevice}

/-- **The accounts of an access**: an access is one kick for a block device, or it leaves the
device alone. -/
theorem accounts_access (h : b.devices[k]? = some (block d)) (x : Access) :
    ∃ d', (b.access x).devices[k]? = some (block d') ∧
      d.Accounts (b.found k d.ring x).toList d' := by
  cases x with
  | read a =>
    refine ⟨d, ?_, .refl d⟩
    rw [access, (b.onlyPolled_read a).devices, h]
  | write a v =>
    have hwrite := b.getElem?_devices_write a v h
    rw [handle_block] at hwrite
    rw [access, hwrite, found]
    split
    · exact ⟨_, rfl, d.accounts_service _ v⟩
    · exact ⟨d, rfl, .refl d⟩
  | change f => exact ⟨d, h, .refl d⟩

/-- **The accounts of a run**: whatever is done to the bus and to its memory, a block device counts
every kick and what it finds. -/
theorem accounts_accesses (h : b.devices[k]? = some (block d)) (xs : List Access) :
    ∃ d', (b.accesses xs).devices[k]? = some (block d') ∧
      d.Accounts (b.founds k d.ring xs) d' := by
  induction xs generalizing b d with
  | nil => exact ⟨d, h, .refl d⟩
  | cons x rest ih =>
    obtain ⟨d₁, hfirst, hcount₁⟩ := accounts_access h x
    obtain ⟨d₂, hrest, hcount₂⟩ := ih hfirst
    rw [hcount₁.ring] at hcount₂
    exact ⟨d₂, hrest, hcount₁.trans hcount₂⟩

/-- **A kick is answered once**, whatever is in memory. A store to the entry of a block device is
one event, and the device that owns the entry is the only one that hears of it. An odd word is a
kick: the completion code stands at the entry afterwards, the kick is counted, and the announcement
that it finds, if there is one, is counted in one of four ways. An even word is stored and nothing
else. So a device that was attached afresh has counted every kick a second time, unless the kick
found no announcement.

The announcement is looked at after the word is stored, which makes a difference only where the
entry itself is the word that announces. -/
theorem answered_once (b : Bus κ δ) (d : BlockDevice) :
    (∀ k v, b.answering? d.vector = some k → b.devices[k]? = some (block d) →
      let stored := b.memory.set d.vector v
      let announced := (d.ring.avail stored).flags.toNat % 2 = 1
      let b' := b.write d.vector v
      (d.ring.availFlags ≠ d.vector → (announced ↔ (d.ring.avail b.memory).flags.toNat % 2 = 1)) ∧
      ∃ d', b'.devices = b.devices.set k (block d') ∧ b'.dispatched = b.dispatched + 1 ∧
        (v.toNat % 2 = 1 →
          b'.memory.get d.vector = 2 ∧ b'.lastDispatch = some (.handled .serviced) ∧
            (announced → ∃ e, d'.stats = d.stats.kicked.count e) ∧
            (¬ announced → d'.stats = d.stats.kicked)) ∧
        (v.toNat % 2 = 0 → b'.memory = stored ∧ d' = d)) ∧
    (d.stats = {} → ∀ xs,
      let attached := b.attach (block d)
      let k := attached.devices.length - 1
      let founds := attached.founds k d.ring xs
      (inInterruptWindow d.vector → attached.answering? d.vector = some k) ∧
      ∃ d', (attached.accesses xs).devices[k]? = some (block d') ∧
        d'.stats.kicks = founds.length ∧
        d'.stats.kicks = d'.stats.reads + d'.stats.writes + d'.stats.unsupported +
          d'.stats.faults + founds.count false) := by
  refine ⟨fun k v h hd => ?_, fun hfresh xs => ?_⟩
  · intro stored announced b'
    obtain ⟨hmemory, hdevices, -, hdispatched, hlast⟩ := write_block_answered h hd v
    refine ⟨fun hne => ?_, _, hdevices, hdispatched, fun hodd => ?_, fun heven => ?_⟩
    · show (stored.get d.ring.availFlags).toNat % 2 = 1 ↔ _
      rw [Memory.get_set_other hne]
      rfl
    · obtain ⟨hserviced, hset, hclear⟩ := d.service_kick stored hodd
      rw [afterEvent_of_serviced hserviced] at hmemory
      rw [hserviced] at hlast
      have hcode : b'.memory.get d.vector = 2 := by
        rw [hmemory]
        exact Memory.get_set_self ..
      exact ⟨hcode, hlast, hset, hclear⟩
    · obtain ⟨hsame, hdevice, hignored⟩ := d.service_of_even stored heven
      rw [afterEvent, hignored] at hmemory
      exact ⟨hmemory.trans hsame, hdevice⟩
  · intro attached k founds
    refine ⟨fun hwindow => ?_, ?_⟩
    · have hanswering := b.answering?_attach (d := block d) (by rwa [vector_block])
      rwa [vector_block] at hanswering
    · obtain ⟨d', hd', haccounts⟩ := accounts_accesses (b.getElem?_attach (block d)) xs
      exact ⟨d', hd', haccounts.kicks_eq hfresh⟩

/-- A request for a descriptor that does not exist is announced, and the device is kicked. -/
theorem answered_once_out_of_range :
    let d := BlockDevice.standard
    let bare : Bus BufferConsole Device := .ofConsole (.ofInput []) .silent
    let announce (m : Memory) := (m.set d.ring.availIdx 99).set d.ring.availFlags 1
    let b := (bare.attach (.block d)).mapMemory announce
    b.answering? d.vector = some 0 ∧ b.devices[0]? = some (.block d) ∧ d.stats = {} ∧
      (b.write d.vector 1).memory.get d.vector = 2 ∧ (b.write d.vector 1).dispatched = 1 ∧
      (∃ d' e, (b.write d.vector 1).devices = [.block d'] ∧
        d'.stats = BlockStats.count { kicks := 1 } e) ∧
      ∃ d', ((bare.attach (.block d)).accesses [.change announce, .write d.vector 1]).devices[0]? =
        some (.block d') ∧ d'.stats.kicks = 1 := by
  intro d bare
  -- all that matters of the bus is that it has no devices and has seen no event
  have hbare : bare.devices = [] := rfl
  have hnone : bare.dispatched = 0 := rfl
  clear_value bare
  intro announce b
  have hdevices : b.devices = [.block d] := by simp [b, mapMemory, attach, hbare]
  have hanswering : b.answering? d.vector = some 0 := by
    rw [answering?, hdevices]
    rfl
  have hdevice : b.devices[0]? = some (.block d) := by
    rw [hdevices]
    rfl
  have hflags : (d.ring.avail b.memory).flags = 1 := Memory.get_set_self ..
  obtain ⟨hannounced, d', hdevices', hdispatched, hodd, -⟩ :=
    (answered_once b d).1 0 1 hanswering hdevice
  obtain ⟨hcode, -, hset, -⟩ := hodd rfl
  obtain ⟨e, hstats⟩ := hset ((hannounced (by decide)).mpr (by rw [hflags]; rfl))
  obtain ⟨-, d'', hrun, hkicks, -⟩ :=
    (answered_once bare d).2 rfl [.change announce, .write d.vector 1]
  have hplace : (bare.attach (block d)).devices.length - 1 = 0 := by simp [attach, hbare]
  have hfounds : (bare.attach (block d)).founds 0 d.ring [.change announce, .write d.vector 1] =
      [decide ((d.ring.avail (b.memory.set d.vector 1)).flags.toNat % 2 = 1)] := by
    show [] ++ ((b.found 0 d.ring (.write d.vector 1)).toList ++ []) = _
    rw [found, if_pos hanswering]
    rfl
  rw [hdevices] at hdevices'
  rw [hplace] at hrun hkicks
  rw [hfounds] at hkicks
  refine ⟨hanswering, hdevice, rfl, hcode, ?_, ⟨d', e, hdevices', hstats⟩, d'', hrun, hkicks⟩
  rw [hdispatched]
  simp [b, mapMemory, attach, hnone]

end Bus

end LC3
