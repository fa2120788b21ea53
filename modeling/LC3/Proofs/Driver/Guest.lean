import LC3.Proofs.Block.Count
import LC3.Proofs.Cpu.Store
import LC3.Proofs.Driver.Transfer

/-!
# Programs beside a driver

A program may store where it likes, to the doorbell and into the ring as well. Two properties of
the ring survive that, each as long as the program keeps away from certain words of the header.

- `faces_write`: no store takes the device away.
- `intact_write`: while the address words of the descriptors are left alone, the device does not
  leave the ring, whatever else a program makes of it. `rung_of_intact`: it answers all the same.
- `idle_write`: while the whole header is left alone, the ring stays idle, and the device has
  nothing to do however often it is rung.
- `intact_step`, `idle_step`: the same for a whole step of the processor.
-/

namespace LC3

namespace BlockDriver

variable {κ : Type} {driver : BlockDriver} {b b' : Bus κ Device} {dev : BlockDevice}

/-! ## Stores -/

theorem sameOn_afterEvent {S : Word → Prop} {entry : Word} (h : ¬ S entry)
    (r : Reply BlockDevice) : r.memory.SameOn S (Bus.afterEvent r entry) := by
  rw [Bus.afterEvent]
  split
  · exact .refl S r.memory
  · exact .set h _

/-- Whatever is stored, the device stays where it is. -/
theorem faces_write (hplaced : driver.Placed) (hfaces : driver.Faces b dev) (a v : Word) :
    ∃ dev', driver.Faces (b.write a v) dev' := by
  by_cases ha : a = driver.doorbell
  · subst ha
    obtain ⟨-, hdevices, -⟩ := hfaces.write_doorbell hplaced v
    have hdevice := dev.service_device (b.memory.set driver.doorbell v) v
    exact ⟨_, hdevices, hdevice.1.trans hfaces.ring, hdevice.2.trans hfaces.vector⟩
  · exact ⟨dev, hfaces.becomes (hfaces.write_of_ne ha v)⟩

/-- A store changes what is stored, and what the device changes when it is rung. -/
theorem sameOn_write (hplaced : driver.Placed) (hfaces : driver.Faces b dev) (a v : Word) :
    (b.memory.set a v).SameOn
      (fun x => x ≠ driver.doorbell ∧
        ¬ (a = driver.doorbell ∧ driver.ring.Reach (b.memory.set a v) x))
      (b.write a v).memory := by
  by_cases ha : a = driver.doorbell
  · subst ha
    have hservice := dev.sameOn_service (b.memory.set driver.doorbell v) v
    rw [hfaces.ring] at hservice
    rw [(hfaces.write_doorbell hplaced v).1]
    -- what the device changes comes first, and the completion code after it
    refine (hservice.mono fun x hx hreach => hx.2 ⟨rfl, hreach⟩).trans ?_
    exact sameOn_afterEvent (fun h => h.1 rfl) _
  · rw [(hfaces.write_of_ne ha v).memory]
    exact .refl _ _

/-- **The device stays in its ring**: a store elsewhere than to the address words of the
descriptors leaves these words, and changes nothing beyond the ring but what is stored. -/
theorem intact_write (hplaced : driver.Placed) (hfaces : driver.Faces b dev)
    (hintact : driver.ring.Intact b.memory) {a : Word}
    (ha : ∀ i, a ≠ driver.ring.cell i .addr) (v : Word) :
    driver.ring.Intact (b.write a v).memory ∧
      (b.memory.set a v).SameOn driver.Beyond (b.write a v).memory := by
  have hset : driver.ring.Intact (b.memory.set a v) := fun i =>
    (Memory.get_set_other (ha i).symm).trans (hintact i)
  have hsame := sameOn_write hplaced hfaces a v
  constructor
  · intro i
    have hkept : (b.write a v).memory.get (driver.ring.cell i .addr) =
        (b.memory.set a v).get (driver.ring.cell i .addr) := by
      apply hsame
      constructor
      · exact hplaced.ne_doorbell (driver.ring.inHeader_cell i .addr).within
      · rintro ⟨-, hreach⟩
        exact (Ring.reach_of_intact hset hreach).2 i rfl
    exact hkept.trans (hset i)
  · refine hsame.mono fun x hx => ⟨hx.2, ?_⟩
    rintro ⟨-, hreach⟩
    exact hx.1 (Ring.reach_of_intact hset hreach).1

/-- A ring is answered at the doorbell when the device is done. -/
theorem Faces.memory_of_ring (h : driver.Faces b dev) (hplaced : driver.Placed) {v : Word}
    (hodd : v.toNat % 2 = 1) : (b.write driver.doorbell v).memory =
      (dev.service (b.memory.set driver.doorbell v) v).memory.set driver.doorbell
        Bus.completion := by
  rw [(h.write_doorbell hplaced v).1, Bus.afterEvent_of_serviced (dev.service_kick _ hodd).1]

/-- To ring the device is to get an answer at the doorbell, and nothing beyond the ring. -/
theorem rung_of_intact (hplaced : driver.Placed) (hfaces : driver.Faces b dev)
    (hintact : driver.ring.Intact b.memory) {v : Word} (hodd : v.toNat % 2 = 1) :
    (b.write driver.doorbell v).memory.get driver.doorbell = Bus.completion ∧
      b.memory.SameOn driver.Beyond (b.write driver.doorbell v).memory ∧
      (b.write driver.doorbell v).console = b.console := by
  obtain ⟨-, -, hconsole⟩ := hfaces.write_doorbell hplaced v
  have hbell (i : Slot) : driver.doorbell ≠ driver.ring.cell i .addr :=
    (hplaced.ne_doorbell (driver.ring.inHeader_cell i .addr).within).symm
  have hstored : b.memory.SameOn driver.Beyond (b.memory.set driver.doorbell v) :=
    .set (fun h => h.2 rfl) v
  refine ⟨?_, hstored.trans (intact_write hplaced hfaces hintact hbell v).2, hconsole⟩
  rw [hfaces.memory_of_ring hplaced hodd]
  exact Memory.get_set_self ..

/-- **A ring at rest stays at rest**: a store elsewhere than to the header leaves an idle
ring. -/
theorem idle_write (hplaced : driver.Placed) (hfaces : driver.Faces b dev)
    (hidle : driver.ring.Idle b.memory) {a : Word} (ha : ¬ driver.ring.InHeader a) (v : Word) :
    driver.ring.Idle (b.write a v).memory := by
  have hset : driver.ring.Idle (b.memory.set a v) := hidle.congr (.set ha v)
  by_cases hbell : a = driver.doorbell
  · subst hbell
    -- there is nothing announced, so the device changes nothing, rung or not
    have hservice : (dev.service (b.memory.set driver.doorbell v) v).memory =
        b.memory.set driver.doorbell v := by
      by_cases hkick : v &&& BlockDevice.kick = 0
      · exact (dev.service_ignored _ hkick).1
      · refine (dev.service_idle _ hkick ?_).1
        rw [hfaces.ring, hset.avail]
        decide
    rw [(hfaces.write_doorbell hplaced v).1]
    refine Ring.Idle.congr ?_ (sameOn_afterEvent ha _)
    rw [hservice]
    exact hset
  · rw [(hfaces.write_of_ne hbell v).memory]
    exact hset

/-! ## Steps -/

/-- No key ever reaches the ring. -/
def Unkeyed (driver : BlockDriver) : Prop := ∀ a, driver.ring.Within a → Bus.OffKeyboard a

theorem Faces.polled (h : driver.Faces b dev) (hb : b.OnlyPolled b') : driver.Faces b' dev :=
  ⟨hb.devices.trans h.devices, h.ring, h.vector⟩

theorem intact_polled (hkeys : driver.Unkeyed) (hintact : driver.ring.Intact b.memory)
    (hb : b.OnlyPolled b') : driver.ring.Intact b'.memory := fun i =>
  (hb.memory _ (hkeys _ (driver.ring.inHeader_cell i .addr).within)).trans (hintact i)

theorem idle_polled (hkeys : driver.Unkeyed) (hidle : driver.ring.Idle b.memory)
    (hb : b.OnlyPolled b') : driver.ring.Idle b'.memory :=
  hidle.congr (hb.memory.mono fun a ha => hkeys a ha.within)

variable [Console κ]

/-- No step takes the device away. -/
theorem faces_step (hplaced : driver.Placed) (hfaces : driver.Faces b dev) (c : Cpu) :
    ∃ dev', driver.Faces (c.step b).bus dev' := by
  cases hstore : c.store? b with
  | none => exact ⟨dev, hfaces.polled (Cpu.onlyPolled_of_store?_none hstore)⟩
  | some store =>
    obtain ⟨b', hpolled, hbus⟩ := Cpu.step_of_store? hstore
    rw [hbus]
    exact faces_write hplaced (hfaces.polled hpolled) _ _

/-- **Isolation of a step**: while the address words of the descriptors are left alone, a step
leaves them too, and a word beyond the ring that has changed is the one that was stored to. -/
theorem intact_step (hplaced : driver.Placed) (hkeys : driver.Unkeyed)
    (hfaces : driver.Faces b dev) (hintact : driver.ring.Intact b.memory) {c : Cpu}
    (hstores : ∀ a v, c.store? b = some (a, v) → ∀ i, a ≠ driver.ring.cell i .addr) :
    driver.ring.Intact (c.step b).bus.memory ∧
      ∀ a, driver.Beyond a → Bus.OffKeyboard a →
        (c.step b).bus.memory.get a ≠ b.memory.get a →
        ∃ v, c.store? b = some (a, v) ∧ (c.step b).bus.memory.get a = v := by
  cases hstore : c.store? b with
  -- without a store only the keyboard registers can change
  | none =>
    have hpolled := Cpu.onlyPolled_of_store?_none hstore
    exact ⟨intact_polled hkeys hintact hpolled,
      fun a _ hoff hchanged => absurd (hpolled.memory a hoff) hchanged⟩
  | some store =>
    obtain ⟨a, v⟩ := store
    obtain ⟨b', hpolled, hbus⟩ := Cpu.step_of_store? hstore
    obtain ⟨hkept, hsame⟩ := intact_write hplaced (hfaces.polled hpolled)
      (intact_polled hkeys hintact hpolled) (hstores a v hstore) v
    rw [hbus]
    refine ⟨hkept, fun x hbeyond hoff hchanged => ?_⟩
    rw [hsame x hbeyond, Memory.get_set] at hchanged ⊢
    by_cases hx : x = a
    · subst hx
      exact ⟨v, rfl, if_pos rfl⟩
    · rw [if_neg hx] at hchanged
      exact absurd (hpolled.memory x hoff) hchanged

/-- A step that leaves the header alone leaves an idle ring. -/
theorem idle_step (hplaced : driver.Placed) (hkeys : driver.Unkeyed)
    (hfaces : driver.Faces b dev) (hidle : driver.ring.Idle b.memory) {c : Cpu}
    (hstores : ∀ a v, c.store? b = some (a, v) → ¬ driver.ring.InHeader a) :
    driver.ring.Idle (c.step b).bus.memory := by
  cases hstore : c.store? b with
  | none => exact idle_polled hkeys hidle (Cpu.onlyPolled_of_store?_none hstore)
  | some store =>
    obtain ⟨a, v⟩ := store
    obtain ⟨b', hpolled, hbus⟩ := Cpu.step_of_store? hstore
    rw [hbus]
    exact idle_write hplaced (hfaces.polled hpolled) (idle_polled hkeys hidle hpolled)
      (hstores a v hstore) v

end BlockDriver

end LC3
