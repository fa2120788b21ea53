import LC3.Proofs.Block.Effect
import LC3.Proofs.Driver.Guest
import LC3.Proofs.Driver.Refusal
import LC3.Proofs.Driver.Submission
import LC3.Proofs.Monitor.Isolation

/-!
# Rings apart

A ring lies apart when an access to it has no effect beyond it, whatever devices there are: its
doorbell is in the interrupt window and the ring itself is not, and no key reaches it. The standard
ring does. On such a ring the parts of a call are told by their stores to the memory alone.

- `Apart.submit_eq`: a submission is the announcement of a free descriptor.
- `announced`: the memory in which the device finds a call, and what it finds there.
- `Apart.service_announced`, `Apart.isAllocated_service`: what the device leaves of it.
- `Apart.isAllocated_waiting`, `Apart.collect_ok`: what the driver does after the kick.
-/

namespace LC3

namespace BlockDriver

variable {κ δ : Type} [Console κ] [Handler δ] {driver : BlockDriver} {b : Bus κ δ} {i : Slot}
  {c : Call}

/-! ## Rings apart -/

/-- The doorbell lies in the interrupt window and the ring outside of it, and no key reaches the
ring. So no device answers a store to the ring, whatever devices there are. -/
structure Apart (driver : BlockDriver) : Prop where
  /-- A store to the doorbell is an event. -/
  entry : inInterruptWindow driver.doorbell = true
  /-- A store to the ring is none. -/
  window : ∀ a, driver.ring.Within a → inInterruptWindow a = false
  /-- The ring does not contain a keyboard register. -/
  unkeyed : driver.Unkeyed

namespace Apart

variable (h : driver.Apart)
include h

theorem doorbell_ne : driver.doorbell ≠ keyboardStatus := by
  intro heq
  have hentry := h.entry
  rw [heq] at hentry
  cases hentry

theorem not_within_doorbell : ¬ driver.ring.Within driver.doorbell := by
  intro hwithin
  have hentry := h.entry
  rw [h.window _ hwithin] at hentry
  cases hentry

omit [Handler δ] in
theorem load {a : Word} (ha : driver.ring.Within a) (b : Bus κ δ) :
    b.read a = (b.memory.get a, b) := b.read_of_ne (h.unkeyed a ha).1

omit [Console κ] in
theorem store {a : Word} (ha : driver.ring.Within a) (b : Bus κ δ) (v : Word) :
    b.write a v = b.mapMemory (·.set a v) := b.write_of_outside (h.window a ha) v

/-- A store to the doorbell is no store to a descriptor. -/
theorem isAllocated_doorbell (m : Memory) (v : Word) (j : Slot) :
    driver.ring.isAllocated (m.set driver.doorbell v) j = driver.ring.isAllocated m j := by
  have hcell : driver.ring.cell j .flags ≠ driver.doorbell := by
    intro heq
    exact h.not_within_doorbell (heq ▸ (driver.ring.inHeader_cell j .flags).within)
  rw [Ring.isAllocated, Memory.get_set_other hcell, Ring.isAllocated]

/-- **Submission**: the free descriptor of least index is announced, and nothing else happens. -/
theorem submit_eq (hfind : driver.ring.findFree? b.memory = some i)
    (hintact : driver.ring.Intact b.memory) (q : Request) {payload : List Word}
    (hpayload : payload.length ≤ maxPayload) :
    driver.submit b q payload =
      (.ok i, b.mapMemory (driver.ring.announce · i q payload)) := by
  have hstatus : ¬ driver.ring.Within keyboardStatus := fun hin => (h.unkeyed _ hin).1 rfl
  have hwindow : ∀ x ∈ driver.ring.submission i q payload, inInterruptWindow x.1 = false :=
    fun x hx => h.window _ (driver.ring.within_submission i q hpayload x hx)
  rw [submit_eq_stores hfind (hintact i) hstatus, Bus.stores_eq_mapMemory hwindow]
  simp only [Bus.mapMemory, Ring.stores_submission]

end Apart

/-! ## What the device finds -/

/-- The memory in which the device finds the call. -/
def announced (driver : BlockDriver) (m : Memory) (i : Slot) (c : Call) : Memory :=
  (driver.ring.announce m i c.request c.payload).set driver.doorbell BlockDevice.kick

/-- The announced descriptor is in use, and otherwise those that were. -/
theorem Apart.isAllocated_announced (h : driver.Apart) (hfits : c.length ≤ maxPayload) (m : Memory)
    (j : Slot) :
    driver.ring.isAllocated (driver.announced m i c) j =
      (driver.ring.isAllocated m j || j == i) := by
  rw [announced, h.isAllocated_doorbell, Ring.isAllocated_eq,
    Ring.descriptor_announce (Nat.le_trans c.length_payload_le hfits)]
  split
  · next hj => simp [hj, flagSet]
  · next hj => simp [hj, Ring.isAllocated_eq]

/-- An announcement leaves every descriptor its buffer. -/
theorem Apart.intact_announced (h : driver.Apart) (hfits : c.length ≤ maxPayload) {m : Memory}
    (hintact : driver.ring.Intact m) : driver.ring.Intact (driver.announced m i c) := by
  have hkept := driver.ring.intact_submission i c.request hintact
    (Nat.le_trans c.length_payload_le hfits)
  rw [Ring.stores_submission] at hkept
  exact hkept.congr (.set h.not_within_doorbell _) fun j => (driver.ring.inHeader_cell j _).within

theorem Apart.avail_announced (h : driver.Apart) (m : Memory) :
    driver.ring.avail (driver.announced m i c) = ⟨flagSet, i.word⟩ := by
  have hbell := Memory.SameOn.set (m := driver.ring.announce m i c.request c.payload)
    h.not_within_doorbell BlockDevice.kick
  rw [announced, Ring.avail_congr hbell driver.ring.inHeader_availFlags.within
    driver.ring.inHeader_availIdx.within]
  exact Ring.avail_setAvail ..

/-- The device finds the request of the call in the buffer of the descriptor. -/
theorem Apart.request_announced (h : driver.Apart) (hfits : c.length ≤ maxPayload) (m : Memory) :
    Request.load (driver.announced m i c) (driver.ring.buffer i.word) = c.request := by
  have hbell := Memory.SameOn.set (m := driver.ring.announce m i c.request c.payload)
    h.not_within_doorbell BlockDevice.kick
  rw [announced, Ring.request_congr hbell fun _ hin _ => hin]
  refine Ring.request_announce ?_ (Nat.le_trans c.length_payload_le hfits)
  cases c <;> rfl

/-! ## What the device leaves -/

section Service

variable {d : BlockDevice} {m : Memory}

/-- An event reaches the flags word of the announced descriptor and no other. -/
theorem Apart.isAllocated_service_of_ne (h : driver.Apart) (hfits : c.length ≤ maxPayload)
    (hring : d.ring = driver.ring) (hintact : driver.ring.Intact m) {j : Slot} (hj : j ≠ i) :
    driver.ring.isAllocated (d.service (driver.announced m i c) BlockDevice.kick).memory j =
      driver.ring.isAllocated m j := by
  have hkept : d.ring.Intact (driver.announced m i c) := by
    rw [hring]
    exact h.intact_announced hfits hintact
  have hidx : (d.ring.avail (driver.announced m i c)).idx = i.word := by
    rw [hring, h.avail_announced]
  have hfar := d.sameOn_service (driver.announced m i c) BlockDevice.kick (d.ring.cell j .flags)
    fun hreach => hj (hkept.reach_flags hidx hreach)
  rw [hring] at hfar
  rw [Ring.isAllocated, hfar]
  show driver.ring.isAllocated (driver.announced m i c) j = _
  rw [h.isAllocated_announced hfits]
  simp [hj]

/-- The device frees the descriptor that was announced, and takes it into use again if there is
something to collect. -/
theorem Apart.service_announced (h : driver.Apart) (hfits : c.length ≤ maxPayload)
    (hring : d.ring = driver.ring) (hintact : driver.ring.Intact m) :
    let m' := (d.service (driver.announced m i c) BlockDevice.kick).memory
    (driver.ring.descriptor m' i).flags = (if c.transfer = .read then flagSet else 0) ∧
      (c.transfer = .read → driver.ring.used m' = ⟨flagSet, i.word⟩) := by
  have havail : d.ring.avail (driver.announced m i c) = ⟨flagSet, i.word⟩ := by
    rw [hring, h.avail_announced]
  have haddr : (d.ring.descriptor (driver.announced m i c) i).addr = d.ring.buffer i.word := by
    rw [hring, h.intact_announced hfits hintact i]
  have hloaded : Request.load (driver.announced m i c)
      (d.ring.descriptor (driver.announced m i c) i).addr = c.request := by
    rw [haddr, hring, h.request_announced hfits]
  have hset : (d.ring.descriptor (driver.announced m i c) i).flags ≠ 0 := by
    rw [← bne_iff_ne, ← Ring.isAllocated_eq, hring, h.isAllocated_announced hfits]
    simp
  have hclear : d.ring.Clear (d.ring.descriptor (driver.announced m i c) i).addr := by
    rw [haddr]
    exact d.ring.clear_buffer i
  generalize driver.announced m i c = n at havail hloaded hset hclear ⊢
  have hodd : BlockDevice.kick.toNat % 2 = 1 := by decide
  have hannounced : (d.ring.avail n).flags.toNat % 2 = 1 := by
    rw [havail]
    exact (by decide : flagSet.toNat % 2 = 1)
  have hidx : (d.ring.avail n).idx = i.word := by rw [havail]
  rw [← hring]
  cases c with
  | read position count =>
    obtain ⟨-, hused, hflags, -⟩ :=
      BlockDevice.read_effect hodd hannounced hidx hset hclear (by rw [hloaded]; rfl)
    exact ⟨hflags, fun _ => hused⟩
  | write position data =>
    obtain ⟨-, -, hflags, -⟩ :=
      BlockDevice.write_effect hodd hannounced hidx hset hclear (by rw [hloaded]; rfl)
    exact ⟨hflags, fun hread => by cases hread⟩

/-- **The device's part**: it frees the descriptor of a write, and no other. -/
theorem Apart.isAllocated_service (h : driver.Apart) (hfits : c.length ≤ maxPayload)
    (hring : d.ring = driver.ring) (hintact : driver.ring.Intact m) (j : Slot) :
    driver.ring.isAllocated (d.service (driver.announced m i c) BlockDevice.kick).memory j =
      if j = i then decide (c.transfer = .read) else driver.ring.isAllocated m j := by
  split
  · next hj =>
    rw [hj, Ring.isAllocated_eq, (h.service_announced hfits hring hintact).1]
    cases c <;> rfl
  · next hj => exact h.isAllocated_service_of_ne hfits hring hintact hj

end Service

/-! ## What the driver does then -/

/-- While it waits, the driver releases no descriptor. -/
theorem Apart.isAllocated_waiting (h : driver.Apart) {xs : List Bus.Access}
    (hwaiting : ∀ x ∈ xs, driver.Waiting x) (b : Bus κ δ) (j : Slot) :
    driver.ring.isAllocated (b.accesses xs).memory j = driver.ring.isAllocated b.memory j := by
  induction xs generalizing b with
  | nil => rfl
  | cons x rest ih =>
    rw [List.forall_mem_cons] at hwaiting
    have hcell := (driver.ring.inHeader_cell j .flags).within
    refine (ih hwaiting.2 (b.access x)).trans ?_
    obtain ⟨a, rfl⟩ | rfl := hwaiting.1
    · show ((b.read a).2.memory.get _ != 0) = _
      rw [(b.onlyPolled_read a).memory _ (h.unkeyed _ hcell)]
      rfl
    · show ((b.write driver.ring.usedFlags 0).memory.get _ != 0) = _
      rw [h.store driver.ring.inHeader_usedFlags.within]
      show ((b.memory.set driver.ring.usedFlags 0).get _ != 0) = _
      rw [Memory.get_set_other (Ring.cell_ne_of_place (by simp) j .flags)]
      rfl

omit [Handler δ] in
/-- The driver does not find a completion code that is not there. -/
theorem awaitCompletion_fst_of_ne (h : driver.doorbell ≠ keyboardStatus)
    (hword : b.memory.get driver.doorbell ≠ Bus.completion) (polls : Nat) :
    (driver.awaitCompletion b polls).1 = false := by
  induction polls with
  | zero => rfl
  | succ polls ih =>
    simp only [awaitCompletion, b.read_of_ne h, if_neg hword]
    exact ih

omit [Handler δ] in
/-- The driver finds a completion code at its first look. -/
theorem awaitCompletion_fst_of_eq (h : driver.doorbell ≠ keyboardStatus)
    (hword : b.memory.get driver.doorbell = Bus.completion) {polls : Nat} (hpolls : polls ≠ 0) :
    (driver.awaitCompletion b polls).1 = true := by
  obtain ⟨rest, rfl⟩ := Nat.exists_eq_succ_of_ne_zero hpolls
  simp only [awaitCompletion, b.read_of_ne h, hword, if_true]

/-- An answer to a read can be collected. -/
theorem Apart.collect_ok (h : driver.Apart) (hused : driver.ring.used b.memory = ⟨flagSet, i.word⟩)
    (hflags : (driver.ring.descriptor b.memory i).flags = flagSet) (count : Nat) :
    ∃ words, (driver.collect b count).1 = .ok words := by
  have hanswered : b.memory.get driver.ring.usedFlags = flagSet := congrArg Notice.flags hused
  have hindex : (b.memory.set driver.ring.usedFlags 0).get driver.ring.usedIdx = i.word := by
    rw [Memory.get_set_other (driver.ring.ne_of_place (by simp))]
    exact congrArg Notice.idx hused
  have hset : (b.memory.set driver.ring.usedFlags 0).get (driver.ring.cell i .flags) = flagSet := by
    rw [Memory.get_set_other (Ring.cell_ne_of_place (by simp) i .flags)]
    exact hflags
  simp only [collect, h.load driver.ring.inHeader_usedFlags.within, hanswered,
    h.store driver.ring.inHeader_usedFlags.within, h.load driver.ring.inHeader_usedIdx.within,
    Bus.mapMemory, hindex, Ring.slot?_word, h.load (driver.ring.inHeader_cell i _).within, hset]
  exact ⟨_, rfl⟩

/-! ## The standard ring -/

/-- The standard ring lies apart. -/
theorem apart_standard (limit : UInt32) : (standard limit).Apart where
  entry := by
    show inInterruptWindow defaultDoorbell = true
    decide
  window _ ha := Ring.outside_window_of_standard ha
  unkeyed := unkeyed_standard limit

end BlockDriver

end LC3
