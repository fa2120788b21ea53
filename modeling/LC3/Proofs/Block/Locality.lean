import LC3.Proofs.Block.Exchange
import LC3.Proofs.Memory.Stores

/-!
# The device sees nothing but its ring

As long as every descriptor has its own buffer, an event neither looks at a word outside the ring
nor changes one. So it does not matter whether a word there is stored before the event or after it.

- `writeSlice_set`, `setFlags_set`, `load_set`, …: a store elsewhere commutes with whatever the
  device does to memory.
- `BlockDevice.service_set`: a store outside the ring commutes with an event.
- `BlockDevice.service_stores`: so does any number of them.
-/

namespace LC3

/-! ## Runs of words -/

/-- A store commutes with a run of stores that does not reach its address. -/
theorem Memory.writeSlice_set {m : Memory} {a v start : Word} {values : List Word}
    (h : values.length ≤ distance start a) :
    (m.set a v).writeSlice start values = (m.writeSlice start values).set a v := by
  apply ext_get
  intro x
  by_cases hx : x = a
  · subst hx
    rw [get_writeSlice_outside h, get_set_self, get_set_self]
  · rw [get_set_other hx]
    -- nobody else sees the store, inside the run or outside of it
    rw [← stores_run, ← stores_run, get_stores_congr (get_set_other hx)]

/-! ## Words of the ring -/

namespace Ring

variable {r : Ring} {m : Memory} {a : Word} (ha : ¬ r.Within a) (v : Word)
include ha

/-- A store outside the ring is seen nowhere within. -/
theorem sameOn_set : m.SameOn r.Within (m.set a v) := .set ha v

theorem descriptor_set (i : Slot) : r.descriptor (m.set a v) i = r.descriptor m i :=
  descriptor_congr (sameOn_set ha v) fun f => (r.inHeader_cell i f).within

theorem avail_set : r.avail (m.set a v) = r.avail m :=
  avail_congr (sameOn_set ha v) r.inHeader_availFlags.within r.inHeader_availIdx.within

theorem setFlags_set (i : Slot) (w : Word) :
    r.setFlags (m.set a v) i w = (r.setFlags m i w).set a v := by
  apply Memory.set_comm
  rintro rfl
  exact ha (r.inHeader_cell i _).within

theorem setAvail_set (n : Notice) : r.setAvail (m.set a v) n = (r.setAvail m n).set a v := by
  have hflags : a ≠ r.availFlags := fun e => ha (e ▸ r.inHeader_availFlags.within)
  have hidx : a ≠ r.availIdx := fun e => ha (e ▸ r.inHeader_availIdx.within)
  rw [setAvail, setAvail, Memory.set_comm hflags, Memory.set_comm hidx]

theorem setUsed_set (n : Notice) : r.setUsed (m.set a v) n = (r.setUsed m n).set a v := by
  have hflags : a ≠ r.usedFlags := fun e => ha (e ▸ r.inHeader_usedFlags.within)
  have hidx : a ≠ r.usedIdx := fun e => ha (e ▸ r.inHeader_usedIdx.within)
  rw [setUsed, setUsed, Memory.set_comm hflags, Memory.set_comm hidx]

theorem load_set (i : Slot) :
    Request.load (m.set a v) (r.buffer i.word) = Request.load m (r.buffer i.word) :=
  request_congr (sameOn_set ha v) fun _ hin _ => hin

theorem clear_set (i : Slot) : Request.clear (m.set a v) (r.buffer i.word) =
    (Request.clear m (r.buffer i.word)).set a v := by
  apply Memory.set_comm
  rintro rfl
  have hbuffer := (buffer_add_within (r := r) (i := i) (w := 0) (by decide)).1
  rw [UInt16.add_zero] at hbuffer
  exact ha hbuffer

/-- The payload of a buffer does not reach beyond the ring. -/
theorem maxPayload_le_distance (i : Slot) :
    maxPayload ≤ distance (Request.payload (r.buffer i.word)) a := by
  by_contra hnear
  have hi := Slot.val_lt_ten i
  have hplace := place_of_payload (r := r) (i := i) (a := a) (Nat.lt_of_not_le hnear)
  refine ha ?_
  show r.place a < 365
  omega

end Ring

/-! ## Events -/

namespace BlockDevice

/-- The outcome of a request, and then one more store. -/
def Served.set (s : Served) (a v : Word) : Served := { s with memory := s.memory.set a v }

variable {d : BlockDevice} {m : Memory} {a : Word} (ha : ¬ d.ring.Within a) (v : Word)
include ha

theorem fill_set (i : Slot) (q : Request) {count : Nat} (hcount : count ≤ maxPayload) :
    d.fill (m.set a v) i (d.ring.buffer i.word) q count =
      (d.fill m i (d.ring.buffer i.word) q count).set a v := by
  have hrun : (contents q.position count).length ≤
      distance (Request.payload (d.ring.buffer i.word)) a := by
    rw [length_contents]
    exact Nat.le_trans hcount (Ring.maxPayload_le_distance ha i)
  simp only [fill, Served.set, Ring.clear_set ha, Memory.writeSlice_set hrun, Ring.setUsed_set ha,
    Ring.setFlags_set ha]

theorem take_set (i : Slot) (q : Request) {count : Nat} (hcount : count ≤ maxPayload) :
    d.take (m.set a v) (d.ring.buffer i.word) q count =
      (d.take m (d.ring.buffer i.word) q count).set a v := by
  have hdata : ((Request.clear m (d.ring.buffer i.word)).set a v).readSlice
      (Request.payload (d.ring.buffer i.word)) count =
      (Request.clear m (d.ring.buffer i.word)).readSlice
        (Request.payload (d.ring.buffer i.word)) count :=
    Ring.payload_congr (Ring.sameOn_set ha v) (fun _ hin _ => hin) hcount
  simp only [take, Served.set, Ring.clear_set ha, hdata]

/-- A request in the buffer that its descriptor was laid out with. -/
theorem serveAllocated_set {i : Slot} (h : (d.ring.descriptor m i).addr = d.ring.buffer i.word) :
    d.serveAllocated (m.set a v) i = (d.serveAllocated m i).set a v := by
  have haddr : (d.ring.descriptor (d.ring.setFlags m i 0) i).addr = d.ring.buffer i.word := by
    rw [Ring.descriptor_setFlags, if_pos rfl]
    exact h
  simp only [serveAllocated, Ring.setFlags_set ha, Ring.descriptor_set ha, haddr, Ring.load_set ha]
  split
  · rw [fill_set ha v i _ (servedLength_le_maxPayload _ _)]
    rfl
  · rw [take_set ha v i _ (servedLength_le_maxPayload _ _)]
    rfl
  · rfl

theorem serve_set (h : d.ring.Intact m) (index : Word) :
    d.serve (m.set a v) index = (d.serve m index).set a v := by
  simp only [serve]
  split
  · rfl
  · next i _ =>
    rw [Ring.isAllocated_eq, Ring.isAllocated_eq, Ring.descriptor_set ha]
    split
    · exact serveAllocated_set ha v (h i)
    · rfl

/-- **A store outside the ring** commutes with an event: it makes no difference to the device, to
its answer or to what is reported, and no word changes but its own. -/
theorem service_set (h : d.ring.Intact m) (flags : Word) :
    d.service (m.set a v) flags =
      { d.service m flags with memory := (d.service m flags).memory.set a v } := by
  simp only [service, Ring.avail_set ha]
  split
  · rfl
  split
  · rfl
  -- taking the announcement back does not touch the descriptors
  · have hintact : d.ring.Intact (d.ring.setAvail m ⟨0, (d.ring.avail m).idx⟩) := fun i => by
      rw [Ring.descriptor_setAvail]
      exact h i
    rw [Ring.setAvail_set ha, serve_set (d := { d with stats.kicks := d.stats.kicks + 1 }) ha v
      hintact]
    rfl

omit ha in
/-- **Stores outside the ring** commute with an event. -/
theorem service_stores (h : d.ring.Intact m) {xs : List (Word × Word)}
    (hxs : ∀ x ∈ xs, ¬ d.ring.Within x.1) (flags : Word) :
    d.service (m.stores xs) flags =
      { d.service m flags with memory := (d.service m flags).memory.stores xs } := by
  induction xs generalizing m with
  | nil => rfl
  | cons x rest ih =>
    rw [List.forall_mem_cons] at hxs
    have hintact : d.ring.Intact (m.set x.1 x.2) := h.congr (Ring.sameOn_set hxs.1 x.2) fun i =>
      (d.ring.inHeader_cell i .addr).within
    rw [Memory.stores_cons, ih hintact hxs.2, service_set hxs.1 x.2 h]
    rfl

end BlockDevice

end LC3
