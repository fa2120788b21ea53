import LC3.Block
import LC3.Proofs.Ring.Layout
import LC3.Proofs.Word.Signed

/-!
# What the block device does with an event

The device takes its orders from memory, and a program may have put anything there. This module
says what an event can change in the worst case, and what it does on a ring in order.

- `Ring.Reach`: the addresses that an event may change, as the memory stands. Nothing else
  changes (`sameOn_service`).
- `Ring.Intact`: every descriptor has its own buffer. Then no event leaves the ring
  (`reach_of_intact`).
- `service_idle`: with nothing announced an event changes no word at all.
- `service_announced`: an announcement is taken back and then served, whatever it says.
-/

namespace LC3

/-! ## Requests in memory -/

namespace Request

variable {m n : Memory} {S : Word → Prop}

theorem load_congr (h : m.SameOn S n) {a : Word} (h₀ : S a) (h₁ : S (a + 1)) (h₂ : S (a + 2)) :
    load n a = load m a := by
  simp only [load, h _ h₀, h _ h₁, h _ h₂]

/-- A stored header is read back, unless it spells a known operation as an unknown one. -/
theorem load_store (q : Request) (m : Memory) (a : Word)
    (h : Operation.ofWord q.op.toWord = q.op) : load (q.store m a) a = q := by
  have hread := m.readSlice_writeSlice a q.header (by simp [header])
  have hwords : [(q.store m a).get a, (q.store m a).get (a + 1), (q.store m a).get (a + 2)] =
      [q.op.toWord, q.position.toUInt16, q.length] := by
    simpa [Memory.readSlice, header, List.range_succ, store] using hread
  simp only [List.cons.injEq, and_true] at hwords
  obtain ⟨hop, hposition, hlength⟩ := hwords
  simp only [load, hop, hposition, hlength, h, Int16.toInt16_toUInt16]

end Request

namespace Ring

/-! ## What an event may change -/

/-- The addresses that serving the request of descriptor `i` may change. -/
def ReachFrom (r : Ring) (m : Memory) (i : Slot) (a : Word) : Prop :=
  let descriptor := r.descriptor m i
  a = r.cell i .flags ∨ a = r.usedFlags ∨ a = r.usedIdx ∨ a = descriptor.addr ∨
    distance (Request.payload descriptor.addr) a <
      min maxPayload (descriptor.len.toNat - headerWords)

/-- The addresses that an event may change. -/
def Reach (r : Ring) (m : Memory) (a : Word) : Prop :=
  a = r.availFlags ∨ ∃ i, slot? (r.avail m).idx = .ok i ∧ r.ReachFrom m i a

/-- Every descriptor has the buffer that it was laid out with. -/
def Intact (r : Ring) (m : Memory) : Prop :=
  ∀ i, (r.descriptor m i).addr = r.buffer i.word

variable {r : Ring} {m n : Memory}

theorem Idle.intact (h : r.Idle m) : r.Intact m := fun i => congrArg Descriptor.addr (h.fresh i)

/-- Whether the descriptors have their own buffers depends on their address words. -/
theorem Intact.congr {S : Word → Prop} (h : r.Intact m) (hs : m.SameOn S n)
    (hcell : ∀ i, S (r.cell i .addr)) : r.Intact n := fun i => (hs _ (hcell i)).trans (h i)

/-- What may be reached from a descriptor depends on two of its words. -/
theorem reachFrom_congr {i : Slot} (haddr : (r.descriptor n i).addr = (r.descriptor m i).addr)
    (hlen : (r.descriptor n i).len = (r.descriptor m i).len) (a : Word) :
    r.ReachFrom n i a ↔ r.ReachFrom m i a := by
  simp only [ReachFrom, haddr, hlen]

/-- Words of the payload of buffer `i` are words of the buffer. -/
theorem place_of_payload {i : Slot} {a : Word}
    (h : distance (Request.payload (r.buffer i.word)) a < maxPayload) :
    45 + 32 * i.val ≤ r.place a ∧ r.place a < 45 + 32 * i.val + 32 := by
  have hi := Slot.val_lt_ten i
  have ha : r.place a < 65536 := distance_lt ..
  have hstart : r.place (Request.payload (r.buffer i.word)) = 45 + 32 * i.val + 3 :=
    r.place_buffer_add i (w := 3) (by decide)
  rw [r.distance_eq_place, hstart] at h
  have hlt : (65536 + r.place a - (45 + 32 * i.val + 3)) % 65536 < 29 := h
  omega

/-- While every descriptor has its own buffer, an event stays within the ring and changes no
address word of a descriptor. -/
theorem reach_of_intact (h : r.Intact m) {a : Word} (ha : r.Reach m a) :
    r.Within a ∧ ∀ j, a ≠ r.cell j .addr := by
  -- notices and flags are where they are; where the buffer is depends on the address word
  obtain rfl | ⟨i, -, hreach⟩ := ha
  · exact ⟨r.inHeader_availFlags.within, fun j => (cell_ne_of_place (by simp) j _).symm⟩
  have hi := Slot.val_lt_ten i
  rw [ReachFrom, h i] at hreach
  obtain rfl | rfl | rfl | rfl | hpayload := hreach
  · refine ⟨(r.inHeader_cell i _).within, fun j hj => ?_⟩
    cases ((cell_inj r).mp hj).2
  · exact ⟨r.inHeader_usedFlags.within, fun j => (cell_ne_of_place (by simp) j _).symm⟩
  · exact ⟨r.inHeader_usedIdx.within, fun j => (cell_ne_of_place (by simp) j _).symm⟩
  · have hplace := r.place_buffer i
    refine ⟨?_, fun j => (cell_ne_of_place (by omega) j _).symm⟩
    show r.place _ < 365
    omega
  · have hplace := place_of_payload (Nat.lt_of_lt_of_le hpayload (Nat.min_le_left ..))
    refine ⟨?_, fun j => (cell_ne_of_place (by omega) j _).symm⟩
    show r.place _ < 365
    omega

/-- The only flags word that an event reaches is that of the announced descriptor. -/
theorem Intact.reach_flags (h : r.Intact m) {i j : Slot} (hidx : (r.avail m).idx = i.word)
    (hreach : r.Reach m (r.cell j .flags)) : j = i := by
  have hplace := r.place_cell_lt j .flags
  obtain havail | ⟨k, hslot, hreach⟩ := hreach
  · exact absurd havail (cell_ne_of_place (by simp) j _)
  rw [hidx, slot?_word] at hslot
  cases hslot
  rw [ReachFrom, h i] at hreach
  obtain hflags | hused | hused | haddr | hpayload := hreach
  · exact ((cell_inj r).mp hflags).1
  · exact absurd hused (cell_ne_of_place (by simp) j _)
  · exact absurd hused (cell_ne_of_place (by simp) j _)
  · rw [haddr, place_buffer] at hplace
    omega
  · have hbuffer := place_of_payload (Nat.lt_of_lt_of_le hpayload (Nat.min_le_left ..))
    omega

end Ring

namespace BlockDevice

variable (d : BlockDevice) (m : Memory)

theorem servedLength_le (q : Request) (capacity : Word) :
    servedLength q capacity ≤ min maxPayload (capacity.toNat - headerWords) := by
  unfold servedLength Request.payloadLength
  omega

/-- A request is served to no greater length than a buffer holds. -/
theorem servedLength_le_maxPayload (q : Request) (capacity : Word) :
    servedLength q capacity ≤ maxPayload :=
  Nat.le_trans (servedLength_le q capacity) (Nat.min_le_left ..)

/-- The device counts as integers do. -/
theorem content_eq_ofInt (position : Int16) (k : Nat) :
    content position k = UInt16.ofInt (0x30 + position.toInt + k) := by
  rw [UInt16.ofInt_add, UInt16.ofInt_add, ofInt_toInt, ofInt_natCast]
  rfl

@[simp] theorem length_contents (position : Int16) (count : Nat) :
    (contents position count).length = count := by
  simp [contents]

/-! ## Serving one request -/

/-- Filling a request changes its operation code, its payload, the answer and the flags of its
descriptor. -/
theorem sameOn_fill {S : Word → Prop} {i : Slot} {address : Word} {q : Request} {count : Nat}
    (hflags : ¬ S (d.ring.cell i .flags)) (husedFlags : ¬ S d.ring.usedFlags)
    (husedIdx : ¬ S d.ring.usedIdx) (haddr : ¬ S address)
    (hpayload : ∀ x, S x → count ≤ distance (Request.payload address) x) :
    m.SameOn S (d.fill m i address q count).memory := by
  have hclear : m.SameOn S (Request.clear m address) := .set haddr 0
  have hfill : (Request.clear m address).SameOn S
      ((Request.clear m address).writeSlice (Request.payload address)
        (contents q.position count)) := .writeSlice (by simpa using hpayload)
  have hanswer : ∀ k : Memory, k.SameOn S
      (d.ring.setFlags (d.ring.setUsed k ⟨flagSet, i.word⟩) i flagSet) := fun k =>
    (Ring.sameOn_setUsed husedFlags husedIdx _).trans (Ring.sameOn_setFlags hflags _)
  exact (hclear.trans hfill).trans (hanswer _)

/-- A filled request is answered, and its descriptor is in use again. The answer is stored last, so
it stands even where the payload went over it. -/
theorem answered_fill (i : Slot) (address : Word) (q : Request) (count : Nat) :
    let m' := (d.fill m i address q count).memory
    d.ring.used m' = ⟨flagSet, i.word⟩ ∧ (d.ring.descriptor m' i).flags = flagSet := by
  intro m'
  constructor
  · show d.ring.used (d.ring.setFlags (d.ring.setUsed _ _) i flagSet) = _
    rw [Ring.used_setFlags, Ring.used_setUsed]
  · show (d.ring.descriptor (d.ring.setFlags _ i flagSet) i).flags = _
    rw [Ring.descriptor_setFlags, if_pos rfl]

/-- The request in the buffer of a descriptor, as the device sees it: the descriptor has been
freed by then. -/
def requestAt (i : Slot) : Request :=
  Request.load (d.ring.setFlags m i 0) (d.ring.descriptor m i).addr

/-- What becomes of a request: it is filled, taken or refused. -/
theorem serveAllocated_eq (i : Slot) :
    let freed := d.ring.setFlags m i 0
    let address := (d.ring.descriptor m i).addr
    let q := d.requestAt m i
    let count := servedLength q (d.ring.descriptor m i).len
    let served := match q.op with
      | .read => d.fill freed i address q count
      | .write => d.take freed address q count
      | .other code =>
        { device := { d with stats.unsupported := d.stats.unsupported + 1 }
          memory := freed
          events := [.unsupportedOperation code] }
    (d.serveAllocated m i).memory = served.memory ∧
      (d.serveAllocated m i).device = served.device := by
  have hdescriptor : d.ring.descriptor (d.ring.setFlags m i 0) i =
      { d.ring.descriptor m i with flags := 0 } := by
    rw [Ring.descriptor_setFlags, if_pos rfl]
  simp only [serveAllocated, requestAt]
  rw [hdescriptor]
  exact ⟨rfl, rfl⟩

/-- A request changes nothing beyond the reach of its descriptor. -/
theorem sameOn_serveAllocated (i : Slot) :
    m.SameOn (fun a => ¬ d.ring.ReachFrom m i a) (d.serveAllocated m i).memory := by
  have hfree : m.SameOn (fun a => ¬ d.ring.ReachFrom m i a) (d.ring.setFlags m i 0) :=
    Ring.sameOn_setFlags (fun h => h (Or.inl rfl)) 0
  have haddr : ¬ ¬ d.ring.ReachFrom m i (d.ring.descriptor m i).addr :=
    fun h => h (Or.inr (Or.inr (Or.inr (Or.inl rfl))))
  rw [(d.serveAllocated_eq m i).1]
  refine hfree.trans ?_
  split
  -- a read reaches as far as the payload, and no request asks for more than that
  · refine d.sameOn_fill _ (fun h => h (Or.inl rfl)) (fun h => h (Or.inr (Or.inl rfl)))
      (fun h => h (Or.inr (Or.inr (Or.inl rfl)))) haddr ?_
    intro x hx
    have hfar : ¬ distance (Request.payload (d.ring.descriptor m i).addr) x <
        min maxPayload ((d.ring.descriptor m i).len.toNat - headerWords) :=
      fun h => hx (Or.inr (Or.inr (Or.inr (Or.inr h))))
    exact Nat.le_trans (servedLength_le _ _) (Nat.le_of_not_lt hfar)
  · exact .set haddr 0
  · exact .refl _ _

/-- The device never moves: its ring and its entry are for good. -/
theorem serveAllocated_device (i : Slot) :
    (d.serveAllocated m i).device.ring = d.ring ∧
      (d.serveAllocated m i).device.vector = d.vector := by
  rw [(d.serveAllocated_eq m i).2]
  split <;> exact ⟨rfl, rfl⟩

/-- An announced request changes nothing beyond the reach of the descriptor that is named. -/
theorem sameOn_serve (index : Word) :
    m.SameOn (fun a => ¬ ∃ i, Ring.slot? index = .ok i ∧ d.ring.ReachFrom m i a)
      (d.serve m index).memory := by
  rw [serve]
  split
  · exact .refl _ _
  · next i hi =>
    split
    · exact (d.sameOn_serveAllocated m i).mono fun a h hreach => h ⟨i, hi, hreach⟩
    · exact .refl _ _

theorem serve_device (index : Word) :
    (d.serve m index).device.ring = d.ring ∧ (d.serve m index).device.vector = d.vector := by
  rw [serve]
  split
  · exact ⟨rfl, rfl⟩
  · split
    · exact d.serveAllocated_device m _
    · exact ⟨rfl, rfl⟩

/-! ## Answering an event -/

/-- An event without the kick bit is not for the device. -/
theorem service_ignored {flags : Word} (h : flags &&& kick = 0) :
    (d.service m flags).memory = m ∧ (d.service m flags).device = d ∧
      (d.service m flags).outcome = .ignored := by
  rw [service, if_pos h]
  exact ⟨rfl, rfl, rfl⟩

/-- A kick with nothing announced changes no word. -/
theorem service_idle {flags : Word} (h : flags &&& kick ≠ 0)
    (hidle : (d.ring.avail m).flags &&& flagSet = 0) :
    (d.service m flags).memory = m ∧
      (d.service m flags).device = { d with stats.kicks := d.stats.kicks + 1 } ∧
      (d.service m flags).outcome = .serviced := by
  rw [service, if_neg h]
  simp only [hidle, if_true, and_self]

/-- A kick with an announcement takes the announcement back and serves it. -/
theorem service_announced {flags : Word} (h : flags &&& kick ≠ 0)
    (hset : (d.ring.avail m).flags &&& flagSet ≠ 0) :
    let rung := { d with stats.kicks := d.stats.kicks + 1 }
    let served := rung.serve (m.set d.ring.availFlags 0) (d.ring.avail m).idx
    (d.service m flags).memory = served.memory ∧ (d.service m flags).device = served.device ∧
      (d.service m flags).outcome = .serviced := by
  rw [service, if_neg h]
  simp only [hset, if_false, Ring.setAvail_flags, and_self]

/-- A kick with an announcement of a descriptor in use serves the request of that descriptor. -/
theorem service_allocated {flags : Word} (h : flags &&& kick ≠ 0)
    (hset : (d.ring.avail m).flags &&& flagSet ≠ 0) {i : Slot}
    (hidx : (d.ring.avail m).idx = i.word) (hflags : (d.ring.descriptor m i).flags ≠ 0) :
    let rung := { d with stats.kicks := d.stats.kicks + 1 }
    let served := rung.serveAllocated (d.ring.setAvail m ⟨0, i.word⟩) i
    (d.service m flags).memory = served.memory ∧ (d.service m flags).device = served.device ∧
      (d.service m flags).outcome = .serviced := by
  intro rung served
  have hevent := d.service_announced m h hset
  rw [← Ring.setAvail_flags, hidx] at hevent
  -- taking the announcement back does not free the descriptor
  have hallocated : d.ring.isAllocated (d.ring.setAvail m ⟨0, i.word⟩) i = true := by
    rw [Ring.isAllocated_eq, Ring.descriptor_setAvail]
    exact bne_iff_ne.mpr hflags
  have hserve : rung.serve (d.ring.setAvail m ⟨0, i.word⟩) i.word = served := by
    simp only [serve, Ring.slot?_word]
    exact if_pos hallocated
  obtain ⟨hmemory, hdevice, hserviced⟩ := hevent
  exact ⟨hmemory.trans (congrArg Served.memory hserve),
    hdevice.trans (congrArg Served.device hserve), hserviced⟩

/-- **The reach of an event**: whatever is in memory, an event changes only words within its
reach. -/
theorem sameOn_service (flags : Word) :
    m.SameOn (fun a => ¬ d.ring.Reach m a) (d.service m flags).memory := by
  by_cases hkick : flags &&& kick = 0
  · rw [(d.service_ignored m hkick).1]
    exact .refl _ _
  by_cases hset : (d.ring.avail m).flags &&& flagSet = 0
  · rw [(d.service_idle m hkick hset).1]
    exact .refl _ _
  rw [(d.service_announced m hkick hset).1]
  have htake : m.SameOn (fun a => ¬ d.ring.Reach m a) (m.set d.ring.availFlags 0) :=
    .set (fun h => h (Or.inl rfl)) 0
  refine htake.trans (Memory.SameOn.mono (BlockDevice.sameOn_serve _ _ _) ?_)
  -- taking the announcement back does not touch the descriptors
  have hsame : ∀ i, d.ring.descriptor (m.set d.ring.availFlags 0) i = d.ring.descriptor m i := by
    intro i
    rw [← Ring.setAvail_flags, Ring.descriptor_setAvail]
  rintro a ha ⟨i, hi, hreach⟩
  refine ha (Or.inr ⟨i, hi, ?_⟩)
  exact (Ring.reachFrom_congr (by rw [hsame]) (by rw [hsame]) a).mp hreach

theorem service_device (flags : Word) :
    (d.service m flags).device.ring = d.ring ∧ (d.service m flags).device.vector = d.vector := by
  by_cases hkick : flags &&& kick = 0
  · rw [(d.service_ignored m hkick).2.1]
    exact ⟨rfl, rfl⟩
  by_cases hset : (d.ring.avail m).flags &&& flagSet = 0
  · rw [(d.service_idle m hkick hset).2.1]
    exact ⟨rfl, rfl⟩
  rw [(d.service_announced m hkick hset).2.1]
  exact BlockDevice.serve_device _ _ _

end BlockDevice

end LC3
