import LC3.Proofs.Block.Count
import LC3.Proofs.Memory.Stores

/-!
# Events on any ring

A descriptor may name any buffer, also one that lies over the ring itself: over the descriptors,
over the announcement, or over its own flags word. What an event may change is still told by the
ring as the event finds it, and an answer is still an answer, because the device stores it last.

- `service_cases`: the three ways of an event: nothing to do, an announcement that names no
  descriptor in use, and a request.
- `Ring.distance_of_payload`: a payload stays within the buffer that its descriptor declares.
- `answered_of_reads`: a request that is counted as filled is answered.
- `BlockDevice.service_frame`: which words an event may change, and what it leaves when a request
  was filled.
-/

namespace LC3

namespace Ring

/-- A payload that is served lies within the buffer that the descriptor declares. -/
theorem distance_of_payload {a x : Word} {len : Nat}
    (h : distance (Request.payload a) x < min maxPayload (len - headerWords)) :
    distance a x < len := by
  have hstart : distance a (Request.payload a) = 3 := distance_add a 3
  have hx := distance_lt a x
  have hnear : distance (Request.payload a) x < 29 ∧ distance (Request.payload a) x < len - 3 :=
    Nat.lt_min.mp h
  rw [distance_eq a, hstart] at hnear
  omega

end Ring

namespace BlockDevice

variable (d : BlockDevice) (m : Memory)

/-- **The three ways of an event**: there is nothing to do; or an announcement is taken back that
names no descriptor in use; or it names one, and the request of that descriptor is served. -/
theorem service_cases (flags : Word) :
    let reply := d.service m flags
    (reply.memory = m ∧ reply.device.stats.reads = d.stats.reads) ∨
    (reply.memory = m.set d.ring.availFlags 0 ∧ reply.device.stats.reads = d.stats.reads) ∨
    ∃ i : Slot, (d.ring.avail m).idx = i.word ∧ (d.ring.descriptor m i).flags ≠ 0 ∧
      let rung := { d with stats.kicks := d.stats.kicks + 1 }
      let served := rung.serveAllocated (d.ring.setAvail m ⟨0, i.word⟩) i
      reply.memory = served.memory ∧ reply.device = served.device := by
  intro reply
  by_cases hkick : flags &&& kick = 0
  · obtain ⟨hmemory, hdevice, -⟩ := d.service_ignored m hkick
    exact .inl ⟨hmemory, by rw [hdevice]⟩
  by_cases hset : (d.ring.avail m).flags &&& flagSet = 0
  · obtain ⟨hmemory, hdevice, -⟩ := d.service_idle m hkick hset
    exact .inl ⟨hmemory, by rw [hdevice]⟩
  obtain ⟨hmemory, hdevice, -⟩ := d.service_announced m hkick hset
  -- to take the announcement back leaves the descriptors as they were
  have hkept (i : Slot) : d.ring.isAllocated (m.set d.ring.availFlags 0) i =
      ((d.ring.descriptor m i).flags != 0) := by
    rw [Ring.isAllocated_eq, ← Ring.setAvail_flags, Ring.descriptor_setAvail]
  cases hslot : Ring.slot? (d.ring.avail m).idx with
  | error cause =>
    rw [serve, hslot] at hmemory hdevice
    exact .inr (.inl ⟨hmemory, by rw [hdevice]⟩)
  | ok i =>
    have hidx := (Ring.word_of_slot? hslot).symm
    by_cases hflags : (d.ring.descriptor m i).flags = 0
    · have hfree : d.ring.isAllocated (m.set d.ring.availFlags 0) i = false := by
        rw [hkept, hflags]
        rfl
      rw [serve, hslot] at hmemory hdevice
      simp only [hfree, Bool.false_eq_true, if_false] at hmemory hdevice
      exact .inr (.inl ⟨hmemory, by rw [hdevice]⟩)
    · obtain ⟨hmemory, hdevice, -⟩ := d.service_allocated m hkick hset hidx hflags
      exact .inr (.inr ⟨i, hidx, hflags, hmemory, hdevice⟩)

/-- A request that is counted as filled is answered. -/
theorem answered_of_reads (i : Slot)
    (h : (d.serveAllocated m i).device.stats.reads ≠ d.stats.reads) :
    let m' := (d.serveAllocated m i).memory
    d.ring.used m' = ⟨flagSet, i.word⟩ ∧ (d.ring.descriptor m' i).flags = flagSet := by
  intro m'
  obtain ⟨hmemory, hdevice⟩ := d.serveAllocated_eq m i
  rw [hdevice] at h
  rw [show m' = _ from hmemory]
  -- only one of the three ways counts as a read
  cases hop : (d.requestAt m i).op with
  | read =>
    simp only
    exact d.answered_fill ..
  | write =>
    rw [hop] at h
    exact absurd rfl h
  | other code =>
    rw [hop] at h
    exact absurd rfl h

/-- **The frame of an event**, on any ring, whatever is in memory. A word that an event changes is
the one that announces, or, for a descriptor that is announced, its flags word, one of the two words
of the answer, the first word of its buffer, or one of the first 29 words of its payload, as far as
the buffer reaches; and then it lies within the buffer that the descriptor declares. An announcement
that names no descriptor, or one that is free, is taken back at most. If a request is counted as
filled, then the descriptor is answered and in use, also where the payload went over the ring. -/
theorem service_frame (d : BlockDevice) (m : Memory) (flags : Word) :
    let r := d.ring
    let idx := (r.avail m).idx
    let reply := d.service m flags
    let m' := reply.memory
    (∀ a, m'.get a ≠ m.get a → a = r.availFlags ∨ ∃ i : Slot, idx = i.word ∧
      let addr := (r.descriptor m i).addr
      let len := (r.descriptor m i).len.toNat
      (a = r.cell i .flags ∨ a = r.usedFlags ∨ a = r.usedIdx) ∨
        (a = addr ∨ distance (addr + 3) a < min 29 (len - 3)) ∧
          (1 ≤ len → distance addr a < len)) ∧
    ((∀ i : Slot, idx = i.word → (r.descriptor m i).flags = 0) →
      m' = m ∨ m' = m.set r.availFlags 0) ∧
    (reply.device.stats.reads ≠ d.stats.reads → ∃ i : Slot, idx = i.word ∧
      r.used m' = ⟨1, i.word⟩ ∧ (r.descriptor m' i).flags = 1) := by
  intro r idx reply m'
  have hcases := d.service_cases m flags
  refine ⟨fun a hne => ?_, fun hfree => ?_, fun hreads => ?_⟩
  · -- a word out of reach would have been kept
    have hreach : r.Reach m a := by
      by_contra hfar
      exact hne (d.sameOn_service m flags a hfar)
    obtain havail | ⟨i, hslot, hreach⟩ := hreach
    · exact .inl havail
    refine .inr ⟨i, (Ring.word_of_slot? hslot).symm, ?_⟩
    obtain hflags | hused | hused | haddr | hpayload := hreach
    · exact .inl (.inl hflags)
    · exact .inl (.inr (.inl hused))
    · exact .inl (.inr (.inr hused))
    · refine .inr ⟨.inl haddr, fun hlen => ?_⟩
      rw [haddr, distance_self]
      exact hlen
    · exact .inr ⟨.inr hpayload, fun _ => Ring.distance_of_payload hpayload⟩
  · obtain ⟨hmemory, -⟩ | ⟨hmemory, -⟩ | ⟨i, hidx, hflags, -⟩ := hcases
    · exact .inl hmemory
    · exact .inr hmemory
    · exact absurd (hfree i hidx) hflags
  · obtain ⟨-, hsame⟩ | ⟨-, hsame⟩ | ⟨i, hidx, -, hmemory, hdevice⟩ := hcases
    · exact absurd hsame hreads
    · exact absurd hsame hreads
    · rw [show reply.device = _ from hdevice] at hreads
      rw [show m' = _ from hmemory]
      exact ⟨i, hidx, answered_of_reads _ _ i hreads⟩

/-- A request to read 200 words from position 5, in a buffer that begins at descriptor 8 and goes
over descriptor 9, whose request it is, and over both notices. The announcement is taken back, and
then the payload is stored over it. -/
theorem service_frame_overlapping :
    ∃ m : Memory, standard.ring.avail m = ⟨1, 9⟩ ∧
      standard.ring.descriptor m 9 = ⟨standard.ring.cell 8 .addr, 32, 1, 0⟩ ∧
      let reply := standard.service m 1
      reply.device.stats.reads = 1 ∧ standard.ring.used reply.memory = ⟨1, 9⟩ ∧
        (standard.ring.descriptor reply.memory 9).flags = 1 ∧
        reply.memory.get standard.ring.availFlags = 0x3A ∧
        reply.memory.get 0x8040 = m.get 0x8040 := by
  obtain ⟨m, hm⟩ : ∃ m, m = Memory.zero.stores [(0x8028, 1), (0x8029, 9), (0x8020, 1),
    (0x8021, 5), (0x8022, 200), (0x8024, 0x8020), (0x8025, 32), (0x8026, 1)] := ⟨_, rfl⟩
  have hannounced : standard.ring.avail m = ⟨1, 9⟩ := by
    simp only [Ring.avail, hm, Memory.get_stores, Memory.get_zero]
    decide
  have hdescriptor : standard.ring.descriptor m 9 = ⟨standard.ring.cell 8 .addr, 32, 1, 0⟩ := by
    simp only [Ring.descriptor, hm, Memory.get_stores, Memory.get_zero]
    decide
  have hrequest : standard.requestAt (standard.ring.setAvail m ⟨0, Slot.word 9⟩) 9 =
      ⟨.read, 5, 200⟩ := by
    simp only [requestAt, Ring.setAvail, Ring.setFlags, Ring.descriptor, Request.load,
      Memory.get_set, hm, Memory.get_stores, Memory.get_zero]
    decide
  -- the device serves the whole payload that a buffer of 32 words has room for
  obtain ⟨hmemory, hdevice, -⟩ := standard.service_allocated m
    (by decide : (1 : Word) &&& kick ≠ 0) (by rw [hannounced]; decide) (i := 9)
    (by rw [hannounced]; rfl) (by rw [hdescriptor]; decide)
  obtain ⟨hfilled, hcounted⟩ := BlockDevice.serveAllocated_eq
    { standard with stats.kicks := standard.stats.kicks + 1 }
    (standard.ring.setAvail m ⟨0, Slot.word 9⟩) 9
  have hsame : requestAt { standard with stats.kicks := standard.stats.kicks + 1 }
      (standard.ring.setAvail m ⟨0, Slot.word 9⟩) 9 = ⟨.read, 5, 200⟩ := hrequest
  simp only [hsame] at hfilled hcounted
  have hreads : (standard.service m 1).device.stats.reads = 1 := by
    rw [hdevice, hcounted]
    rfl
  obtain ⟨hframe, -, hcompleted⟩ := service_frame standard m 1
  obtain ⟨i, hidx, hused, hflags⟩ := hcompleted (by rw [hreads]; decide)
  rw [hannounced] at hidx
  obtain rfl : 9 = i := Slot.word_inj.mp hidx
  refine ⟨m, hannounced, hdescriptor, hreads, hused, hflags, ?_, ?_⟩
  · -- the payload begins five words ahead of the announcement, and nothing is stored there later
    have hpayload : ∀ k : Memory, (k.writeSlice (Request.payload (standard.ring.cell 8 .addr))
        (contents 5 29)).get standard.ring.availFlags = 0x3A := by
      intro k
      rw [Memory.get_writeSlice_inside (by decide) (by decide)]
      decide
    show (standard.ring.avail (standard.service m 1).memory).flags = _
    rw [hmemory, hfilled, Ring.descriptor_setAvail, hdescriptor]
    show (standard.ring.avail (standard.ring.setFlags (standard.ring.setUsed _ _) 9 _)).flags = _
    rw [Ring.avail_setFlags, Ring.avail_setUsed]
    exact hpayload _
  · by_contra hne
    obtain havail | ⟨j, hj, hchanged⟩ := hframe 0x8040 hne
    · exact absurd havail (by decide)
    · rw [hannounced] at hj
      obtain rfl : 9 = j := Slot.word_inj.mp hj
      rw [hdescriptor] at hchanged
      exact absurd hchanged (by decide)

end BlockDevice

end LC3
