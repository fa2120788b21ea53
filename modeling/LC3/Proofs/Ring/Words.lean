import LC3.Proofs.Ring.Allocation
import Mathlib.Logic.Function.Basic

/-!
# The words of a ring

Wherever a ring lies, its 365 words are different words of memory. A store to one part of the
header is therefore seen in that part and in no other one, and a ring that is laid out reads as it
was meant to.

- `Ring.addresses`: the addresses of a ring, part after part. Their places are the numbers below
  365, each of them once (`map_place_addresses`).
- `Ring.contents`: what the header says, part by part. `contents_setFlags`, `contents_setAvail`,
  `contents_setUsed`, `contents_init`: what the stores make of it.
- `Ring.mark`: the flags of a descriptor, stored under its index if there is such a descriptor.
- `Ring.layout_sound`: all of this for any base.
-/

namespace LC3

namespace Ring

variable (r : Ring) (m : Memory)

/-! ## Addresses -/

/-- The addresses of a ring: the number of descriptors, the words of the descriptors, what the
driver announces and the device answers, and the words of the buffers. -/
def addresses : List Word :=
  r.base ::
    ((List.finRange ringSize).flatMap fun i =>
      [r.cell i .addr, r.cell i .len, r.cell i .flags, r.cell i .next]) ++
    [r.availFlags, r.availIdx, r.usedFlags, r.usedIdx] ++
    (List.finRange ringSize).flatMap fun i : Slot =>
      (List.range 32).map fun k => r.buffer i.word + UInt16.ofNat k

@[simp] theorem place_base : r.place r.base = 0 := distance_self r.base

/-- The words of a buffer lie one behind the other. -/
theorem map_place_buffer (i : Slot) :
    ((List.range 32).map fun k => r.buffer i.word + UInt16.ofNat k).map r.place =
      (List.range 32).map fun k => 45 + 32 * i.val + k := by
  rw [List.map_map]
  apply List.map_congr_left
  intro k hk
  have hk : k < 32 := List.mem_range.mp hk
  have hword : (UInt16.ofNat k).toNat = k := Nat.mod_eq_of_lt (by omega)
  rw [Function.comp_apply, place_buffer_add r i (by omega), hword]

/-- **The parts of a ring lie one behind the other**, without a gap and without an overlap. -/
theorem map_place_addresses : r.addresses.map r.place = List.range 365 := by
  simp only [addresses, List.map_append, List.map_cons, List.map_nil, List.map_flatMap, place_base,
    place_cell, place_availFlags, place_availIdx, place_usedFlags, place_usedIdx, map_place_buffer]
  decide +kernel

theorem length_addresses : r.addresses.length = 365 := by
  rw [← List.length_map r.place, map_place_addresses, List.length_range]

theorem nodup_addresses : r.addresses.Nodup := by
  have hplaces : (r.addresses.map r.place).Nodup := by
    rw [map_place_addresses]
    exact List.nodup_range
  exact hplaces.of_map r.place

/-! ## What the header says -/

/-- What the header of a ring says, part by part. -/
structure Contents where
  /-- The number of descriptors. -/
  num : Word
  /-- The descriptors. -/
  descriptor : Slot → Descriptor
  /-- What the driver announces. -/
  avail : Notice
  /-- What the device answers. -/
  used : Notice

/-- What the header of a ring says in memory. -/
def contents : Contents := ⟨r.num m, r.descriptor m, r.avail m, r.used m⟩

/-- The number of descriptors stands in the first word. -/
theorem num_congr {r : Ring} {S : Word → Prop} {m n : Memory} (h : m.SameOn S n)
    (hbase : S r.base) : r.num n = r.num m := h _ hbase

@[simp] theorem num_setFlags (i : Slot) (v : Word) : r.num (r.setFlags m i v) = r.num m :=
  num_congr (sameOn_setFlags (S := fun a => r.place a < 1) (by simp) v) (by simp)

@[simp] theorem num_setAvail (a : Notice) : r.num (r.setAvail m a) = r.num m :=
  num_congr (sameOn_setAvail (S := fun a => r.place a < 41) (by simp) (by simp) a) (by simp)

@[simp] theorem num_setUsed (u : Notice) : r.num (r.setUsed m u) = r.num m :=
  num_congr (sameOn_setUsed (S := fun a => r.place a < 43) (by simp) (by simp) u) (by simp)

theorem num_layOut (l : List Slot) :
    r.num (l.foldl
      (fun m i => m.writeSlice (r.descriptorStart i) (r.freshDescriptor i).words) m) = r.num m := by
  induction l generalizing m with
  | nil => rfl
  | cons i rest ih =>
    -- the base lies ahead of every descriptor, so a descriptor would have to go all around
    have hi := Slot.val_lt_ten i
    refine (ih _).trans (Memory.get_writeSlice_outside ?_)
    rw [r.distance_eq_place, place_descriptorStart, place_base]
    show 4 ≤ _
    omega

/-- A store to the flags of a descriptor is seen in that descriptor alone. -/
theorem contents_setFlags (i : Slot) (v : Word) :
    r.contents (r.setFlags m i v) = { r.contents m with
      descriptor := Function.update (r.descriptor m) i { r.descriptor m i with flags := v } } := by
  have hdescriptor : r.descriptor (r.setFlags m i v) =
      Function.update (r.descriptor m) i { r.descriptor m i with flags := v } := by
    funext j
    rw [descriptor_setFlags, Function.update_apply]
  simp only [contents, hdescriptor, num_setFlags, avail_setFlags, used_setFlags]

/-- An announcement is seen by whoever looks at the announcement alone. -/
theorem contents_setAvail (a : Notice) :
    r.contents (r.setAvail m a) = { r.contents m with avail := a } := by
  have hdescriptor : r.descriptor (r.setAvail m a) = r.descriptor m :=
    funext (r.descriptor_setAvail m a)
  simp only [contents, hdescriptor, num_setAvail, avail_setAvail, used_setAvail]

/-- An answer is seen by whoever looks at the answer alone. -/
theorem contents_setUsed (u : Notice) :
    r.contents (r.setUsed m u) = { r.contents m with used := u } := by
  have hdescriptor : r.descriptor (r.setUsed m u) = r.descriptor m :=
    funext (r.descriptor_setUsed m u)
  simp only [contents, hdescriptor, num_setUsed, avail_setUsed, used_setUsed]

/-- **A ring that was laid out** has ten free descriptors with a buffer each, says nothing in either
direction, and does not show what was in memory before. -/
theorem contents_init :
    r.contents (r.init m) =
      { num := 10
        descriptor := fun i =>
          ⟨r.base + 45 + 32 * i.word, 32, 0, if i.val = 9 then 0 else i.word + 1⟩
        avail := ⟨0, 0⟩
        used := ⟨0, 0⟩ } := by
  have hnum : r.num (r.init m) = 10 := by
    rw [init, num_setUsed, num_setAvail, num_layOut]
    exact Memory.get_set_self ..
  have hdescriptor (i : Slot) : r.descriptor (r.init m) i =
      ⟨r.base + 45 + 32 * i.word, 32, 0, if i.val = 9 then 0 else i.word + 1⟩ := by
    have hlast : i.val + 1 = ringSize ↔ i.val = 9 := Nat.succ_inj
    rw [(r.idle_init m).fresh, freshDescriptor, buffer, dataStart, UInt16.mul_comm i.word]
    simp only [hlast, bufferWords]
  have hused : r.used (r.init m) = ⟨0, 0⟩ := by rw [init, used_setUsed]
  simp only [contents, hnum, avail_init, hused, funext hdescriptor]

/-- What is in use depends on the descriptors alone. -/
theorem allocation_congr {r : Ring} {m n : Memory}
    (h : (r.contents n).descriptor = (r.contents m).descriptor) :
    r.isAllocated n = r.isAllocated m ∧ r.findFree? n = r.findFree? m ∧
      r.allocated n = r.allocated m := by
  have hdescriptor : r.descriptor n = r.descriptor m := h
  have hflags : r.isAllocated n = r.isAllocated m := by
    funext i
    rw [isAllocated_eq, isAllocated_eq, hdescriptor]
  exact ⟨hflags, by simp only [findFree?, hflags], by simp only [allocated, hflags]⟩

/-! ## Stores by index -/

/-- The flags of the descriptor `index` are stored, if there is such a descriptor: whether there
is one, and the memory afterwards. -/
def mark (index v : Word) : Except RingError Unit × Memory :=
  match r.setFlags? m index v with
  | .ok n => (.ok (), n)
  | .error cause => (.error cause, m)

@[simp] theorem mark_word (i : Slot) (v : Word) :
    r.mark m i.word v = (.ok (), r.setFlags m i v) := by
  simp only [mark, setFlags?, slot?_word, Except.map]

theorem mark_of_le {index : Word} (h : ringSize ≤ index.toNat) (v : Word) :
    r.mark m index v = (.error (.outOfRange index), m) := by
  simp only [mark, setFlags?, slot?_of_le h, Except.map]

/-! ## The layout -/

/-- **The layout of a ring**, at any base and over any memory.

To lay out a ring changes its header alone, and makes it say what it should. Its 365 words are
different words. Each of the three stores changes the words that it names: it is seen in the part
that it is about and nowhere else. An index that names no descriptor is refused. -/
theorem layout_sound :
    (m.SameOn (fun x => 45 ≤ distance r.base x) (r.init m) ∧
      r.contents (r.init m) =
        { num := 10
          descriptor := fun i =>
            ⟨r.base + 45 + 32 * i.word, 32, 0, if i.val = 9 then 0 else i.word + 1⟩
          avail := ⟨0, 0⟩
          used := ⟨0, 0⟩ } ∧
      r.findFree? (r.init m) = some 0 ∧ r.allocated (r.init m) = 0) ∧
    (r.addresses.length = 365 ∧ r.addresses.Nodup) ∧
    (∀ (i : Slot) (v : Word),
      let n := r.setFlags m i v
      r.mark m i.word v = (.ok (), n) ∧ m.SameOn (· ≠ r.cell i .flags) n ∧
        r.contents n = { r.contents m with
          descriptor := Function.update (r.descriptor m) i { r.descriptor m i with flags := v } } ∧
        ∀ j ≠ i, r.isAllocated n j = r.isAllocated m j) ∧
    (∀ a : Notice,
      let n := r.setAvail m a
      m.SameOn (fun x => x ≠ r.availFlags ∧ x ≠ r.availIdx) n ∧
        r.contents n = { r.contents m with avail := a } ∧
        r.isAllocated n = r.isAllocated m ∧ r.findFree? n = r.findFree? m ∧
        r.allocated n = r.allocated m) ∧
    (∀ u : Notice,
      let n := r.setUsed m u
      m.SameOn (fun x => x ≠ r.usedFlags ∧ x ≠ r.usedIdx) n ∧
        r.contents n = { r.contents m with used := u } ∧
        r.isAllocated n = r.isAllocated m ∧ r.findFree? n = r.findFree? m ∧
        r.allocated n = r.allocated m) ∧
    (∀ i : Slot, (∀ f, r.cell? i.word f = .ok (r.cell i f)) ∧
      r.descriptor? m i.word = .ok ((r.contents m).descriptor i) ∧
      r.isAllocated? m i.word = .ok (r.isAllocated m i)) ∧
    ∀ index : Word, 10 ≤ index.toNat → (∀ f, r.cell? index f = .error (.outOfRange index)) ∧
      r.descriptor? m index = .error (.outOfRange index) ∧
      r.isAllocated? m index = .error (.outOfRange index) ∧
      ∀ v, r.mark m index v = (.error (.outOfRange index), m) := by
  refine ⟨⟨?_, r.contents_init m, (r.idle_init m).findFree?, (r.idle_init m).allocated⟩,
    ⟨r.length_addresses, r.nodup_addresses⟩, fun i v => ⟨r.mark_word m i v, ?_,
    r.contents_setFlags m i v, fun j hj => ?_⟩, fun a => ⟨?_, r.contents_setAvail m a,
    allocation_congr ?_⟩, fun u => ⟨?_, r.contents_setUsed m u, allocation_congr ?_⟩,
    fun i => ⟨fun f => ?_, ?_, ?_⟩, fun index hindex => ⟨fun f => ?_, ?_, ?_, fun v => ?_⟩⟩
  · exact (r.sameOn_init m).mono fun x hx => Nat.not_lt.mpr hx
  · exact sameOn_setFlags (fun h => h rfl) v
  · rw [isAllocated_setFlags, if_neg hj]
  · exact sameOn_setAvail (fun h => h.1 rfl) (fun h => h.2 rfl) a
  · rw [contents_setAvail]
  · exact sameOn_setUsed (fun h => h.1 rfl) (fun h => h.2 rfl) u
  · rw [contents_setUsed]
  · simp only [cell?, slot?_word, Except.map]
  · simp only [descriptor?, slot?_word, Except.map, contents]
  · simp only [isAllocated?, slot?_word, Except.map]
  · simp only [cell?, slot?_of_le hindex, Except.map]
  · simp only [descriptor?, slot?_of_le hindex, Except.map]
  · simp only [isAllocated?, slot?_of_le hindex, Except.map]
  · exact r.mark_of_le m hindex v

/-- The last descriptor of a ring that reaches around the ceiling, and the index behind it. -/
theorem layout_sound_wrapping :
    let r : Ring := ⟨0xFFF0⟩
    let m := r.init .zero
    (r.contents m).descriptor 9 = ⟨0x013D, 32, 0, 0⟩ ∧
      r.mark m 10 1 = (.error (.outOfRange 10), m) := by
  intro r m
  obtain ⟨⟨-, hlaid, -⟩, -⟩ := r.layout_sound .zero
  obtain ⟨-, -, -, -, -, -, hrefused⟩ := r.layout_sound m
  refine ⟨?_, (hrefused 10 (by decide)).2.2.2 1⟩
  rw [hlaid]
  decide

end Ring

end LC3
