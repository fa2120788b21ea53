import LC3.Proofs.Memory.Frame
import LC3.Ring

/-!
# The layout of a ring

A ring is known by its base alone, and the base may lie anywhere, so its words are told apart
by where they lie behind the base: the 45 header words first, then ten buffers of 32 words.

- `Ring.place`: where an address lies in a ring. Two addresses are equal exactly when their
  places are (`place_inj`), which leaves only arithmetic on small numbers.
- `Ring.Within`, `Ring.InHeader`: the addresses of a ring, and those of its header.
- `descriptor_setFlags`, `avail_setUsed`, …: what each store into the header does to each of
  its parts. Every one of them is a frame but for the part that it names.
- `Ring.Idle`: nothing is announced, nothing answered and no descriptor in use. A ring is idle
  when it has been laid out (`idle_init`).
-/

namespace LC3

theorem Slot.val_lt_ten (i : Slot) : i.val < 10 := i.isLt

@[simp] theorem Slot.toNat_word (i : Slot) : i.word.toNat = i.val := by
  have hi := Slot.val_lt_ten i
  simp only [Slot.word, UInt16.toNat_ofNat']
  omega

/-- Descriptors are told apart by their indices. -/
theorem Slot.word_inj {i j : Slot} : i.word = j.word ↔ i = j := by
  rw [← UInt16.toNat_inj, Slot.toNat_word, Slot.toNat_word, Fin.ext_iff]

theorem DescriptorField.toNat_offset_lt (f : DescriptorField) : f.offset.toNat < 4 := by
  cases f <;> decide

theorem DescriptorField.offset_inj {f g : DescriptorField} :
    f.offset.toNat = g.offset.toNat ↔ f = g := by
  cases f <;> cases g <;> decide

namespace Ring

/-! ## Indices -/

@[simp] theorem slot?_word (i : Slot) : slot? i.word = .ok i := by
  have h : i.word.toNat < ringSize := by
    rw [Slot.toNat_word]
    exact i.isLt
  rw [slot?, dif_pos h]
  congr 1
  exact Fin.ext (Slot.toNat_word i)

/-- An index that names a descriptor is the index of that descriptor. -/
theorem word_of_slot? {i : Slot} {index : Word} (h : slot? index = .ok i) : i.word = index := by
  rw [slot?] at h
  split at h
  · cases h
    exact UInt16.toNat_inj.mp (Slot.toNat_word _)
  · cases h

theorem slot?_of_le {index : Word} (h : ringSize ≤ index.toNat) :
    slot? index = .error (.outOfRange index) := dif_neg (Nat.not_lt.mpr h)

/-! ## Places -/

/-- Where an address lies in a ring, counted in words from the base. -/
def place (r : Ring) (a : Word) : Nat := distance r.base a

/-- The addresses that belong to a ring, buffers included. -/
def Within (r : Ring) (a : Word) : Prop := r.place a < 365

/-- The addresses of a ring ahead of its buffers. -/
def InHeader (r : Ring) (a : Word) : Prop := r.place a < 45

instance (r : Ring) (a : Word) : Decidable (r.Within a) := Nat.decLt ..

instance (r : Ring) (a : Word) : Decidable (r.InHeader a) := Nat.decLt ..

variable (r : Ring)

theorem place_inj {a b : Word} : r.place a = r.place b ↔ a = b := distance_inj

theorem ne_of_place {a b : Word} (h : r.place a ≠ r.place b) : a ≠ b := mt r.place_inj.mpr h

/-- A run of words is where the places of its ends say. -/
theorem distance_eq_place (a x : Word) :
    distance a x = (65536 + r.place x - r.place a) % 65536 := distance_eq r.base a x

@[simp] theorem place_availFlags : r.place r.availFlags = 41 := distance_add r.base 41

@[simp] theorem place_availIdx : r.place r.availIdx = 42 := distance_add r.base 42

@[simp] theorem place_usedFlags : r.place r.usedFlags = 43 := distance_add r.base 43

@[simp] theorem place_usedIdx : r.place r.usedIdx = 44 := distance_add r.base 44

@[simp] theorem place_cell (i : Slot) (f : DescriptorField) :
    r.place (r.cell i f) = 1 + 4 * i.val + f.offset.toNat := by
  have hi := Slot.val_lt_ten i
  have hf := f.toNat_offset_lt
  have hadd : r.place (r.cell i f) = (1 + i.word * 4 + f.offset).toNat := distance_add ..
  rw [hadd]
  simp only [UInt16.toNat_add, UInt16.toNat_mul, Slot.toNat_word, UInt16.toNat_one,
    UInt16.reduceToNat]
  omega

@[simp] theorem place_descriptorStart (i : Slot) :
    r.place (r.descriptorStart i) = 1 + 4 * i.val := by
  have hi := Slot.val_lt_ten i
  have hadd : r.place (r.descriptorStart i) = (1 + i.word * 4).toNat := distance_add ..
  rw [hadd]
  simp only [UInt16.toNat_add, UInt16.toNat_mul, Slot.toNat_word, UInt16.toNat_one,
    UInt16.reduceToNat]
  omega

/-- The words of buffer `i` follow the header and the buffers before it. -/
theorem place_buffer_add (i : Slot) {w : Word} (h : w.toNat < 32) :
    r.place (r.buffer i.word + w) = 45 + 32 * i.val + w.toNat := by
  have hi := Slot.val_lt_ten i
  have hassoc : r.buffer i.word + w = r.base + (45 + i.word * bufferWords + w) := by
    simp only [buffer, dataStart, UInt16.add_assoc]
  have hadd : r.place (r.buffer i.word + w) = (45 + i.word * bufferWords + w).toNat := by
    rw [hassoc]
    exact distance_add ..
  rw [hadd]
  simp only [bufferWords, UInt16.toNat_add, UInt16.toNat_mul, Slot.toNat_word,
    UInt16.reduceToNat]
  omega

@[simp] theorem place_buffer (i : Slot) : r.place (r.buffer i.word) = 45 + 32 * i.val := by
  have h := r.place_buffer_add i (w := 0) (by decide)
  simpa using h

theorem cell_inj {i j : Slot} {f g : DescriptorField} :
    r.cell i f = r.cell j g ↔ i = j ∧ f = g := by
  have hf := f.toNat_offset_lt
  have hg := g.toNat_offset_lt
  constructor
  · intro h
    have hp : 1 + 4 * i.val + f.offset.toNat = 1 + 4 * j.val + g.offset.toNat := by
      rw [← place_cell, ← place_cell, h]
    exact ⟨Fin.ext (by omega), DescriptorField.offset_inj.mp (by omega)⟩
  · rintro ⟨rfl, rfl⟩
    rfl

/-- Every word of a descriptor is a header word ahead of the two notices. -/
theorem place_cell_lt (i : Slot) (f : DescriptorField) : r.place (r.cell i f) < 41 := by
  have hi := Slot.val_lt_ten i
  have hf := f.toNat_offset_lt
  rw [place_cell]
  omega

theorem inHeader_cell (i : Slot) (f : DescriptorField) : r.InHeader (r.cell i f) :=
  Nat.lt_trans (r.place_cell_lt i f) (by decide)

theorem inHeader_availFlags : r.InHeader r.availFlags := by simp [InHeader]

theorem inHeader_availIdx : r.InHeader r.availIdx := by simp [InHeader]

theorem inHeader_usedFlags : r.InHeader r.usedFlags := by simp [InHeader]

theorem inHeader_usedIdx : r.InHeader r.usedIdx := by simp [InHeader]

variable {r : Ring} {m n : Memory}

theorem InHeader.within {a : Word} (h : r.InHeader a) : r.Within a :=
  Nat.lt_trans h (by decide)

/-- A notice is no part of a descriptor. -/
theorem cell_ne_of_place {a : Word} (h : 41 ≤ r.place a) (i : Slot) (f : DescriptorField) :
    r.cell i f ≠ a := by
  have hc := r.place_cell_lt i f
  exact r.ne_of_place (by omega)

/-- A run of words within buffer `i` changes those words and no others. -/
theorem sameOn_writeSlice_buffer (i : Slot) (w : Word) (values : List Word)
    (h : w.toNat + values.length ≤ 32) :
    m.SameOn (fun x => ¬ (45 + 32 * i.val + w.toNat ≤ r.place x ∧
      r.place x < 45 + 32 * i.val + w.toNat + values.length))
      (m.writeSlice (r.buffer i.word + w) values) := by
  intro x hx
  have hi := Slot.val_lt_ten i
  have hplace : r.place x < 65536 := distance_lt ..
  apply Memory.get_writeSlice_outside
  by_cases hw : w.toNat < 32
  · rw [r.distance_eq_place, r.place_buffer_add i hw]
    omega
  · omega

/-! ## The standard ring -/

theorem within_standard {a : Word} : standard.Within a ↔ 0x7FFF ≤ a ∧ a ≤ 0x816B := by
  have ha := a.toNat_lt
  show (a - 0x7FFF).toNat < 365 ↔ _
  rw [UInt16.toNat_sub, UInt16.le_iff_toNat_le, UInt16.le_iff_toNat_le]
  simp only [UInt16.reduceToNat]
  omega

/-- The interrupt window lies below the standard ring. -/
theorem outside_window_of_standard {a : Word} (h : standard.Within a) :
    inInterruptWindow a = false := by
  have hlow := UInt16.le_iff_toNat_le.mp (within_standard.mp h).1
  have hhigh : ¬ a ≤ 0x01FF := by
    rw [UInt16.le_iff_toNat_le]
    simp only [UInt16.reduceToNat] at hlow ⊢
    omega
  simp only [inInterruptWindow, decide_eq_false hhigh, Bool.and_false]

theorem inHeader_standard {a : Word} : standard.InHeader a ↔ 0x7FFF ≤ a ∧ a ≤ 0x802B := by
  have ha := a.toNat_lt
  show (a - 0x7FFF).toNat < 45 ↔ _
  rw [UInt16.toNat_sub, UInt16.le_iff_toNat_le, UInt16.le_iff_toNat_le]
  simp only [UInt16.reduceToNat]
  omega

theorem cell_addr_standard : ∀ i : Slot, standard.cell i .addr = 0x8000 + 4 * i.word := by
  decide

theorem buffer_standard : ∀ i : Slot, standard.buffer i.word = 0x802C + 32 * i.word := by
  decide

/-! ## Reading the header -/

section Frames

variable {S : Word → Prop} (h : m.SameOn S n)
include h

theorem descriptor_congr {i : Slot} (hcell : ∀ f, S (r.cell i f)) :
    r.descriptor n i = r.descriptor m i := by
  simp only [descriptor, h _ (hcell _)]

theorem avail_congr (hflags : S r.availFlags) (hidx : S r.availIdx) :
    r.avail n = r.avail m := by
  simp only [avail, h _ hflags, h _ hidx]

theorem used_congr (hflags : S r.usedFlags) (hidx : S r.usedIdx) : r.used n = r.used m := by
  simp only [used, h _ hflags, h _ hidx]

end Frames

theorem isAllocated_eq (i : Slot) : r.isAllocated m i = ((r.descriptor m i).flags != 0) := rfl

/-! ## Stores into the header -/

section Frames

variable {S : Word → Prop}

theorem sameOn_setFlags {i : Slot} (hflags : ¬ S (r.cell i .flags)) (v : Word) :
    m.SameOn S (r.setFlags m i v) := .set hflags v

theorem sameOn_setAvail (hflags : ¬ S r.availFlags) (hidx : ¬ S r.availIdx) (a : Notice) :
    m.SameOn S (r.setAvail m a) := (Memory.SameOn.set hflags _).trans (.set hidx _)

theorem sameOn_setUsed (hflags : ¬ S r.usedFlags) (hidx : ¬ S r.usedIdx) (u : Notice) :
    m.SameOn S (r.setUsed m u) := (Memory.SameOn.set hflags _).trans (.set hidx _)

end Frames

variable (r) (m)

theorem descriptor_setFlags (i j : Slot) (v : Word) :
    r.descriptor (r.setFlags m i v) j =
      if j = i then { r.descriptor m i with flags := v } else r.descriptor m j := by
  by_cases h : j = i
  · subst h
    simp [descriptor, setFlags, Memory.get_set, cell_inj]
  · simp [descriptor, setFlags, Memory.get_set, cell_inj, h]

-- the parts of the header lie one behind the other: the descriptors, what the driver announces,
-- and what the device answers

@[simp] theorem avail_setFlags (i : Slot) (v : Word) :
    r.avail (r.setFlags m i v) = r.avail m := by
  have hcell : ¬ 41 ≤ r.place (r.cell i .flags) := Nat.not_le.mpr (r.place_cell_lt i _)
  exact avail_congr (sameOn_setFlags (S := fun a => 41 ≤ r.place a) hcell v) (by simp) (by simp)

@[simp] theorem used_setFlags (i : Slot) (v : Word) :
    r.used (r.setFlags m i v) = r.used m := by
  have hcell : ¬ 41 ≤ r.place (r.cell i .flags) := Nat.not_le.mpr (r.place_cell_lt i _)
  exact used_congr (sameOn_setFlags (S := fun a => 41 ≤ r.place a) hcell v) (by simp) (by simp)

@[simp] theorem descriptor_setAvail (a : Notice) (i : Slot) :
    r.descriptor (r.setAvail m a) i = r.descriptor m i :=
  descriptor_congr (sameOn_setAvail (S := fun a => r.place a < 41) (by simp) (by simp) a)
    (r.place_cell_lt i)

@[simp] theorem descriptor_setUsed (u : Notice) (i : Slot) :
    r.descriptor (r.setUsed m u) i = r.descriptor m i :=
  descriptor_congr (sameOn_setUsed (S := fun a => r.place a < 41) (by simp) (by simp) u)
    (r.place_cell_lt i)

@[simp] theorem avail_setAvail (a : Notice) : r.avail (r.setAvail m a) = a := by
  have h : r.availFlags ≠ r.availIdx := r.ne_of_place (by simp)
  simp [avail, setAvail, Memory.get_set, h]

@[simp] theorem used_setUsed (u : Notice) : r.used (r.setUsed m u) = u := by
  have h : r.usedFlags ≠ r.usedIdx := r.ne_of_place (by simp)
  simp [used, setUsed, Memory.get_set, h]

@[simp] theorem avail_setUsed (u : Notice) : r.avail (r.setUsed m u) = r.avail m :=
  avail_congr (sameOn_setUsed (S := fun a => r.place a < 43) (by simp) (by simp) u)
    (by simp) (by simp)

@[simp] theorem used_setAvail (a : Notice) : r.used (r.setAvail m a) = r.used m :=
  used_congr (sameOn_setAvail (S := fun a => 43 ≤ r.place a) (by simp) (by simp) a)
    (by simp) (by simp)

/-- To take back an announcement is to clear its flags word: the other word is stored as it
was. -/
theorem setAvail_flags (v : Word) :
    r.setAvail m ⟨v, (r.avail m).idx⟩ = m.set r.availFlags v := by
  have h : r.availIdx ≠ r.availFlags := r.ne_of_place (by simp)
  have hidx : (r.avail m).idx = (m.set r.availFlags v).get r.availIdx :=
    (Memory.get_set_other h).symm
  simp only [setAvail, hidx, Memory.set_get_self]

/-- A store to the flags of the answer leaves its index. -/
theorem setUsed_flags (v : Word) :
    r.setUsed m ⟨v, (r.used m).idx⟩ = m.set r.usedFlags v := by
  have h : r.usedIdx ≠ r.usedFlags := r.ne_of_place (by simp)
  have hidx : (r.used m).idx = (m.set r.usedFlags v).get r.usedIdx :=
    (Memory.get_set_other h).symm
  simp only [setUsed, hidx, Memory.set_get_self]

/-- A whole descriptor, stored word after word. -/
theorem descriptor_writeSlice (i j : Slot) (d : Descriptor) :
    r.descriptor (m.writeSlice (r.descriptorStart i) d.words) j =
      if j = i then d else r.descriptor m j := by
  have hi := Slot.val_lt_ten i
  have hj := Slot.val_lt_ten j
  have hdist : ∀ f : DescriptorField, distance (r.descriptorStart i) (r.cell j f) =
      (65536 + (4 * j.val + f.offset.toNat) - 4 * i.val) % 65536 := by
    intro f
    rw [r.distance_eq_place, place_cell, place_descriptorStart]
    congr 1
    omega
  by_cases h : j = i
  · subst h
    have hin : ∀ f : DescriptorField, distance (r.descriptorStart j) (r.cell j f) =
        f.offset.toNat := by
      intro f
      have hf := f.toNat_offset_lt
      rw [hdist]
      omega
    -- its own words come back one by one
    have hget : ∀ f : DescriptorField, (m.writeSlice (r.descriptorStart j) d.words).get (r.cell j f)
        = d.words.get ⟨f.offset.toNat, f.toNat_offset_lt⟩ := by
      intro f
      have hlt : distance (r.descriptorStart j) (r.cell j f) < d.words.length := by
        rw [hin]
        exact f.toNat_offset_lt
      rw [Memory.get_writeSlice_inside (by simp [Descriptor.words]) hlt]
      simp only [hin, List.get_eq_getElem]
    rw [if_pos rfl, descriptor, hget, hget, hget, hget]
    rfl
  · -- another descriptor lies four words off at least, in either direction
    have hout : ∀ f : DescriptorField, (m.writeSlice (r.descriptorStart i) d.words).get (r.cell j f)
        = m.get (r.cell j f) := by
      intro f
      have hf := f.toNat_offset_lt
      have hne : j.val ≠ i.val := fun e => h (Fin.ext e)
      apply Memory.get_writeSlice_outside
      rw [hdist]
      show 4 ≤ _
      omega
    simp only [descriptor, hout, if_neg h]

/-! ## A ring at rest -/

/-- Nothing is announced and nothing answered, no descriptor is in use, and each one has the
buffer that it was laid out with. -/
structure Idle (r : Ring) (m : Memory) : Prop where
  /-- The descriptors are as they were laid out. -/
  fresh : ∀ i, r.descriptor m i = r.freshDescriptor i
  /-- The driver announces nothing. -/
  avail : (r.avail m).flags = 0
  /-- The device answers nothing. -/
  used : (r.used m).flags = 0

variable {r} {m}

/-- Whether a ring is idle depends on its header alone. -/
theorem Idle.congr (h : r.Idle m) (hs : m.SameOn r.InHeader n) : r.Idle n where
  fresh i := (descriptor_congr hs (r.inHeader_cell i)).trans (h.fresh i)
  avail := by rw [avail_congr hs r.inHeader_availFlags r.inHeader_availIdx, h.avail]
  used := by rw [used_congr hs r.inHeader_usedFlags r.inHeader_usedIdx, h.used]

theorem Idle.isAllocated (h : r.Idle m) (i : Slot) : r.isAllocated m i = false := by
  rw [isAllocated_eq, h.fresh]
  rfl

/-- The first descriptor of an idle ring is the one to be taken next. -/
theorem Idle.findFree? (h : r.Idle m) : r.findFree? m = some 0 := by
  have hfree : (fun i => !r.isAllocated m i) = fun _ => true :=
    funext fun i => by rw [h.isAllocated]; rfl
  rw [Ring.findFree?, hfree]
  rfl

variable (r) (m)

/-- Laying out descriptors one after the other changes those and no others. -/
theorem descriptor_layOut (l : List Slot) (j : Slot) :
    let laid := l.foldl
      (fun m i => m.writeSlice (r.descriptorStart i) (r.freshDescriptor i).words) m
    (j ∈ l → r.descriptor laid j = r.freshDescriptor j) ∧
      (j ∉ l → r.descriptor laid j = r.descriptor m j) := by
  induction l generalizing m with
  | nil => simp
  | cons i rest ih =>
    -- what counts is the last time that descriptor `j` is laid out
    obtain ⟨hin, hout⟩ := ih (m := m.writeSlice (r.descriptorStart i) (r.freshDescriptor i).words)
    rw [descriptor_writeSlice] at hout
    by_cases hrest : j ∈ rest
    · simp [hin hrest, hrest]
    · by_cases hi : j = i
      · subst hi
        simp [hout hrest]
      · simp [hout hrest, hrest, hi]

/-- Laying out descriptors changes no word behind the header. -/
theorem sameOn_layOut (l : List Slot) :
    m.SameOn (fun a => ¬ r.InHeader a)
      (l.foldl (fun m i => m.writeSlice (r.descriptorStart i) (r.freshDescriptor i).words) m) := by
  induction l generalizing m with
  | nil => exact .refl _ m
  | cons i rest ih =>
    refine Memory.SameOn.trans (.writeSlice fun x hx => ?_) (ih _)
    have hi := Slot.val_lt_ten i
    have hlow : ¬ r.place x < 45 := hx
    have hhigh : r.place x < 65536 := distance_lt ..
    rw [r.distance_eq_place, place_descriptorStart]
    show 4 ≤ _
    omega

/-- Laying out a ring changes no word behind the header. -/
theorem sameOn_init : m.SameOn (fun a => ¬ r.InHeader a) (r.init m) := by
  have hbase : r.InHeader r.base := by simp [InHeader, place]
  have hnum : m.SameOn (fun a => ¬ r.InHeader a) (m.set r.base (UInt16.ofNat ringSize)) :=
    .set (fun h => h hbase) _
  have hlaid := hnum.trans (r.sameOn_layOut _ (List.finRange ringSize))
  exact (hlaid.trans (sameOn_setAvail (fun h => h r.inHeader_availFlags)
    (fun h => h r.inHeader_availIdx) ⟨0, 0⟩)).trans (sameOn_setUsed
    (fun h => h r.inHeader_usedFlags) (fun h => h r.inHeader_usedIdx) ⟨0, 0⟩)

theorem avail_init : r.avail (r.init m) = ⟨0, 0⟩ := by rw [init, avail_setUsed, avail_setAvail]

/-- A ring that has just been laid out is idle, whatever was in memory before. -/
theorem idle_init : r.Idle (r.init m) where
  fresh i := by
    rw [init, descriptor_setUsed, descriptor_setAvail]
    exact (descriptor_layOut _ _ _ i).1 (List.mem_finRange i)
  avail := congrArg Notice.flags (r.avail_init m)
  used := by rw [init, used_setUsed]

end Ring

end LC3
