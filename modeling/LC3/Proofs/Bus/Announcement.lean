import LC3.Monitor
import LC3.Proofs.Bus.Delivery

/-!
# An announcement is served once

A kick takes back the announcement that it finds before anything else happens, and nothing that
the device does afterwards makes it again: what is written for a request goes into the buffer of
its descriptor, and the words that the device answers with lie elsewhere. So a kick is answered
over a ring on which nothing is announced, and the next one finds nothing to do.

- `Ring.Withdrawn`: nothing is announced.
- `BlockDevice.withdrawn_service`: a kick leaves nothing announced, whatever it finds.
- `Bus.write_withdrawn`, `Bus.access_withdrawn`: a kick that finds nothing announced counts itself
  and puts the completion code at the entry.
- `Bus.served_once`: from one announcement to the next a device counts nothing but kicks.
-/

namespace LC3

namespace Ring

variable {r : Ring} {m n : Memory}

/-- Nothing is announced. -/
def Withdrawn (r : Ring) (m : Memory) : Prop := (r.avail m).flags.toNat % 2 = 0

/-- Whether something is announced depends on one word. -/
theorem withdrawn_congr (h : n.get r.availFlags = m.get r.availFlags) :
    r.Withdrawn n ↔ r.Withdrawn m := by
  show (n.get r.availFlags).toNat % 2 = 0 ↔ (m.get r.availFlags).toNat % 2 = 0
  rw [h]

/-- The word that announces is not among those that serving a request changes. -/
theorem Intact.not_reachFrom (h : r.Intact m) (i : Slot) : ¬ r.ReachFrom m i r.availFlags := by
  have hi := Slot.val_lt_ten i
  have hplace := r.place_availFlags
  rw [ReachFrom, h i]
  rintro (hflags | hused | hused | haddr | hpayload)
  · exact cell_ne_of_place (by omega) i _ hflags.symm
  · exact r.ne_of_place (by simp) hused
  · exact r.ne_of_place (by simp) hused
  · rw [haddr, place_buffer] at hplace
    omega
  · have hbuffer := place_of_payload (Nat.lt_of_lt_of_le hpayload (Nat.min_le_left ..))
    omega

end Ring

namespace BlockDevice

variable {d : BlockDevice} {m : Memory}

/-- A device that has counted kicks and nothing else. -/
def rung (d : BlockDevice) (n : Nat) : BlockDevice :=
  { d with stats.kicks := d.stats.kicks + n }

theorem rung_rung (d : BlockDevice) (n k : Nat) : (d.rung n).rung k = d.rung (n + k) := by
  simp only [rung, Nat.add_assoc]

/-- A kick that finds nothing announced counts itself. -/
theorem service_withdrawn (h : d.ring.Withdrawn m) {flags : Word} (hodd : flags.toNat % 2 = 1) :
    (d.service m flags).memory = m ∧ (d.service m flags).device = d.rung 1 ∧
      (d.service m flags).outcome = .serviced :=
  d.service_idle m (and_one_ne_zero.mpr hodd) (and_one_eq_zero.mpr h)

/-- **After a kick nothing is announced**, whatever the kick finds. -/
theorem withdrawn_service (h : d.ring.Intact m) {flags : Word} (hodd : flags.toNat % 2 = 1) :
    d.ring.Withdrawn (d.service m flags).memory := by
  by_cases hnone : d.ring.Withdrawn m
  · rwa [(service_withdrawn hnone hodd).1]
  have hset : (d.ring.avail m).flags.toNat % 2 = 1 := Nat.mod_two_ne_zero.mp hnone
  rw [(d.service_announced m (and_one_ne_zero.mpr hodd) (and_one_ne_zero.mpr hset)).1]
  -- the announcement is cleared first, and the request does not reach the word
  have hcleared : d.ring.Withdrawn (m.set d.ring.availFlags 0) := by
    show ((m.set d.ring.availFlags 0).get d.ring.availFlags).toNat % 2 = 0
    rw [Memory.get_set_self]
    rfl
  have hintact : d.ring.Intact (m.set d.ring.availFlags 0) :=
    h.congr (S := (· ≠ d.ring.availFlags)) (.set (fun hne => hne rfl) 0)
      fun i => Ring.cell_ne_of_place (by simp) i _
  refine (Ring.withdrawn_congr (BlockDevice.sameOn_serve _ _ _ _ ?_)).mpr hcleared
  rintro ⟨i, -, hreach⟩
  exact hintact.not_reachFrom i hreach

end BlockDevice

namespace Bus

open HasBlock (block vector_block handle_block)

variable {κ δ : Type}

/-! ## Kicks with nothing announced -/

section Block

variable [Handler δ] [HasBlock δ] {b : Bus κ δ} {k : Nat} {d : BlockDevice}

/-- A kick that finds nothing announced changes no word but the entry, and counts itself. -/
theorem write_withdrawn (h : b.answering? d.vector = some k)
    (hd : b.devices[k]? = some (block d)) (hentry : d.ring.availFlags ≠ d.vector)
    (hnone : d.ring.Withdrawn b.memory) {v : Word} (hodd : v.toNat % 2 = 1) :
    (b.write d.vector v).memory = b.memory.set d.vector completion ∧
      (b.write d.vector v).devices = b.devices.set k (block (d.rung 1)) := by
  have hstored : d.ring.Withdrawn (b.memory.set d.vector v) :=
    (Ring.withdrawn_congr (Memory.get_set_other hentry)).mpr hnone
  obtain ⟨hmemory, hdevice, houtcome⟩ := BlockDevice.service_withdrawn hstored hodd
  obtain ⟨hwritten, hdevices, -⟩ := write_block_answered h hd v
  rw [afterEvent_of_serviced houtcome, hmemory] at hwritten
  rw [hdevice] at hdevices
  exact ⟨hwritten.trans (Memory.set_set ..), hdevices⟩

/-- A kick leaves nothing announced and the completion code at the entry, also if it finds
something announced. -/
theorem withdrawn_write (h : b.answering? d.vector = some k)
    (hd : b.devices[k]? = some (block d)) (hentry : ¬ d.ring.Within d.vector)
    (hintact : d.ring.Intact b.memory) {v : Word} (hodd : v.toNat % 2 = 1) :
    d.ring.Withdrawn (b.write d.vector v).memory ∧
      (b.write d.vector v).memory.get d.vector = completion := by
  obtain ⟨hmemory, -⟩ := write_block_answered h hd v
  have hstored : d.ring.Intact (b.memory.set d.vector v) :=
    hintact.congr (.set hentry v) fun i => (d.ring.inHeader_cell i .addr).within
  have houtcome := (d.service_kick (b.memory.set d.vector v) hodd).1
  rw [afterEvent_of_serviced houtcome] at hmemory
  have hflags : d.ring.availFlags ≠ d.vector := by
    intro heq
    exact hentry (heq ▸ d.ring.inHeader_availFlags.within)
  rw [hmemory, Ring.withdrawn_congr (Memory.get_set_other hflags)]
  exact ⟨BlockDevice.withdrawn_service hstored hodd, Memory.get_set_self ..⟩

variable [Console κ]

/-- Kicks one after the other, when the completion code stands at the entry and nothing is
announced. -/
theorem kicks_withdrawn (h : b.answering? d.vector = some k)
    (hd : b.devices[k]? = some (block d)) (hentry : d.ring.availFlags ≠ d.vector)
    (hnone : d.ring.Withdrawn b.memory) (hcode : b.memory.get d.vector = completion)
    {vs : List Word} (hodd : ∀ v ∈ vs, v.toNat % 2 = 1) :
    let b' := b.accesses (vs.map (.write d.vector))
    b'.memory = b.memory ∧ b'.devices = b.devices.set k (block (d.rung vs.length)) := by
  have hplace := (List.getElem?_eq_some_iff.mp hd).1
  induction vs generalizing b d with
  | nil =>
    obtain ⟨_, hself⟩ := List.getElem?_eq_some_iff.mp hd
    refine ⟨rfl, ?_⟩
    show b.devices = b.devices.set k (block d)
    rw [← hself, List.set_getElem_self]
  | cons v rest ih =>
    obtain ⟨hmemory, hdevices⟩ := write_withdrawn h hd hentry hnone (hodd v List.mem_cons_self)
    -- what is stored at the entry is what stood there already
    rw [← hcode, Memory.set_get_self] at hmemory
    have hvector : Handler.vector (block (d.rung 1) : δ) = Handler.vector (block d : δ) := by
      rw [vector_block, vector_block]
      rfl
    have hd' : (b.write d.vector v).devices[k]? = some (block (d.rung 1)) := by
      rw [hdevices, List.getElem?_set_self hplace]
    obtain ⟨hsame, hcount⟩ := ih (b := b.write d.vector v) (d := d.rung 1)
      ((answering?_set hd hvector hdevices _).trans h) hd' hentry (by rwa [hmemory])
      (by rwa [hmemory]) (fun w hw => hodd w (List.mem_cons_of_mem v hw))
      (List.getElem?_eq_some_iff.mp hd').1
    refine ⟨hsame.trans hmemory, hcount.trans ?_⟩
    rw [hdevices, List.set_set, BlockDevice.rung_rung, Nat.add_comm]
    rfl

/-- **An access**: unless it is a kick that finds something announced, it changes nothing about a
block device but the number of kicks. -/
theorem access_withdrawn (hd : b.devices[k]? = some (block d)) {x : Access}
    (hnone : some true ≠ b.found k d.ring x) :
    (b.access x).devices[k]? = some (block (d.rung (b.found k d.ring x).toList.length)) := by
  cases x with
  | read a =>
    rw [access, (b.onlyPolled_read a).devices, hd]
    rfl
  | write a v =>
    have hwrite := b.getElem?_devices_write a v hd
    rw [handle_block] at hwrite
    rw [access, hwrite]
    rw [found] at hnone ⊢
    split
    · next hanswers =>
      rw [if_pos hanswers, Ring.found] at hnone
      rw [Ring.found]
      by_cases hodd : v.toNat % 2 = 1
      · rw [if_pos hodd] at hnone ⊢
        have hclear : d.ring.Withdrawn (b.memory.set a v) :=
          Nat.mod_two_ne_one.mp fun hset => hnone (congrArg some (decide_eq_true hset).symm)
        rw [Reply.map, (BlockDevice.service_withdrawn hclear hodd).2.1]
        rfl
      · rw [if_neg hodd, Reply.map,
          (d.service_of_even _ (Nat.mod_two_ne_one.mp hodd)).2.1]
        rfl
    · rfl
  | change f => exact hd

/-- **A run**: as long as no kick finds anything announced. -/
theorem accesses_withdrawn (hd : b.devices[k]? = some (block d)) {xs : List Access}
    (hnone : true ∉ b.founds k d.ring xs) :
    (b.accesses xs).devices[k]? = some (block (d.rung (b.founds k d.ring xs).length)) := by
  induction xs generalizing b d with
  | nil => exact hd
  | cons x rest ih =>
    rw [founds, List.mem_append, not_or, Option.mem_toList] at hnone
    obtain ⟨hfirst, hrest⟩ := hnone
    have hkept := ih (access_withdrawn hd fun h => hfirst h.symm) hrest
    rw [founds, List.length_append, ← BlockDevice.rung_rung]
    exact hkept

/-- **An announcement is served once.** A kick over a ring whose descriptors have their own buffers
leaves nothing announced. If it found an announcement, it counted one ending of it; if it found
none, it changed no word but the entry. Kicks that follow change no word at all, and of the device
only the number of kicks. The device goes on counting nothing but kicks through whatever is done to
the bus and to its memory, until a kick finds something announced; and at any time in between a kick
changes no word but the entry. -/
theorem served_once {b : Bus κ δ} {d : BlockDevice} {k : Nat} {v : Word}
    (h : b.answering? d.vector = some k) (hd : b.devices[k]? = some (block d))
    (hentry : ¬ d.ring.Within d.vector)
    (hbuffers : ∀ i : Slot, b.memory.get (d.ring.cell i .addr) = d.ring.buffer i.word)
    (hodd : v.toNat % 2 = 1) :
    let b₁ := b.write d.vector v
    ∃ d₁, b₁.devices = b.devices.set k (block d₁) ∧ d₁.ring = d.ring ∧ d₁.vector = d.vector ∧
      (d.ring.avail b₁.memory).flags.toNat % 2 = 0 ∧
      ((d.ring.avail b.memory).flags.toNat % 2 = 1 →
        ∃ e, d₁.stats = d.stats.kicked.count e) ∧
      ((d.ring.avail b.memory).flags.toNat % 2 = 0 →
        d₁ = d.rung 1 ∧ b₁.memory = b.memory.set d.vector 2) ∧
      (∀ vs : List Word, (∀ w ∈ vs, w.toNat % 2 = 1) →
        let b₂ := b₁.accesses (vs.map (.write d.vector))
        b₂.memory = b₁.memory ∧ b₂.devices = b₁.devices.set k (block (d₁.rung vs.length))) ∧
      ∀ xs, let b₂ := b₁.accesses xs
        let founds := b₁.founds k d.ring xs
        true ∉ founds →
        b₂.devices[k]? = some (block (d₁.rung founds.length)) ∧
        (b₂.answering? d.vector = some k → (d.ring.avail b₂.memory).flags.toNat % 2 = 0 →
          ∀ w : Word, w.toNat % 2 = 1 →
          (b₂.write d.vector w).memory = b₂.memory.set d.vector 2 ∧
            (b₂.write d.vector w).devices =
              b₂.devices.set k (block (d₁.rung (founds.length + 1)))) := by
  intro b₁
  have hplace := (List.getElem?_eq_some_iff.mp hd).1
  have hflags : d.ring.availFlags ≠ d.vector := by
    intro heq
    exact hentry (heq ▸ d.ring.inHeader_availFlags.within)
  -- the word is stored before the device looks at the ring, and stored elsewhere
  have hstored : d.ring.avail (b.memory.set d.vector v) = d.ring.avail b.memory := by
    apply Ring.avail_congr (.set hentry v) d.ring.inHeader_availFlags.within
      d.ring.inHeader_availIdx.within
  obtain ⟨-, hdevices, -⟩ := write_block_answered h hd v
  obtain ⟨hring, hvector⟩ := d.service_device (b.memory.set d.vector v) v
  obtain ⟨-, hset, -⟩ := d.service_kick (b.memory.set d.vector v) hodd
  obtain ⟨hnone, hcode⟩ := withdrawn_write h hd hentry hbuffers hodd
  refine ⟨_, hdevices, hring, hvector, hnone, fun hannounced => ?_, fun hclear => ?_, ?_⟩
  · exact hset (by rwa [hstored])
  · have hidle : d.ring.Withdrawn (b.memory.set d.vector v) := by rwa [Ring.Withdrawn, hstored]
    exact ⟨(BlockDevice.service_withdrawn hidle hodd).2.1,
      (write_withdrawn h hd hflags hclear hodd).1⟩
  -- the device has the ring and the entry that it had, and that is all that matters of it now
  rw [show b.write d.vector v = b₁ from rfl] at hdevices hnone hcode
  generalize (d.service (b.memory.set d.vector v) v).device = d₁ at hdevices hring hvector ⊢
  have hd₁ : b₁.devices[k]? = some (block d₁) := by
    rw [hdevices, List.getElem?_set_self hplace]
  have hanswers : b₁.answering? d.vector = some k := by
    refine (answering?_set hd ?_ hdevices _).trans h
    rw [vector_block, vector_block, hvector]
  clear_value b₁
  rw [← hvector] at hanswers hcode hflags ⊢
  rw [← hring] at hnone hflags ⊢
  refine ⟨fun vs hvs => kicks_withdrawn hanswers hd₁ hflags hnone hcode hvs, ?_⟩
  intro xs b₂ founds hquiet
  have hd₂ := accesses_withdrawn hd₁ hquiet
  refine ⟨hd₂, fun hanswers hclear w hw => ?_⟩
  obtain ⟨hmemory, hcount⟩ :=
    write_withdrawn (d := d₁.rung founds.length) hanswers hd₂ hflags hclear hw
  rw [BlockDevice.rung_rung] at hcount
  exact ⟨hmemory, hcount⟩

end Block

/-- A request to read is announced and served, and two more kicks find nothing to do. -/
theorem served_once_read :
    let d := BlockDevice.standard
    let bare : Bus BufferConsole Device := .ofConsole (.ofInput []) .silent
    let submit (m : Memory) : Memory :=
      let m := (m.set (d.ring.cell 0 .flags) 1).set (d.ring.buffer 0) 1
      (m.set d.ring.availIdx 0).set d.ring.availFlags 1
    let b := (bare.attachBlock d).mapMemory submit
    let b₁ := b.write d.vector 1
    let b₂ := b₁.accesses [.write d.vector 3, .write d.vector 1]
    b.answering? d.vector = some 0 ∧ b.devices[0]? = some (.block d) ∧
      ∃ d₁ e, d₁.stats = BlockStats.count { kicks := 1 } e ∧ b₁.devices = [.block d₁] ∧
        b₂.memory = b₁.memory ∧ b₂.devices = [.block (d₁.rung 2)] := by
  intro d bare submit b b₁ b₂
  -- all that matters of the bus is that it has no devices
  have hbare : bare.devices = [] := rfl
  clear_value bare
  have hdevices : b.devices = [.block d] := by
    simp [b, attachBlock, mapMemory, attach, report, hbare]
  have hanswering : b.answering? d.vector = some 0 := by
    rw [answering?, hdevices]
    rfl
  have hdevice : b.devices[0]? = some (HasBlock.block d) := by
    rw [hdevices]
    rfl
  -- the request leaves the address words as they were laid out
  have hintact : d.ring.Intact b.memory := by
    let S (a : Word) : Prop := ∃ i, a = d.ring.cell i .addr
    have hset (m : Memory) (a v : Word) (hne : ∀ i, a ≠ d.ring.cell i .addr) :
        m.SameOn S (m.set a v) :=
      .set (fun hcell => hcell.elim hne) v
    have hsubmit (m : Memory) : m.SameOn S (submit m) := by
      refine (hset m _ 1 ?_).trans ((hset _ _ 1 ?_).trans ((hset _ _ 0 ?_).trans (hset _ _ 1 ?_)))
      all_goals decide
    exact (d.ring.idle_init bare.memory).intact.congr (hsubmit _) fun i => ⟨i, rfl⟩
  have hflags : (d.ring.avail b.memory).flags = 1 := Memory.get_set_self ..
  obtain ⟨d₁, hrung, -, -, -, hset, -, hkicks, -⟩ :=
    served_once (v := 1) hanswering hdevice (by decide) hintact rfl
  obtain ⟨e, hstats⟩ := hset (by rw [hflags]; rfl)
  obtain ⟨hmemory, hcount⟩ := hkicks [3, 1] (by simp)
  rw [hdevices] at hrung
  refine ⟨hanswering, hdevice, d₁, e, hstats, hrung, hmemory, hcount.trans ?_⟩
  rw [hrung]
  rfl

end Bus

end LC3
