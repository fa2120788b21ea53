import LC3.Monitor
import LC3.Proofs.Block.Locality
import LC3.Proofs.Bus.Delivery
import LC3.Proofs.Ring.Allocation

/-!
# Submissions in any order

To submit a request is to store words into the ring, and none of these stores makes the device act.
So it does not matter in which order they are carried out, nor what is stored elsewhere in between;
a program and the driver of the host submit the same request if they store the same words.

- `Bus.stores`: stores through the bus, one after the other. Outside the interrupt window they are
  stores to the memory (`stores_eq_mapMemory`).
- `Ring.submission`: the stores that submit a request, in the order of the driver. Their addresses
  lie in the ring (`within_submission`) and are all different (`nodup_submission`).
- `Bus.kick_mapMemory`: stores outside the ring commute with the kick.
- `Bus.kick_perm`: what a kick makes of a submission does not depend on the order of its stores.
- `BlockDriver.submission_order`: so it is with a standard device, and the side that made the stores
  does not matter either.
-/

namespace LC3

namespace Bus

variable {κ δ : Type} [Handler δ]

/-! ## Stores through the bus -/

/-- The bus after stores through it, each of them an address and a value. -/
def stores (b : Bus κ δ) (xs : List (Word × Word)) : Bus κ δ :=
  xs.foldl (fun b x => b.write x.1 x.2) b

theorem stores_append (b : Bus κ δ) (xs ys : List (Word × Word)) :
    b.stores (xs ++ ys) = (b.stores xs).stores ys := List.foldl_append

theorem stores_eq_mapMemory {b : Bus κ δ} {xs : List (Word × Word)}
    (h : ∀ x ∈ xs, inInterruptWindow x.1 = false) : b.stores xs = b.mapMemory (·.stores xs) := by
  induction xs generalizing b with
  | nil => rfl
  | cons x rest ih =>
    rw [List.forall_mem_cons] at h
    show (b.write x.1 x.2).stores rest = _
    rw [ih h.2, write_of_outside b h.1]
    rfl

/-- What the driver stores word after word. -/
theorem writeAll_eq_stores (b : Bus κ δ) (a : Word) (values : List Word) :
    BlockDriver.writeAll b a values = b.stores (Memory.run a values) := by
  induction values generalizing b a with
  | nil => rfl
  | cons value rest ih => exact ih (b.write a value) (a + 1)

end Bus

namespace Ring

/-! ## The stores of a submission -/

/-- The stores that submit the request `q` with a payload through descriptor `i`. -/
def submission (r : Ring) (i : Slot) (q : Request) (payload : List Word) : List (Word × Word) :=
  (r.cell i .flags, flagSet) :: (Memory.run (r.buffer i.word) (q.header ++ payload) ++
    [(r.availFlags, flagSet), (r.availIdx, i.word)])

variable (r : Ring) (m : Memory) (i : Slot) (q : Request) {payload : List Word}

/-- The stores of a submission, one after the other, are an announcement. -/
theorem stores_submission (payload : List Word) :
    m.stores (r.submission i q payload) = r.announce m i q payload := by
  rw [submission, Memory.stores_cons, Memory.run_append, List.append_assoc, Memory.stores_append,
    Memory.stores_append, Memory.stores_run, Memory.stores_run]
  rfl

/-- Where the stores of a submission lie in the ring. -/
theorem place_submission (hpayload : payload.length ≤ maxPayload) :
    ((r.submission i q payload).map Prod.fst).map r.place =
      (3 + 4 * i.val) ::
        ((List.range (3 + payload.length)).map (fun k => 45 + 32 * i.val + k) ++ [41, 42]) := by
  have hlen : payload.length ≤ 29 := hpayload
  have hflags : r.place (r.cell i .flags) = 3 + 4 * i.val := by
    rw [place_cell]
    show 1 + 4 * i.val + 2 = _
    omega
  have hbuffer : ((Memory.run (r.buffer i.word) (q.header ++ payload)).map Prod.fst).map r.place =
      (List.range (3 + payload.length)).map (fun k => 45 + 32 * i.val + k) := by
    have hlength : (q.header ++ payload).length = 3 + payload.length := List.length_append
    rw [Memory.map_fst_run, List.map_map, hlength]
    apply List.map_congr_left
    intro k hk
    have hword : (UInt16.ofNat k).toNat = k := by
      rw [List.mem_range] at hk
      rw [UInt16.toNat_ofNat']
      omega
    rw [Function.comp_apply, r.place_buffer_add i, hword]
    rw [List.mem_range] at hk
    omega
  rw [submission, List.map_cons, List.map_cons, List.map_append, List.map_append, hflags, hbuffer]
  simp

/-- A submission stores within the ring. -/
theorem within_submission (hpayload : payload.length ≤ maxPayload) :
    ∀ x ∈ r.submission i q payload, r.Within x.1 := by
  intro x hx
  have hi := Slot.val_lt_ten i
  have hlen : payload.length ≤ 29 := hpayload
  have hplace := List.mem_map_of_mem (f := r.place) (List.mem_map_of_mem (f := Prod.fst) hx)
  rw [r.place_submission i q hpayload] at hplace
  simp only [List.mem_cons, List.mem_append, List.mem_map, List.mem_range, List.not_mem_nil,
    or_false] at hplace
  show r.place x.1 < 365
  obtain hflags | ⟨k, hk, hword⟩ | hnotice | hnotice := hplace
  all_goals omega

/-- A submission leaves every descriptor its buffer. -/
theorem intact_submission {m : Memory} (h : r.Intact m) (hpayload : payload.length ≤ maxPayload) :
    r.Intact (m.stores (r.submission i q payload)) := by
  intro j
  rw [stores_submission, descriptor_announce hpayload]
  split
  · next hj => rw [hj]; exact h i
  · exact h j

/-- A submission stores to no word twice. -/
theorem nodup_submission (hpayload : payload.length ≤ maxPayload) :
    ((r.submission i q payload).map Prod.fst).Nodup := by
  have hi := Slot.val_lt_ten i
  apply List.Nodup.of_map r.place
  rw [r.place_submission i q hpayload]
  -- the buffers lie behind the header, and the descriptors ahead of the notices
  have hrun : ((List.range (3 + payload.length)).map fun k => 45 + 32 * i.val + k).Nodup :=
    List.nodup_range.map fun _ _ h => Nat.add_left_cancel h
  refine List.nodup_cons.mpr ⟨?_, List.nodup_append.mpr ⟨hrun, by decide, ?_⟩⟩
  · simp only [List.mem_append, List.mem_map, List.mem_range, List.mem_cons, List.not_mem_nil,
      or_false]
    omega
  · simp only [List.mem_map, List.mem_range, List.mem_cons, List.not_mem_nil, or_false]
    omega

end Ring

namespace BlockDriver

variable {κ δ : Type} [Console κ] [Handler δ] {driver : BlockDriver} {b : Bus κ δ}

/-! ## The side of the driver -/

/-- The driver carries out the stores of a submission and nothing else. -/
theorem submit_eq_stores {i : Slot} (hfind : driver.ring.findFree? b.memory = some i)
    (haddr : b.memory.get (driver.ring.cell i .addr) = driver.ring.buffer i.word)
    (hstatus : ¬ driver.ring.Within keyboardStatus) (q : Request) (payload : List Word) :
    driver.submit b q payload = (.ok i, b.stores (driver.ring.submission i q payload)) := by
  have hne : driver.ring.cell i .addr ≠ keyboardStatus := by
    intro heq
    exact hstatus (heq ▸ (driver.ring.inHeader_cell i .addr).within)
  have hload := b.read_of_ne hne
  rw [haddr] at hload
  rw [submit, hfind]
  simp only [hload, Bus.writeAll_eq_stores]
  rw [Ring.submission, Memory.run_append, List.append_assoc, ← List.singleton_append,
    Bus.stores_append, Bus.stores_append, Bus.stores_append]
  rfl

omit [Handler δ] in
/-- Waiting for the completion code changes nothing on the bus. -/
theorem awaitCompletion_snd (h : driver.doorbell ≠ keyboardStatus) (polls : Nat) :
    (driver.awaitCompletion b polls).2 = b := by
  induction polls with
  | zero => rfl
  | succ polls ih =>
    simp only [awaitCompletion, b.read_of_ne h]
    split
    · rfl
    · exact ih

theorem kickAndWait_snd (h : driver.doorbell ≠ keyboardStatus) :
    (driver.kickAndWait b).2 = b.write driver.doorbell BlockDevice.kick := by
  simp only [kickAndWait]
  exact awaitCompletion_snd h _

end BlockDriver

namespace Bus

open HasBlock (block vector_block handle_block)

variable {κ δ : Type} [Handler δ] [HasBlock δ] {b : Bus κ δ} {k : Nat} {d : BlockDevice}

/-! ## The kick -/

/-- Stores outside the ring commute with the kick. -/
theorem kick_mapMemory (h : b.answering? d.vector = some k) (hd : b.devices[k]? = some (block d))
    (hintact : d.ring.Intact b.memory) (hentry : ¬ d.ring.Within d.vector)
    {xs : List (Word × Word)} (hring : ∀ x ∈ xs, ¬ d.ring.Within x.1)
    (hne : ∀ x ∈ xs, x.1 ≠ d.vector) (v : Word) :
    (b.mapMemory (·.stores xs)).write d.vector v =
      (b.write d.vector v).mapMemory (·.stores xs) := by
  obtain ⟨hwindow, hfind⟩ := Option.ite_none_right_eq_some.mp h
  have howner := owner?_of_findIdx? hfind hd
  have hstored : d.ring.Intact (b.memory.set d.vector v) :=
    hintact.congr (Ring.sameOn_set hentry v) fun i => (d.ring.inHeader_cell i .addr).within
  -- the word at the entry is stored last, and the device is given the same word
  have hlast : (b.memory.stores xs).set d.vector v = (b.memory.set d.vector v).stores xs :=
    (Memory.stores_set hne v).symm
  have hflags : ((b.memory.set d.vector v).stores xs).get d.vector = v := by
    rw [Memory.get_stores_other hne, Memory.get_set_self]
  simp only [write, if_pos hwindow, dispatch, report, mapMemory, howner, hlast, hflags,
    Memory.get_set_self, handle_block, BlockDevice.service_stores hstored hring, Reply.map]
  cases (d.service (b.memory.set d.vector v) v).outcome with
  | ignored => rfl
  | serviced =>
    simp only [Memory.stores_set hne]

/-- **A submission in any order**, on a ring that lies clear of the interrupt window: none of its
stores makes the device act, nor do other stores that are clear of both, and the kick leaves what it
leaves on the submission alone, with the other stores on top. -/
theorem kick_perm (h : b.answering? d.vector = some k) (hd : b.devices[k]? = some (block d))
    (hintact : d.ring.Intact b.memory)
    (hclear : ∀ a, d.ring.Within a → inInterruptWindow a = false) (i : Slot) (q : Request)
    {payload : List Word} (hpayload : payload.length ≤ maxPayload) {others xs : List (Word × Word)}
    (hothers : (others.map Prod.fst).Nodup)
    (hout : ∀ x ∈ others, ¬ d.ring.Within x.1 ∧ inInterruptWindow x.1 = false)
    (hperm : xs.Perm (d.ring.submission i q payload ++ others)) (v : Word) :
    b.stores xs = b.mapMemory (·.stores xs) ∧
      (b.stores xs).write d.vector v =
        ((b.stores (d.ring.submission i q payload)).write d.vector v).mapMemory
          (·.stores others) := by
  obtain ⟨hentry, -⟩ := Option.ite_none_right_eq_some.mp h
  have hin : ∀ x ∈ d.ring.submission i q payload, d.ring.Within x.1 :=
    d.ring.within_submission i q hpayload
  have hquiet (ys : List (Word × Word))
      (hys : ∀ y ∈ ys, y ∈ d.ring.submission i q payload ++ others) :
      b.stores ys = b.mapMemory (·.stores ys) := by
    refine stores_eq_mapMemory fun y hy => ?_
    rcases List.mem_append.mp (hys y hy) with hsubmitted | hother
    · exact hclear _ (hin y hsubmitted)
    · exact (hout y hother).2
  have hall := hquiet xs fun y hy => hperm.mem_iff.mp hy
  have hsubmitted := hquiet _ fun y hy => List.mem_append_left _ hy
  refine ⟨hall, ?_⟩
  have hnodup : ((d.ring.submission i q payload ++ others).map Prod.fst).Nodup := by
    rw [List.map_append, List.nodup_append]
    refine ⟨d.ring.nodup_submission i q hpayload, hothers, ?_⟩
    simp only [List.mem_map]
    rintro _ ⟨x, hx, rfl⟩ _ ⟨y, hy, rfl⟩ heq
    exact (hout y hy).1 (heq ▸ hin x hx)
  have hbus : b.stores xs =
      (b.stores (d.ring.submission i q payload)).mapMemory (·.stores others) := by
    rw [hall, hsubmitted]
    simp only [mapMemory]
    rw [Memory.stores_perm hperm ((hperm.map Prod.fst).nodup_iff.mpr hnodup), Memory.stores_append]
  rw [hbus]
  -- the device finds the submission on a ring whose descriptors still have their own buffers
  refine kick_mapMemory (k := k) ?_ ?_ ?_ ?_ (fun x hx => (hout x hx).1) ?_ v
  · rw [hsubmitted]
    exact (answering?_congr rfl _).trans h
  · rw [hsubmitted]
    exact hd
  · have hkept := d.ring.intact_submission i q hintact hpayload
    rw [hsubmitted]
    exact hkept
  · intro hwithin
    rw [hclear _ hwithin] at hentry
    cases hentry
  · intro x hx heq
    have hwindow := (hout x hx).2
    rw [heq, hentry] at hwindow
    cases hwindow

end Bus

namespace BlockDriver

open HasBlock (block)

variable {κ δ : Type} [Console κ] [Handler δ] [HasBlock δ]

/-- **Submissions in any order**: the descriptors of a standard device have their own buffers, and
a request is submitted through any one of them. In whatever order its stores are carried out, and
whatever is stored meanwhile outside the ring and the interrupt window, the device does not act
before the kick; and then the kick leaves what it leaves on the submission alone, with the other
stores on top. The driver's own submission and kick, through the free descriptor of least index,
leave the same. -/
theorem submission_order {b : Bus κ δ} {k : Nat} {d : BlockDevice} (hring : d.ring = .standard)
    (hvector : d.vector = defaultDoorbell) (hd : b.devices[k]? = some (block d))
    (hanswers : b.answering? d.vector = some k)
    (hbuffers : ∀ j : Slot, b.memory.get (d.ring.cell j .addr) = d.ring.buffer j.word) (i : Slot)
    (q : Request) {payload : List Word} (hpayload : payload.length ≤ 29) :
    let submission := d.ring.submission i q payload
    let kicked (xs : List (Word × Word)) := (b.stores xs).write d.vector 1
    (∀ others : List (Word × Word), (others.map Prod.fst).Nodup →
      (∀ x ∈ others, ¬ d.ring.Within x.1 ∧ inInterruptWindow x.1 = false) →
      ∀ xs, xs.Perm (submission ++ others) →
        b.stores xs = b.mapMemory (·.stores xs) ∧
        kicked xs = (kicked submission).mapMemory (·.stores others)) ∧
    (b.memory.get (d.ring.cell i .flags) = 0 →
      (∀ j < i, b.memory.get (d.ring.cell j .flags) ≠ 0) → ∀ limit,
        let driver := BlockDriver.standard limit
        (driver.submit b q payload).1 = .ok i ∧
          (driver.kickAndWait (driver.submit b q payload).2).2 = kicked submission) := by
  intro submission kicked
  constructor
  · intro others hothers hout xs hperm
    have hclear (a : Word) (ha : d.ring.Within a) : inInterruptWindow a = false := by
      rw [hring] at ha
      exact Ring.outside_window_of_standard ha
    exact Bus.kick_perm hanswers hd hbuffers hclear i q hpayload hothers hout hperm 1
  · intro hfree hbelow limit driver
    have hdriver : driver.ring = d.ring := hring.symm
    have hdoorbell : driver.doorbell = d.vector := hvector.symm
    have hne : driver.doorbell ≠ keyboardStatus := by
      rw [hdoorbell, hvector]
      decide
    have hstatus : ¬ driver.ring.Within keyboardStatus := by
      show ¬ Ring.standard.Within keyboardStatus
      decide
    have hfind : driver.ring.findFree? b.memory = some i := by
      rw [hdriver]
      apply d.ring.findFree?_of_lowest
      · exact bne_eq_false_iff_eq.mpr hfree
      · exact fun j hj => bne_iff_ne.mpr (hbelow j hj)
    have hsubmit := submit_eq_stores hfind (by rw [hdriver]; exact hbuffers i) hstatus q payload
    rw [hdriver] at hsubmit
    have hkick : (driver.kickAndWait (b.stores (d.ring.submission i q payload))).2 =
        kicked submission := by
      rw [kickAndWait_snd hne, hdoorbell]
      rfl
    simp only [hsubmit]
    exact ⟨trivial, hkick⟩

/-- A write of two words through a fresh ring, last store first and with two stores elsewhere. -/
theorem submission_order_reversed :
    let d := BlockDevice.standard
    let b : Bus BufferConsole Device := (Bus.ofConsole (.ofInput []) .silent).attachBlock d
    let q : Request := ⟨.write, -7, 2⟩
    let submission := d.ring.submission 0 q [8, 9]
    let others : List (Word × Word) := [(0x3000, 0x1234), (0xFE00, 5)]
    let driver := BlockDriver.standard 1
    ((b.stores (submission ++ others).reverse).write d.vector 1) =
        ((b.stores submission).write d.vector 1).mapMemory (·.stores others) ∧
      (driver.kickAndWait (driver.submit b q [8, 9]).2).2 =
        (b.stores submission).write d.vector 1 := by
  intro d b
  -- all that matters of the bus is its device and that the ring is fresh
  have hdevice : b.devices[0]? = some (block d) := rfl
  have hanswers : b.answering? d.vector = some 0 := rfl
  have hidle : d.ring.Idle b.memory := d.ring.idle_init .zero
  clear_value b
  intro q submission others driver
  obtain ⟨horder, hdriver⟩ := submission_order rfl rfl hdevice hanswers hidle.intact 0 q
    (by decide : ([8, 9] : List Word).length ≤ 29)
  have hfree : b.memory.get (d.ring.cell 0 .flags) = 0 :=
    congrArg Descriptor.flags (hidle.fresh 0)
  have hnone : ∀ j < (0 : Slot), b.memory.get (d.ring.cell j .flags) ≠ 0 :=
    fun j hj => absurd hj (Nat.not_lt_zero j.val)
  have hout : ∀ x ∈ others, ¬ d.ring.Within x.1 ∧ inInterruptWindow x.1 = false := by
    intro x hx
    obtain rfl | rfl : x = (0x3000, 0x1234) ∨ x = (0xFE00, 5) := by
      simpa only [others, List.mem_pair] using hx
    · decide
    · decide
  exact ⟨(horder others (by decide) hout _ (List.reverse_perm _)).2, (hdriver hfree hnone 1).2⟩

end BlockDriver

end LC3
