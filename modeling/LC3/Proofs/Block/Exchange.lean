import LC3.Proofs.Block.Service

/-!
# One exchange over a ring

An exchange takes an idle ring through two states: the driver has announced a request, and the
device has answered it. A request to take words needs no answer, and the ring is idle as soon
as the device has served it. Only one descriptor is ever in use, so it is enough to follow that
one.

- `Ring.Announces`: descriptor `i` is announced with a given request and payload. This is
  what the driver's stores make of an idle ring (`announces_of_idle`).
- `Ring.Answers`: descriptor `i` is answered with given words.
- `answers_service`, `idle_service`: what a kick makes of an announcement.
- `idle_of_answers`: what the driver's acknowledgement makes of an answer.
-/

namespace LC3

namespace Ring

/-- Descriptor `i` is in use; otherwise the descriptors are as they were laid out. -/
def Lends (r : Ring) (m : Memory) (i : Slot) : Prop :=
  ∀ j, r.descriptor m j =
    if j = i then { r.freshDescriptor i with flags := flagSet } else r.freshDescriptor j

/-- Descriptor `i` is announced; its buffer holds the request `q` with the payload `data`. -/
structure Announces (r : Ring) (m : Memory) (i : Slot) (q : Request) (data : List Word) :
    Prop where
  /-- No other descriptor is in use. -/
  lends : r.Lends m i
  /-- The driver announces the descriptor. -/
  avail : r.avail m = ⟨flagSet, i.word⟩
  /-- The device answers nothing. -/
  used : (r.used m).flags = 0
  /-- The buffer begins with the request. -/
  request : Request.load m (r.buffer i.word) = q
  /-- The payload follows. -/
  payload : m.readSlice (Request.payload (r.buffer i.word)) data.length = data

/-- Descriptor `i` is answered; the payload in its buffer is `data`. -/
structure Answers (r : Ring) (m : Memory) (i : Slot) (data : List Word) : Prop where
  /-- No other descriptor is in use. -/
  lends : r.Lends m i
  /-- The driver announces nothing. -/
  avail : (r.avail m).flags = 0
  /-- The device answers with the descriptor. -/
  used : r.used m = ⟨flagSet, i.word⟩
  /-- The buffer holds the words that were asked for. -/
  payload : m.readSlice (Request.payload (r.buffer i.word)) data.length = data

variable {r : Ring} {m n : Memory} {i : Slot} {q : Request} {data : List Word}

/-! ## Frames -/

/-- The words of buffer `i` belong to the ring but not to its header. -/
theorem buffer_add_within {w : Word} (h : w.toNat < 32) :
    r.Within (r.buffer i.word + w) ∧ ¬ r.InHeader (r.buffer i.word + w) := by
  have hi := Slot.val_lt_ten i
  have hplace := r.place_buffer_add i h
  constructor
  · show r.place _ < 365
    omega
  · show ¬ r.place _ < 45
    omega

/-- The payload follows the three words of the header. -/
theorem place_payload {k : Nat} (h : k < maxPayload) :
    r.place (Request.payload (r.buffer i.word) + UInt16.ofNat k) = 48 + 32 * i.val + k := by
  have hk : (3 + UInt16.ofNat k : Word).toNat = 3 + k := by
    have hlt : k < 29 := h
    simp only [UInt16.toNat_add, UInt16.toNat_ofNat', UInt16.reduceToNat]
    omega
  have hlt : k < 29 := h
  rw [Request.payload, UInt16.add_assoc, r.place_buffer_add i (by omega)]
  omega

theorem payload_add_within {k : Nat} (h : k < maxPayload) :
    r.Within (Request.payload (r.buffer i.word) + UInt16.ofNat k) ∧
      ¬ r.InHeader (Request.payload (r.buffer i.word) + UInt16.ofNat k) := by
  have hi := Slot.val_lt_ten i
  have hlt : k < 29 := h
  have hplace := place_payload (r := r) (i := i) h
  constructor
  · show r.place _ < 365
    omega
  · show ¬ r.place _ < 45
    omega

/-- A payload reads the same in memories that agree behind the header. -/
theorem payload_congr {S : Word → Prop} {count : Nat} (h : m.SameOn S n)
    (hS : ∀ a, r.Within a → ¬ r.InHeader a → S a) (hcount : count ≤ maxPayload) :
    n.readSlice (Request.payload (r.buffer i.word)) count =
      m.readSlice (Request.payload (r.buffer i.word)) count := by
  apply h.readSlice_eq
  intro k hk
  obtain ⟨hin, hout⟩ := payload_add_within (Nat.lt_of_lt_of_le hk hcount)
  exact hS _ hin hout

/-- A request reads the same in memories that agree behind the header. -/
theorem request_congr {S : Word → Prop} (h : m.SameOn S n)
    (hS : ∀ a, r.Within a → ¬ r.InHeader a → S a) :
    Request.load n (r.buffer i.word) = Request.load m (r.buffer i.word) := by
  have hword : ∀ w : Word, w.toNat < 32 → S (r.buffer i.word + w) := fun w hw =>
    hS _ (buffer_add_within hw).1 (buffer_add_within hw).2
  exact Request.load_congr h (by simpa using hword 0 (by decide)) (hword 1 (by decide))
    (hword 2 (by decide))

theorem Lends.congr (h : r.Lends m i) (hs : m.SameOn r.InHeader n) : r.Lends n i :=
  fun j => (descriptor_congr hs (r.inHeader_cell j)).trans (h j)

/-- Once the descriptor in use is freed, all of them are as they were laid out. -/
theorem Lends.freed (h : r.Lends m i) (j : Slot) :
    r.descriptor (r.setFlags m i 0) j = r.freshDescriptor j := by
  rw [descriptor_setFlags]
  by_cases hj : j = i
  · subst hj
    rw [if_pos rfl, h, if_pos rfl]
    rfl
  · rw [if_neg hj, h, if_neg hj]

/-- Whether a request is announced depends on the words of the ring alone. -/
theorem Announces.congr (h : r.Announces m i q data) (hdata : data.length ≤ maxPayload)
    (hs : m.SameOn r.Within n) : r.Announces n i q data where
  lends := h.lends.congr (hs.mono fun _ ha => ha.within)
  avail := by
    rw [avail_congr hs r.inHeader_availFlags.within r.inHeader_availIdx.within, h.avail]
  used := by rw [used_congr hs r.inHeader_usedFlags.within r.inHeader_usedIdx.within, h.used]
  request := by rw [request_congr hs (fun _ hin _ => hin), h.request]
  payload := by rw [payload_congr hs (fun _ hin _ => hin) hdata, h.payload]

/-- Whether a request is answered depends on the words of the ring alone. -/
theorem Answers.congr (h : r.Answers m i data) (hdata : data.length ≤ maxPayload)
    (hs : m.SameOn r.Within n) : r.Answers n i data where
  lends := h.lends.congr (hs.mono fun _ ha => ha.within)
  avail := by
    rw [avail_congr hs r.inHeader_availFlags.within r.inHeader_availIdx.within, h.avail]
  used := by rw [used_congr hs r.inHeader_usedFlags.within r.inHeader_usedIdx.within, h.used]
  payload := by rw [payload_congr hs (fun _ hin _ => hin) hdata, h.payload]

/-! ## The announcement -/

/-- A request header stored in buffer `i` fills its first three words. -/
theorem sameOn_store (r : Ring) (m : Memory) (i : Slot) (q : Request) :
    m.SameOn (fun x => ¬ (45 + 32 * i.val ≤ r.place x ∧ r.place x < 48 + 32 * i.val))
      (q.store m (r.buffer i.word)) := by
  have h := sameOn_writeSlice_buffer (r := r) (m := m) i 0 q.header (by simp [Request.header])
  rw [UInt16.add_zero] at h
  refine h.mono fun x hx => ?_
  simp only [Request.header, List.length_cons, List.length_nil, UInt16.reduceToNat]
  omega

/-- A payload stored in buffer `i` fills no more than the rest of the buffer. -/
theorem sameOn_payload (r : Ring) (m : Memory) (i : Slot) (data : List Word)
    (hdata : data.length ≤ maxPayload) :
    m.SameOn (fun x => ¬ (48 + 32 * i.val ≤ r.place x ∧ r.place x < 77 + 32 * i.val))
      (m.writeSlice (Request.payload (r.buffer i.word)) data) := by
  have hlen : data.length ≤ 29 := hdata
  have h := sameOn_writeSlice_buffer (r := r) (m := m) i 3 data
    (by simp only [UInt16.reduceToNat]; omega)
  refine h.mono fun x hx => ?_
  simp only [UInt16.reduceToNat]
  omega

/-- A request and its payload, stored in a buffer, lie in the ring but behind its header. -/
theorem sameOn_filled (r : Ring) (m : Memory) (i : Slot) (q : Request) {data : List Word}
    (hdata : data.length ≤ maxPayload) :
    m.SameOn (fun a => r.InHeader a ∨ ¬ r.Within a)
      ((q.store m (r.buffer i.word)).writeSlice (Request.payload (r.buffer i.word)) data) := by
  have hi := Slot.val_lt_ten i
  have hbehind : ∀ a, r.InHeader a ∨ ¬ r.Within a →
      ¬ (45 + 32 * i.val ≤ r.place a ∧ r.place a < 77 + 32 * i.val) := by
    intro a ha
    have hplace : r.place a < 45 ∨ ¬ r.place a < 365 := ha
    omega
  have hstore := (sameOn_store r m i q).mono fun a ha hin => hbehind a ha ⟨hin.1, by omega⟩
  have hpayload := (sameOn_payload r (q.store m (r.buffer i.word)) i data hdata).mono
    fun a ha hin => hbehind a ha ⟨by omega, hin.2⟩
  exact hstore.trans hpayload

/-- The memory after a request and its payload are put into the buffer of descriptor `i` and
announced. -/
def announce (r : Ring) (m : Memory) (i : Slot) (q : Request) (data : List Word) : Memory :=
  let filled := (q.store (r.setFlags m i flagSet) (r.buffer i.word)).writeSlice
    (Request.payload (r.buffer i.word)) data
  r.setAvail filled ⟨flagSet, i.word⟩

/-- An announcement changes no word outside the ring. -/
theorem sameOn_announce (hdata : data.length ≤ maxPayload) :
    m.SameOn (fun a => ¬ r.Within a) (r.announce m i q data) := by
  have hflags : m.SameOn (fun a => ¬ r.Within a) (r.setFlags m i flagSet) :=
    sameOn_setFlags (fun h => h (r.inHeader_cell i _).within) flagSet
  have hfilled := (sameOn_filled r (r.setFlags m i flagSet) i q hdata).mono fun _ => Or.inr
  refine (hflags.trans hfilled).trans ?_
  exact sameOn_setAvail (fun h => h r.inHeader_availFlags.within)
    (fun h => h r.inHeader_availIdx.within) _

/-- An announcement takes its descriptor into use and leaves the descriptors otherwise. -/
theorem descriptor_announce (hdata : data.length ≤ maxPayload) (j : Slot) :
    r.descriptor (r.announce m i q data) j =
      if j = i then { r.descriptor m i with flags := flagSet } else r.descriptor m j := by
  -- what lies in the buffer does not reach back into the header
  have hheader := (sameOn_filled r (r.setFlags m i flagSet) i q hdata).mono fun _ => Or.inl
  rw [announce, descriptor_setAvail, descriptor_congr hheader (r.inHeader_cell j),
    descriptor_setFlags]

/-- The answer of the device outlasts an announcement. -/
theorem used_announce (hdata : data.length ≤ maxPayload) :
    r.used (r.announce m i q data) = r.used m := by
  have hheader := (sameOn_filled r (r.setFlags m i flagSet) i q hdata).mono fun _ => Or.inl
  rw [announce, used_setAvail, used_congr hheader r.inHeader_usedFlags r.inHeader_usedIdx,
    used_setFlags]

/-- What the driver announces itself happens in the header. -/
theorem sameOn_notice (m : Memory) (i : Slot) :
    m.SameOn (fun a => ¬ r.InHeader a) (r.setAvail m ⟨flagSet, i.word⟩) :=
  sameOn_setAvail (fun h => h r.inHeader_availFlags) (fun h => h r.inHeader_availIdx) _

/-- The request that is announced lies in the buffer. -/
theorem request_announce (hop : Operation.ofWord q.op.toWord = q.op)
    (hdata : data.length ≤ maxPayload) :
    Request.load (r.announce m i q data) (r.buffer i.word) = q := by
  -- the payload begins behind the header of the request
  have hword : ∀ w : Word, w.toNat < 3 → ¬ (48 + 32 * i.val ≤ r.place (r.buffer i.word + w) ∧
      r.place (r.buffer i.word + w) < 77 + 32 * i.val) := by
    intro w hw
    rw [r.place_buffer_add i (by omega)]
    omega
  have hload : Request.load _ (r.buffer i.word) = Request.load _ (r.buffer i.word) :=
    Request.load_congr
      (sameOn_payload r (q.store (r.setFlags m i flagSet) (r.buffer i.word)) i data hdata)
      (by simp) (hword 1 (by decide)) (hword 2 (by decide))
  rw [announce, request_congr (sameOn_notice _ i) (fun _ _ hout => hout), hload,
    Request.load_store q _ _ hop]

/-- The driver's stores turn an idle ring into one with an announcement. -/
theorem announces_of_idle (h : r.Idle m) (hop : Operation.ofWord q.op.toWord = q.op)
    (hdata : data.length ≤ maxPayload) : r.Announces (r.announce m i q data) i q data := by
  have hlen : data.length ≤ 29 := hdata
  refine ⟨?_, avail_setAvail .., ?_, request_announce hop hdata, ?_⟩
  · intro j
    rw [descriptor_announce hdata]
    simp only [h.fresh]
  · rw [used_announce hdata, h.used]
  · rw [announce, payload_congr (sameOn_notice _ i) (fun _ _ hout => hout) hdata]
    exact Memory.readSlice_writeSlice _ _ _ (by omega)

/-! ## The answer -/

/-- What the device answers with happens in the header. -/
theorem sameOn_answered (r : Ring) (m : Memory) (i : Slot) (u : Notice) (v : Word) :
    m.SameOn (fun a => ¬ r.InHeader a) (r.setFlags (r.setUsed m u) i v) :=
  (sameOn_setUsed (fun h => h r.inHeader_usedFlags) (fun h => h r.inHeader_usedIdx) u).trans
    (sameOn_setFlags (fun h => h (r.inHeader_cell i _)) v)

/-! ## The acknowledgement -/

/-- The memory after the driver has taken note of an answer and freed the descriptor. -/
def acknowledge (r : Ring) (m : Memory) (i : Slot) : Memory :=
  r.setFlags (m.set r.usedFlags 0) i 0

theorem sameOn_acknowledge : m.SameOn (fun a => ¬ r.InHeader a) (r.acknowledge m i) :=
  .trans (.set (fun h => h r.inHeader_usedFlags) _) (.set (fun h => h (r.inHeader_cell i _)) _)

/-- An acknowledged answer leaves an idle ring. -/
theorem idle_of_answers (h : r.Answers m i data) : r.Idle (r.acknowledge m i) := by
  -- to clear the flags of the answer is as good as to store all of it
  have huse : m.set r.usedFlags 0 = r.setUsed m ⟨0, (r.used m).idx⟩ := (setUsed_flags r m 0).symm
  have hlends : r.Lends (r.setUsed m ⟨0, (r.used m).idx⟩) i := fun j =>
    (descriptor_setUsed ..).trans (h.lends j)
  rw [acknowledge, huse]
  refine ⟨hlends.freed, ?_, ?_⟩
  · rw [avail_setFlags, avail_setUsed, h.avail]
  · rw [used_setFlags, used_setUsed]

end Ring

namespace BlockDevice

variable {d : BlockDevice} {m : Memory} {i : Slot} {q : Request} {data : List Word}
  {flags : Word}

/-! ## The kick -/

theorem kick_and_kick : kick &&& kick ≠ 0 := by decide

/-- What the device does before it looks at a request happens in the header. -/
theorem sameOn_freed (r : Ring) (m : Memory) (i : Slot) (a : Notice) :
    m.SameOn (fun x => ¬ r.InHeader x) (r.setFlags (r.setAvail m a) i 0) :=
  (Ring.sameOn_setAvail (fun h => h r.inHeader_availFlags) (fun h => h r.inHeader_availIdx) a).trans
    (Ring.sameOn_setFlags (fun h => h (r.inHeader_cell i _)) 0)

/-- The device finds the request that was announced. -/
theorem requestAt_of_announces (h : d.ring.Announces m i q data) :
    d.requestAt (d.ring.setAvail m ⟨0, i.word⟩) i = q := by
  rw [requestAt, Ring.descriptor_setAvail, h.lends, if_pos rfl]
  show Request.load _ (d.ring.buffer i.word) = q
  rw [Ring.request_congr (sameOn_freed d.ring m i _) (fun _ _ hout => hout), h.request]

/-- A buffer of full size serves every request that asks for no more than it holds. -/
theorem servedLength_fresh (r : Ring) (hlen : q.length.toNat ≤ maxPayload) :
    servedLength q (r.freshDescriptor i).len = q.length.toNat := by
  have h : q.length.toNat ≤ 29 := hlen
  show min (min q.length.toNat 29) ((32 : Word).toNat - 3) = _
  simp only [UInt16.reduceToNat]
  omega

/-- A kick on an announcement serves the announced request, to its full length, on a ring whose
descriptor has been freed. -/
theorem service_of_announces (h : d.ring.Announces m i q data) (hkick : flags &&& kick ≠ 0)
    (hlen : q.length.toNat ≤ maxPayload) :
    let rung := { d with stats.kicks := d.stats.kicks + 1 }
    let freed := d.ring.setFlags (d.ring.setAvail m ⟨0, i.word⟩) i 0
    let served := match q.op with
      | .read => rung.fill freed i (d.ring.buffer i.word) q q.length.toNat
      | .write => rung.take freed (d.ring.buffer i.word) q q.length.toNat
      | .other code =>
        { device := { rung with stats.unsupported := rung.stats.unsupported + 1 }
          memory := freed
          events := [.unsupportedOperation code] }
    (d.service m flags).memory = served.memory ∧ (d.service m flags).device = served.device ∧
      (d.service m flags).outcome = .serviced := by
  intro rung freed served
  have hset : (d.ring.avail m).flags &&& flagSet ≠ 0 := by
    rw [h.avail]
    exact (by decide : flagSet &&& flagSet ≠ 0)
  have hidx : (d.ring.avail m).idx = i.word := by rw [h.avail]
  have hlent : d.ring.descriptor m i = { d.ring.freshDescriptor i with flags := flagSet } := by
    rw [h.lends, if_pos rfl]
  have hflags : (d.ring.descriptor m i).flags ≠ 0 := by
    rw [hlent]
    exact (by decide : flagSet ≠ 0)
  have hdescriptor : rung.ring.descriptor (d.ring.setAvail m ⟨0, i.word⟩) i =
      { d.ring.freshDescriptor i with flags := flagSet } :=
    (Ring.descriptor_setAvail ..).trans hlent
  have hq : rung.requestAt (d.ring.setAvail m ⟨0, i.word⟩) i = q := requestAt_of_announces h
  have hserved := rung.serveAllocated_eq (d.ring.setAvail m ⟨0, i.word⟩) i
  simp only [hq, hdescriptor, servedLength_fresh d.ring hlen] at hserved
  obtain ⟨hmemory, hdevice, houtcome⟩ := d.service_allocated m hkick hset hidx hflags
  exact ⟨hmemory.trans hserved.1, hdevice.trans hserved.2, houtcome⟩

/-- The device frees a descriptor before it looks at the request, and by then the ring is idle
again. -/
theorem idle_freed (h : d.ring.Announces m i q data) :
    d.ring.Idle (d.ring.setFlags (d.ring.setAvail m ⟨0, i.word⟩) i 0) := by
  have hlends : d.ring.Lends (d.ring.setAvail m ⟨0, i.word⟩) i := fun j =>
    (Ring.descriptor_setAvail ..).trans (h.lends j)
  -- the announcement has been taken back before that
  refine ⟨hlends.freed, ?_, ?_⟩
  · rw [Ring.avail_setFlags, Ring.avail_setAvail]
  · rw [Ring.used_setFlags, Ring.used_setAvail, h.used]

/-- The operation code of a request lies in the buffer. -/
theorem sameOn_clear (d : BlockDevice) (m : Memory) (i : Slot) :
    m.SameOn (fun x => d.ring.place x ≠ 45 + 32 * i.val)
      (Request.clear m (d.ring.buffer i.word)) :=
  .set (fun h => h (d.ring.place_buffer i)) 0

theorem sameOn_clear_inHeader (d : BlockDevice) (m : Memory) (i : Slot) :
    m.SameOn d.ring.InHeader (Request.clear m (d.ring.buffer i.word)) := by
  refine (d.sameOn_clear m i).mono fun a ha => ?_
  have hplace : d.ring.place a < 45 := ha
  omega

/-- A request filled on an idle ring is answered. -/
theorem answers_fill (h : d.ring.Idle m) {count : Nat} (hcount : count ≤ maxPayload) :
    d.ring.Answers (d.fill m i (d.ring.buffer i.word) q count).memory i
      (contents q.position count) := by
  have hlen : count ≤ 29 := hcount
  have hheader : m.SameOn d.ring.InHeader
      ((Request.clear m (d.ring.buffer i.word)).writeSlice
        (Request.payload (d.ring.buffer i.word)) (contents q.position count)) := by
    have hpayload := d.ring.sameOn_payload (Request.clear m (d.ring.buffer i.word)) i
      (contents q.position count) (by simpa using hcount)
    refine (d.sameOn_clear_inHeader m i).trans (hpayload.mono fun a ha => ?_)
    have hplace : d.ring.place a < 45 := ha
    omega
  -- what the header says besides comes from the idle ring
  have hidle := h.congr hheader
  refine ⟨?_, ?_, ?_, ?_⟩
  · intro j
    rw [fill, Ring.descriptor_setFlags, Ring.descriptor_setUsed, Ring.descriptor_setUsed,
      hidle.fresh, hidle.fresh]
  · rw [fill, Ring.avail_setFlags, Ring.avail_setUsed, hidle.avail]
  · rw [fill, Ring.used_setFlags, Ring.used_setUsed]
  · have hstored := Memory.readSlice_writeSlice (Request.clear m (d.ring.buffer i.word))
      (Request.payload (d.ring.buffer i.word)) (contents q.position count)
      (by simp only [length_contents]; omega)
    rw [fill, Ring.payload_congr (d.ring.sameOn_answered _ i _ _) (fun _ _ hout => hout)
      (by simpa using hcount), hstored]

/-- A request taken from an idle ring leaves the ring idle. -/
theorem idle_take (h : d.ring.Idle m) (count : Nat) :
    d.ring.Idle (d.take m (d.ring.buffer i.word) q count).memory :=
  h.congr (d.sameOn_clear_inHeader m i)

/-- A request announced on intact descriptors cannot lead out of the ring. -/
theorem sameOn_service_of_announces (h : d.ring.Announces m i q data) (flags : Word) :
    m.SameOn (fun a => ¬ d.ring.Within a) (d.service m flags).memory := by
  have hintact : d.ring.Intact m := by
    intro j
    rw [h.lends]
    split
    · next hj => rw [hj]; rfl
    · rfl
  exact (d.sameOn_service m flags).mono fun a hout hreach =>
    hout (Ring.reach_of_intact hintact hreach).1

/-- **A request to read is answered**: a kick fills its buffer with the words of the device. -/
theorem answers_service (h : d.ring.Announces m i q data) (hkick : flags &&& kick ≠ 0)
    (hop : q.op = .read) (hlen : q.length.toNat ≤ maxPayload) :
    d.ring.Answers (d.service m flags).memory i (contents q.position q.length.toNat) ∧
      (d.service m flags).device.lastWrite = d.lastWrite ∧
      (d.service m flags).outcome = .serviced := by
  have hserved := service_of_announces h hkick hlen
  simp only [hop] at hserved
  obtain ⟨hmemory, hdevice, houtcome⟩ := hserved
  rw [hmemory, hdevice]
  refine ⟨?_, rfl, houtcome⟩
  exact answers_fill (d := { d with stats.kicks := d.stats.kicks + 1 }) (idle_freed h) hlen

/-- **A request to write is taken**: a kick records its payload and leaves an idle ring. -/
theorem idle_service (h : d.ring.Announces m i q data) (hkick : flags &&& kick ≠ 0)
    (hop : q.op = .write) (hlen : q.length.toNat = data.length)
    (hdata : data.length ≤ maxPayload) :
    d.ring.Idle (d.service m flags).memory ∧
      (d.service m flags).device.lastWrite = some ⟨q.position, data⟩ ∧
      (d.service m flags).outcome = .serviced := by
  have hserved := service_of_announces h hkick (by rw [hlen]; exact hdata)
  simp only [hop] at hserved
  obtain ⟨hmemory, hdevice, houtcome⟩ := hserved
  rw [hmemory, hdevice]
  refine ⟨idle_take (d := { d with stats.kicks := d.stats.kicks + 1 }) (idle_freed h) _, ?_,
    houtcome⟩
  -- neither the freed descriptor nor the cleared operation code reaches into the payload
  have hfreed := sameOn_freed d.ring m i ⟨0, i.word⟩
  have hcleared := d.sameOn_clear (d.ring.setFlags (d.ring.setAvail m ⟨0, i.word⟩) i 0) i
  have hread : (Request.clear (d.ring.setFlags (d.ring.setAvail m ⟨0, i.word⟩) i 0)
      (d.ring.buffer i.word)).readSlice (Request.payload (d.ring.buffer i.word)) data.length =
      data := by
    rw [hcleared.readSlice_eq, Ring.payload_congr hfreed (fun _ _ hout => hout) hdata, h.payload]
    intro k hk
    rw [Ring.place_payload (Nat.lt_of_lt_of_le hk hdata)]
    omega
  show some (WriteRecord.mk q.position _) = _
  rw [hlen, hread]

end BlockDevice

end LC3
