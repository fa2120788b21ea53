import LC3.Proofs.Block.Exchange
import LC3.Proofs.Bus.Access

/-!
# One transfer

The driver and the block device never call each other. What they have in common is a ring and
the order of their accesses to it, and this module follows one transfer through both of them:
the driver's stores announce a request, the store to the doorbell lets the device serve it, and
the driver finds the completion code and collects what it asked for.

- `BlockDriver.Placed`: the ring stays clear of the doorbell and of the keyboard status, so
  that no access to the ring has an effect beyond the ring.
- `BlockDriver.Faces`: the only device of a bus is one with the driver's ring and doorbell.
- `BlockDriver.Settled`: what every transfer leaves, and what it leaves alone.
- `read_of_idle`, `write_of_idle`: on an idle ring every transfer of a size that fits succeeds
  and leaves an idle ring.
-/

namespace LC3

namespace BlockDriver

variable {κ : Type}

/-- The driver's ring and doorbell lie where every access does what it is meant to do. -/
structure Placed (driver : BlockDriver) : Prop where
  /-- A store to the doorbell is delivered to a device. -/
  window : inInterruptWindow driver.doorbell = true
  /-- The ring does not contain the doorbell. -/
  doorbell : ¬ driver.ring.Within driver.doorbell
  /-- The ring does not contain the keyboard status. -/
  status : ¬ driver.ring.Within keyboardStatus
  /-- The driver looks for the completion code at least once. -/
  patient : 0 < driver.pollLimit.toNat

/-- The only device of the bus is `dev`, which shares the driver's ring and doorbell. -/
structure Faces (driver : BlockDriver) (b : Bus κ Device) (dev : BlockDevice) : Prop where
  /-- There is no other device. -/
  devices : b.devices = [.block dev]
  /-- The ring is the driver's. -/
  ring : dev.ring = driver.ring
  /-- The entry is the driver's doorbell. -/
  vector : dev.vector = driver.doorbell

/-- The addresses that a transfer has no business with. -/
def Beyond (driver : BlockDriver) (a : Word) : Prop :=
  ¬ driver.ring.Within a ∧ a ≠ driver.doorbell

variable {driver : BlockDriver} {b b' : Bus κ Device} {dev : BlockDevice} {m : Memory} {a : Word}

/-! ## Accesses to the ring -/

theorem Placed.doorbell_ne (h : driver.Placed) : driver.doorbell ≠ keyboardStatus := by
  intro e
  have hwindow := h.window
  rw [e] at hwindow
  exact absurd hwindow (by decide)

theorem Faces.becomes (h : driver.Faces b dev) (hb : b.Becomes m b') : driver.Faces b' dev :=
  ⟨hb.devices.trans h.devices, h.ring, h.vector⟩

/-- A load from the ring does not ask for a key. -/
theorem Placed.load [Console κ] (h : driver.Placed) (b : Bus κ Device)
    (ha : driver.ring.Within a) : b.read a = (b.memory.get a, b) := by
  apply b.read_of_ne
  rintro rfl
  exact h.status ha

/-- A store anywhere but to the doorbell does not ring the device. -/
theorem Faces.write_of_ne (h : driver.Faces b dev) (ha : a ≠ driver.doorbell) (v : Word) :
    b.Becomes (b.memory.set a v) (b.write a v) := by
  apply b.write_unclaimed
  apply Bus.isClaimed_block_of_ne h.devices
  rwa [h.vector]

/-- A store to the doorbell is one event for the device. -/
theorem Faces.write_doorbell (h : driver.Faces b dev) (hplaced : driver.Placed) (v : Word) :
    let reply := dev.service (b.memory.set driver.doorbell v) v
    (b.write driver.doorbell v).memory = Bus.afterEvent reply driver.doorbell ∧
      (b.write driver.doorbell v).devices = [.block reply.device] ∧
      (b.write driver.doorbell v).console = b.console := by
  have hwindow : inInterruptWindow dev.vector = true := by
    rw [h.vector]
    exact hplaced.window
  have hstore := Bus.write_block h.devices hwindow v
  rwa [h.vector] at hstore

theorem Placed.ne_doorbell (h : driver.Placed) (ha : driver.ring.Within a) :
    a ≠ driver.doorbell := by
  rintro rfl
  exact h.doorbell ha

/-- A store to the ring does not ring the device. -/
theorem Faces.store (h : driver.Faces b dev) (hplaced : driver.Placed)
    (ha : driver.ring.Within a) (v : Word) : b.Becomes (b.memory.set a v) (b.write a v) :=
  h.write_of_ne (hplaced.ne_doorbell ha) v

theorem Faces.storeAll (h : driver.Faces b dev) (hplaced : driver.Placed) {values : List Word}
    (ha : ∀ i < values.length, driver.ring.Within (a + UInt16.ofNat i)) :
    b.Becomes (b.memory.writeSlice a values) (writeAll b a values) := by
  apply Bus.writeAll_unclaimed
  intro i hi
  apply Bus.isClaimed_block_of_ne h.devices
  rw [h.vector]
  exact hplaced.ne_doorbell (ha i hi)

/-- The words of a request header lie in the ring. -/
theorem within_header (r : Ring) (i : Slot) (q : Request) :
    ∀ k < q.header.length, r.Within (r.buffer i.word + UInt16.ofNat k) := by
  intro k hk
  have hlen : k < 3 := hk
  have hword : (UInt16.ofNat k).toNat = k := by
    rw [UInt16.toNat_ofNat']
    omega
  exact (Ring.buffer_add_within (by omega)).1

/-- The words of a payload lie in the ring. -/
theorem within_payload (r : Ring) (i : Slot) {count : Nat} (hcount : count ≤ maxPayload) :
    ∀ k < count, r.Within (Request.payload (r.buffer i.word) + UInt16.ofNat k) := by
  intro k hk
  exact (Ring.payload_add_within (Nat.lt_of_lt_of_le hk hcount)).1

section Transfers

variable [Console κ]

/-! ## The stages of a transfer -/

/-- **Submission**: on an idle ring the driver announces descriptor 0. -/
theorem submit_of_idle (hplaced : driver.Placed) (hfaces : driver.Faces b dev)
    (hidle : driver.ring.Idle b.memory) (q : Request) {payload : List Word}
    (hpayload : payload.length ≤ maxPayload) :
    ∃ b', driver.submit b q payload = (.ok 0, b') ∧
      b.Becomes (driver.ring.announce b.memory 0 q payload) b' := by
  have hcell : ∀ f, driver.ring.Within (driver.ring.cell 0 f) := fun f =>
    (driver.ring.inHeader_cell 0 f).within
  have haddr : b.memory.get (driver.ring.cell 0 .addr) = driver.ring.buffer (Slot.word 0) :=
    congrArg Descriptor.addr (hidle.fresh 0)
  rw [submit, hidle.findFree?]
  simp only [hplaced.load b (hcell .addr), haddr]
  -- one store after the other, on a bus that still has the same device
  have hflags := hfaces.store hplaced (hcell .flags) flagSet
  have hheader := (hfaces.becomes hflags).storeAll hplaced
    (within_header driver.ring 0 q)
  have hfilled := hflags.trans hheader
  have hwords := (hfaces.becomes hfilled).storeAll hplaced (within_payload driver.ring 0 hpayload)
  have hput := hfilled.trans hwords
  have hnotice := (hfaces.becomes hput).store hplaced driver.ring.inHeader_availFlags.within flagSet
  have hset := hput.trans hnotice
  have hindex := (hfaces.becomes hset).store hplaced driver.ring.inHeader_availIdx.within
    (Slot.word 0)
  have hall := hset.trans hindex
  rw [hset.memory, hput.memory, hfilled.memory, hflags.memory] at hall
  exact ⟨_, rfl, hall⟩

/-- **The kick**: once the device has serviced it, the driver finds the completion code at its
first look. -/
theorem kickAndWait_of_serviced (hplaced : driver.Placed) (hfaces : driver.Faces b dev)
    {reply : Reply BlockDevice}
    (hreply : dev.service (b.memory.set driver.doorbell BlockDevice.kick) BlockDevice.kick = reply)
    (hserviced : reply.outcome = .serviced) :
    ∃ b', driver.kickAndWait b = (.ok (), b') ∧
      b'.memory = reply.memory.set driver.doorbell Bus.completion ∧
      b'.devices = [.block reply.device] ∧ b'.console = b.console := by
  obtain ⟨hmemory, hdevices, hconsole⟩ := hfaces.write_doorbell hplaced BlockDevice.kick
  rw [hreply] at hmemory hdevices
  rw [Bus.afterEvent_of_serviced hserviced] at hmemory
  -- the first look is the last one: the device has answered within the store
  obtain ⟨polls, hpolls⟩ := Nat.exists_eq_succ_of_ne_zero (Nat.ne_of_gt hplaced.patient)
  have hread := (b.write driver.doorbell BlockDevice.kick).read_of_ne hplaced.doorbell_ne
  rw [hmemory, Memory.get_set_self] at hread
  refine ⟨b.write driver.doorbell BlockDevice.kick, ?_, hmemory, hdevices, hconsole⟩
  simp only [kickAndWait, hpolls, awaitCompletion, hread, if_true]

/-- **The collection**: from an answered descriptor the driver takes the words and frees it. -/
theorem collect_of_answers (hplaced : driver.Placed) (hfaces : driver.Faces b dev) {i : Slot}
    {data : List Word} (h : driver.ring.Answers b.memory i data)
    (hdata : data.length ≤ maxPayload) :
    ∃ b', driver.collect b data.length = (.ok data, b') ∧
      b.Becomes (driver.ring.acknowledge b.memory i) b' := by
  have hcell : ∀ f, driver.ring.Within (driver.ring.cell i f) := fun f =>
    (driver.ring.inHeader_cell i f).within
  have hanswered : b.memory.get driver.ring.usedFlags = flagSet := congrArg Notice.flags h.used
  have hused := hfaces.store hplaced driver.ring.inHeader_usedFlags.within 0
  have hfree := (hfaces.becomes hused).store hplaced (hcell .flags) 0
  have hall := hused.trans hfree
  rw [hused.memory] at hall
  -- what is read in between is not what has just been stored
  have hindex : (b.write driver.ring.usedFlags 0).memory.get driver.ring.usedIdx = i.word := by
    rw [hused.memory, ← Ring.setUsed_flags]
    have hidx := congrArg Notice.idx h.used
    have hkept := congrArg Notice.idx
      (driver.ring.used_setUsed b.memory ⟨0, (driver.ring.used b.memory).idx⟩)
    exact hkept.trans hidx
  have hdescriptor : driver.ring.descriptor (b.write driver.ring.usedFlags 0).memory i =
      { driver.ring.freshDescriptor i with flags := flagSet } := by
    rw [hused.memory, ← Ring.setUsed_flags, Ring.descriptor_setUsed, h.lends, if_pos rfl]
  have hflags : (b.write driver.ring.usedFlags 0).memory.get (driver.ring.cell i .flags) =
      flagSet := congrArg Descriptor.flags hdescriptor
  have haddr : ((b.write driver.ring.usedFlags 0).write (driver.ring.cell i .flags) 0).memory.get
      (driver.ring.cell i .addr) = driver.ring.buffer i.word := by
    have hfreed := driver.ring.descriptor_setFlags (b.write driver.ring.usedFlags 0).memory i i 0
    rw [if_pos rfl, hdescriptor] at hfreed
    rw [hfree.memory]
    exact congrArg Descriptor.addr hfreed
  have hwords : readAll ((b.write driver.ring.usedFlags 0).write (driver.ring.cell i .flags) 0)
      (Request.payload (driver.ring.buffer i.word)) data.length =
      (data, (b.write driver.ring.usedFlags 0).write (driver.ring.cell i .flags) 0) := by
    have hrun : ∀ k < data.length,
        Request.payload (driver.ring.buffer i.word) + UInt16.ofNat k ≠ keyboardStatus := by
      intro k hk e
      have hin := within_payload driver.ring i hdata k hk
      rw [e] at hin
      exact hplaced.status hin
    have hpayload := Ring.payload_congr (r := driver.ring) (i := i)
      (Ring.sameOn_acknowledge (r := driver.ring) (m := b.memory) (i := i))
      (fun _ _ hout => hout) hdata
    rw [Bus.readAll_eq hrun, hall.memory]
    exact congrArg (·, _) (hpayload.trans h.payload)
  refine ⟨_, ?_, hall⟩
  rw [collect]
  simp only [hplaced.load _ driver.ring.inHeader_usedFlags.within, hanswered, ne_eq,
    not_true_eq_false, if_false, hplaced.load _ driver.ring.inHeader_usedIdx.within, hindex,
    Ring.slot?_word, hplaced.load _ (hcell _), hflags, haddr, hwords]

/-! ## Whole transfers -/

/-- What a transfer leaves behind on the bus `b'`, with the device `dev`, and what of the bus
`b` it leaves alone. -/
structure Settled (driver : BlockDriver) (b b' : Bus κ Device) (dev : BlockDevice) : Prop where
  /-- The driver still faces its device. -/
  faces : driver.Faces b' dev
  /-- The ring is ready for the next transfer. -/
  idle : driver.ring.Idle b'.memory
  /-- The completion code stands at the doorbell. -/
  doorbell : b'.memory.get driver.doorbell = Bus.completion
  /-- No word beyond the ring and the doorbell has changed. -/
  memory : b.memory.SameOn driver.Beyond b'.memory
  /-- The console was not used. -/
  console : b'.console = b.console

/-- A store to the doorbell is no store to the ring. -/
theorem Placed.sameOn_doorbell (h : driver.Placed) (m : Memory) (v : Word) :
    m.SameOn driver.ring.Within (m.set driver.doorbell v) := .set h.doorbell v

/-- Up to the completion code a transfer is the same in both directions: a request is announced
on the memory `m`, and the device answers the kick on it. -/
theorem exchange_of_idle (hplaced : driver.Placed) (hfaces : driver.Faces b dev)
    (hidle : driver.ring.Idle b.memory) (transfer : Transfer) {q : Request}
    (hop : Operation.ofWord q.op.toWord = q.op) (hlength : q.length.toNat ≤ maxPayload)
    {payload : List Word} (hpayload : payload.length ≤ maxPayload) :
    ∃ b₁ b₂ m, driver.submit b q payload = (.ok 0, b₁) ∧
      driver.kickAndWait (b₁.report (.submitted transfer (Slot.word 0))) = (.ok (), b₂) ∧
      dev.ring.Announces m 0 q payload ∧
      driver.Faces b₂ (dev.service m BlockDevice.kick).device ∧
      b₂.memory = (dev.service m BlockDevice.kick).memory.set driver.doorbell Bus.completion ∧
      b.memory.SameOn driver.Beyond b₂.memory ∧
      b₂.console = b.console := by
  obtain ⟨b₁, hsubmit, hbecomes⟩ := submit_of_idle hplaced hfaces hidle q hpayload
  have hreported := hbecomes.report (.submitted transfer (Slot.word 0))
  have hannounces : dev.ring.Announces (b₁.memory.set driver.doorbell BlockDevice.kick) 0
      q payload := by
    rw [hfaces.ring, hbecomes.memory]
    exact (Ring.announces_of_idle hidle hop hpayload).congr hpayload
      (hplaced.sameOn_doorbell _ _)
  have hserviced := (BlockDevice.service_of_announces hannounces BlockDevice.kick_and_kick
    hlength).2.2
  obtain ⟨b₂, hkick, hmemory, hdevices, hconsole⟩ :=
    kickAndWait_of_serviced hplaced (hfaces.becomes hreported) rfl hserviced
  have hdevice := dev.service_device (b₁.memory.set driver.doorbell BlockDevice.kick)
    BlockDevice.kick
  refine ⟨b₁, b₂, _, hsubmit, hkick, hannounces,
    ⟨hdevices, hdevice.1.trans hfaces.ring, hdevice.2.trans hfaces.vector⟩, hmemory, ?_,
    hconsole.trans hbecomes.console⟩
  -- the driver stores to the ring and to the doorbell, and the device to the ring
  have hannounce : b.memory.SameOn (fun a => ¬ driver.ring.Within a) b₁.memory := by
    rw [hbecomes.memory]
    exact Ring.sameOn_announce hpayload
  have hservice := BlockDevice.sameOn_service_of_announces hannounces BlockDevice.kick
  rw [hfaces.ring] at hservice
  rw [hmemory]
  have hbell : ∀ (k : Memory) (v : Word), k.SameOn driver.Beyond (k.set driver.doorbell v) :=
    fun k v => .set (fun h => h.2 rfl) v
  have hrung := (hannounce.mono fun a ha => ha.1).trans (hbell _ BlockDevice.kick)
  exact (hrung.trans (hservice.mono fun a ha => ha.1)).trans (hbell _ Bus.completion)

/-- **A read succeeds**: on an idle ring the driver gets the words of the device. -/
theorem read_of_idle (hplaced : driver.Placed) (hfaces : driver.Faces b dev)
    (hidle : driver.ring.Idle b.memory) (position : Int16) {count : Nat}
    (hcount : count ≤ maxPayload) :
    ∃ b' dev', driver.read b position count = (.ok (BlockDevice.contents position count), b') ∧
      driver.Settled b b' dev' ∧ dev'.lastWrite = dev.lastWrite := by
  have hlt : count ≤ 29 := hcount
  have hlength : (UInt16.ofNat count).toNat = count := by
    rw [UInt16.toNat_ofNat']
    omega
  obtain ⟨b₁, b₂, m, hsubmit, hkick, hannounces, hfaces₂, hmemory, hsame, hconsole⟩ :=
    exchange_of_idle hplaced hfaces hidle .read (q := ⟨.read, position, UInt16.ofNat count⟩)
      rfl (by rw [hlength]; exact hcount)
      (show ([] : List Word).length ≤ maxPayload from Nat.zero_le _)
  obtain ⟨hanswers, hlast, -⟩ := BlockDevice.answers_service hannounces
    BlockDevice.kick_and_kick rfl (by simpa only [hlength] using hcount)
  simp only [hlength] at hanswers
  -- the completion code does not disturb the answer
  have hready : driver.ring.Answers b₂.memory 0 (BlockDevice.contents position count) := by
    rw [hmemory]
    rw [hfaces.ring] at hanswers
    exact hanswers.congr (by simpa using hcount) (hplaced.sameOn_doorbell _ _)
  obtain ⟨b', hcollect, hbecomes⟩ :=
    collect_of_answers hplaced hfaces₂ hready (by simpa using hcount)
  rw [BlockDevice.length_contents] at hcollect
  have hacknowledge : b₂.memory.SameOn (fun a => ¬ driver.ring.InHeader a) b'.memory := by
    rw [hbecomes.memory]
    exact Ring.sameOn_acknowledge
  refine ⟨b', (dev.service m BlockDevice.kick).device, ?_, ⟨hfaces₂.becomes hbecomes, ?_, ?_, ?_,
    hbecomes.console.trans hconsole⟩, hlast⟩
  · rw [read, if_neg (Nat.not_lt.mpr hcount)]
    simp only [hsubmit, hkick, hcollect]
  · rw [hbecomes.memory]
    exact Ring.idle_of_answers hready
  · rw [hacknowledge _ fun h => hplaced.doorbell h.within, hmemory, Memory.get_set_self]
  · exact hsame.trans (hacknowledge.mono fun a ha h => ha.1 h.within)

/-- **A write succeeds**: on an idle ring the device takes the words of the driver. -/
theorem write_of_idle (hplaced : driver.Placed) (hfaces : driver.Faces b dev)
    (hidle : driver.ring.Idle b.memory) (position : Int16) {data : List Word}
    (hdata : data.length ≤ maxPayload) :
    ∃ b' dev', driver.write b position data = (.ok (), b') ∧
      driver.Settled b b' dev' ∧ dev'.lastWrite = some ⟨position, data⟩ := by
  have hlt : data.length ≤ 29 := hdata
  have hlength : (UInt16.ofNat data.length).toNat = data.length := by
    rw [UInt16.toNat_ofNat']
    omega
  obtain ⟨b₁, b₂, m, hsubmit, hkick, hannounces, hfaces₂, hmemory, hsame, hconsole⟩ :=
    exchange_of_idle hplaced hfaces hidle .write
      (q := ⟨.write, position, UInt16.ofNat data.length⟩) rfl
      (by rw [hlength]; exact hdata) hdata
  obtain ⟨hrest, hlast, -⟩ := BlockDevice.idle_service hannounces BlockDevice.kick_and_kick rfl
    hlength hdata
  rw [hfaces.ring] at hrest
  refine ⟨b₂, (dev.service m BlockDevice.kick).device, ?_, ⟨hfaces₂, ?_, ?_, hsame, hconsole⟩,
    hlast⟩
  · rw [write, if_neg (Nat.not_lt.mpr hdata)]
    simp only [hsubmit, hkick]
  · rw [hmemory]
    exact hrest.congr ((hplaced.sameOn_doorbell _ _).mono fun _ ha => ha.within)
  · rw [hmemory, Memory.get_set_self]

end Transfers

end BlockDriver

end LC3
