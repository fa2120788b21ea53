import LC3.Proofs.Driver.Apart

/-!
# Descriptors that a failed call leaves in use

A call takes a descriptor into use before it knows how it will end. The descriptor is released by
the device, which frees the one of a request to write, or by the driver, once it has collected what
was read. A call that fails in between releases nothing.

- `BlockDriver.kicked`: the bus right after the kick, and `Apart.perform_eq_of_kicked`: an accepted
  call is decided there.
- `Apart.isAllocated_failed`: a failed call leaves the descriptors as the kick left them.
- `Apart.perform_unanswered`: without a device a call times out. `Apart.step_unanswered` tells what
  that costs, and `Apart.session_unanswered` how a session of such calls goes.
- `Apart.limit_of_failed`: with a device a call fails only if the driver never looks.
- `BlockDriver.in_use_after_failure`: the three together.
-/

namespace LC3

namespace BlockDriver

variable {κ δ : Type} [Console κ] [Handler δ] {driver : BlockDriver} {b : Bus κ δ} {i : Slot}
  {c : Call}

/-! ## The kick -/

/-- The bus right after the kick of a call that is submitted through descriptor `i`. -/
def kicked (driver : BlockDriver) (b : Bus κ δ) (i : Slot) (c : Call) : Bus κ δ :=
  ((driver.submit b c.request c.payload).2.report (.submitted c.transfer i.word)).write
    driver.doorbell BlockDevice.kick

/-- Before the kick the announcement is stored, and nothing else. -/
theorem Apart.kicked_eq (h : driver.Apart) (hfits : c.length ≤ maxPayload)
    (hfind : driver.ring.findFree? b.memory = some i) (hintact : driver.ring.Intact b.memory) :
    driver.kicked b i c = ((b.mapMemory (driver.ring.announce · i c.request c.payload)).report
      (.submitted c.transfer i.word)).write driver.doorbell BlockDevice.kick := by
  rw [kicked, h.submit_eq hfind hintact c.request (Nat.le_trans c.length_payload_le hfits)]

/-- **An accepted call**: what the driver makes of the kick, when its looks do not disturb it. -/
theorem Apart.perform_eq_of_kicked (h : driver.Apart) (hfits : c.length ≤ maxPayload)
    (hfind : driver.ring.findFree? b.memory = some i) :
    driver.perform b c =
      if (driver.awaitCompletion (driver.kicked b i c) driver.pollLimit.toNat).1 = true
      then driver.conclude (driver.kicked b i c) c
      else (.error (.timeout driver.pollLimit), driver.kicked b i c) := by
  have hwait : driver.kickAndWait ((driver.submit b c.request c.payload).2.report
      (.submitted c.transfer i.word)) =
        (if (driver.awaitCompletion (driver.kicked b i c) driver.pollLimit.toNat).1 = true
          then .ok () else .error (.timeout driver.pollLimit), driver.kicked b i c) :=
    Prod.ext rfl (kickAndWait_snd h.doorbell_ne)
  rw [driver.perform_of_findFree? b hfits hfind, complete, hwait]
  cases (driver.awaitCompletion (driver.kicked b i c) driver.pollLimit.toNat).1 <;> rfl

/-- An accepted call that fails releases nothing after the kick. -/
theorem Apart.isAllocated_failed (h : driver.Apart) (hfits : c.length ≤ maxPayload)
    (hfind : driver.ring.findFree? b.memory = some i) {cause : DriverError}
    (hfailed : (driver.perform b c).1 = .error cause) (j : Slot) :
    driver.ring.isAllocated (driver.perform b c).2.memory j =
      driver.ring.isAllocated (driver.kicked b i c).memory j := by
  rw [driver.perform_of_findFree? b hfits hfind] at hfailed ⊢
  generalize hdone : driver.complete (driver.submit b c.request c.payload).2 i c = done at hfailed ⊢
  obtain ⟨result, b'⟩ := done
  obtain rfl : result = .error cause := hfailed
  obtain ⟨-, xs, rfl, hwaiting⟩ := driver.complete_error _ hdone
  exact h.isAllocated_waiting hwaiting (driver.kicked b i c) j

/-! ## Nobody at the doorbell -/

/-- **Timeout**: when nobody answers at the doorbell, an accepted call times out, and it leaves the
announcement behind. -/
theorem Apart.perform_unanswered (h : driver.Apart) (hfits : c.length ≤ maxPayload)
    (hfind : driver.ring.findFree? b.memory = some i) (hintact : driver.ring.Intact b.memory)
    (hnobody : b.answering? driver.doorbell = none) :
    (driver.perform b c).1 = .error (.timeout driver.pollLimit) ∧
      b.Becomes (driver.announced b.memory i c) (driver.perform b c).2 := by
  have hstored : b.Becomes (driver.announced b.memory i c) (driver.kicked b i c) := by
    rw [h.kicked_eq hfits hfind hintact]
    obtain ⟨hmemory, hdevices, hconsole⟩ := Bus.write_unanswered
      (b := (b.mapMemory (driver.ring.announce · i c.request c.payload)).report
        (.submitted c.transfer i.word)) hnobody BlockDevice.kick
    exact ⟨hmemory, hdevices, hconsole⟩
  have hword : (driver.kicked b i c).memory.get driver.doorbell ≠ Bus.completion := by
    rw [hstored.memory, announced, Memory.get_set_self]
    decide
  rw [h.perform_eq_of_kicked hfits hfind, awaitCompletion_fst_of_ne h.doorbell_ne hword,
    if_neg Bool.false_ne_true]
  exact ⟨rfl, hstored⟩

/-- **Step**: when nobody answers at the doorbell, every call of a size that fits costs a
descriptor, until there are none. -/
theorem Apart.step_unanswered (h : driver.Apart) (hfits : c.length ≤ maxPayload)
    (hintact : driver.ring.Intact b.memory) (hnobody : b.answering? driver.doorbell = none) :
    let b' := (driver.perform b c).2
    (driver.perform b c).1 = .error (if driver.ring.allocated b.memory < 10
      then .timeout driver.pollLimit else .ringFull) ∧
    driver.ring.allocated b'.memory = min 10 (driver.ring.allocated b.memory + 1) ∧
      driver.ring.Intact b'.memory ∧ b'.answering? driver.doorbell = none := by
  intro b'
  have hle := driver.ring.allocated_le b.memory
  cases hfind : driver.ring.findFree? b.memory with
  | none =>
    have hten := Ring.findFree?_eq_none_iff_allocated.mp hfind
    have hrefused : driver.perform b c = (.error .ringFull, b.report (.ringFull c.request.op)) := by
      rw [perform_eq, if_neg (Nat.not_lt.mpr hfits), hfind]
    rw [show b' = _ from congrArg Prod.snd hrefused, hrefused, hten]
    exact ⟨rfl, hten, hintact, hnobody⟩
  | some i =>
    obtain ⟨htimeout, hleft⟩ := h.perform_unanswered hfits hfind hintact hnobody
    have hfree : driver.ring.allocated b.memory ≠ 10 := by
      rw [ne_eq, ← Ring.findFree?_eq_none_iff_allocated, hfind]
      exact Option.some_ne_none i
    have hlt : driver.ring.allocated b.memory < 10 := by omega
    have hone := Ring.allocated_succ (Ring.isAllocated_of_findFree? hfind)
      (h.isAllocated_announced hfits b.memory)
    rw [show b'.memory = _ from hleft.memory, htimeout, if_pos hlt, hone]
    refine ⟨rfl, by omega, h.intact_announced hfits hintact, ?_⟩
    exact (Bus.answering?_congr (congrArg _ hleft.devices) _).trans hnobody

/-- **Run**: when nobody answers at the doorbell, as many calls time out as there were descriptors
free, and all others are refused for want of a descriptor. -/
theorem Apart.session_unanswered (h : driver.Apart) (hintact : driver.ring.Intact b.memory)
    (hnobody : b.answering? driver.doorbell = none) {calls : List Call}
    (hfits : ∀ c ∈ calls, c.length ≤ maxPayload) :
    (driver.session b calls).1 = (List.range calls.length).map fun t =>
      .error (if driver.ring.allocated b.memory + t < 10 then .timeout driver.pollLimit
        else .ringFull) := by
  induction calls generalizing b with
  | nil => rfl
  | cons c rest ih =>
    rw [List.forall_mem_cons] at hfits
    obtain ⟨hfirst, hcount, hintact', hnobody'⟩ := h.step_unanswered hfits.1 hintact hnobody
    have hrest := ih hintact' hnobody' hfits.2
    rw [hcount] at hrest
    rw [List.length_cons, List.range_succ_eq_map, List.map_cons, List.map_map]
    show (driver.perform b c).1 :: (driver.session (driver.perform b c).2 rest).1 = _
    rw [hfirst, hrest, Nat.add_zero]
    congr 1
    refine List.map_congr_left fun t _ => ?_
    have hiff : min 10 (driver.ring.allocated b.memory + 1) + t < 10 ↔
        driver.ring.allocated b.memory + t.succ < 10 := by omega
    simp only [Function.comp_apply, hiff]

/-! ## A block device at the doorbell -/

section Device

open HasBlock (block)

variable [HasBlock δ] {k : Nat} {d : BlockDevice}

/-- **The kick**: the completion code stands at the doorbell, a request to write has given its
descriptor back, and a request to read stands ready to be collected. -/
theorem Apart.kicked_answered (h : driver.Apart) (hfits : c.length ≤ maxPayload)
    (hfind : driver.ring.findFree? b.memory = some i) (hintact : driver.ring.Intact b.memory)
    (hanswers : b.answering? driver.doorbell = some k) (hd : b.devices[k]? = some (block d))
    (hring : d.ring = driver.ring) (hvector : d.vector = driver.doorbell) :
    let m' := (driver.kicked b i c).memory
    m'.get driver.doorbell = Bus.completion ∧
    (∀ j, driver.ring.isAllocated m' j =
      if j = i then decide (c.transfer = .read) else driver.ring.isAllocated b.memory j) ∧
    (c.transfer = .read → driver.ring.used m' = ⟨flagSet, i.word⟩ ∧
      (driver.ring.descriptor m' i).flags = flagSet) := by
  intro m'
  rw [← hvector] at hanswers
  obtain ⟨hmemory, -⟩ := Bus.write_block_answered
    (b := (b.mapMemory (driver.ring.announce · i c.request c.payload)).report
      (.submitted c.transfer i.word)) hanswers hd BlockDevice.kick
  obtain ⟨hserviced, -⟩ := d.service_kick (driver.announced b.memory i c)
    (by decide : BlockDevice.kick.toNat % 2 = 1)
  rw [hvector] at hmemory
  have hm : m' = (d.service (driver.announced b.memory i c) BlockDevice.kick).memory.set
      driver.doorbell Bus.completion := by
    show (driver.kicked b i c).memory = _
    rw [h.kicked_eq hfits hfind hintact]
    exact hmemory.trans (Bus.afterEvent_of_serviced hserviced driver.doorbell)
  obtain ⟨hset, hused⟩ := h.service_announced (i := i) hfits hring hintact
  -- the completion code does not go to the ring
  have hbell := Memory.SameOn.set h.not_within_doorbell Bus.completion
    (m := (d.service (driver.announced b.memory i c) BlockDevice.kick).memory)
  rw [hm]
  refine ⟨Memory.get_set_self .., fun j => ?_, fun hread => ?_⟩
  · rw [h.isAllocated_doorbell, h.isAllocated_service hfits hring hintact]
  · rw [Ring.used_congr hbell driver.ring.inHeader_usedFlags.within
      driver.ring.inHeader_usedIdx.within, hused hread,
      Ring.descriptor_congr hbell fun f => (driver.ring.inHeader_cell i f).within, hset,
      if_pos hread]
    exact ⟨rfl, rfl⟩

/-- **With a device at the doorbell** an accepted call fails only if the driver never looks. -/
theorem Apart.limit_of_failed (h : driver.Apart) (hfits : c.length ≤ maxPayload)
    (hfind : driver.ring.findFree? b.memory = some i) (hintact : driver.ring.Intact b.memory)
    (hanswers : b.answering? driver.doorbell = some k) (hd : b.devices[k]? = some (block d))
    (hring : d.ring = driver.ring) (hvector : d.vector = driver.doorbell) {cause : DriverError}
    (hfailed : (driver.perform b c).1 = .error cause) :
    driver.pollLimit = 0 ∧ cause = .timeout 0 := by
  obtain ⟨hcode, -, hready⟩ := h.kicked_answered hfits hfind hintact hanswers hd hring hvector
  rw [h.perform_eq_of_kicked hfits hfind] at hfailed
  split at hfailed
  · -- the driver has found the completion code
    cases c with
    | write position data => cases hfailed
    | read position count =>
      obtain ⟨hused, hflags⟩ := hready rfl
      obtain ⟨words, hwords⟩ := h.collect_ok hused hflags count
      cases hwords.symm.trans hfailed
  · next hmissed =>
    have hlimit : driver.pollLimit = 0 := by
      by_contra hlooks
      have hpolls : driver.pollLimit.toNat ≠ 0 := by
        rw [ne_eq, ← UInt32.toNat_zero, UInt32.toNat_inj]
        exact hlooks
      exact hmissed (awaitCompletion_fst_of_eq h.doorbell_ne hcode hpolls)
    rw [← Except.error.inj hfailed, hlimit]
    exact ⟨rfl, rfl⟩

/-- **What failed calls leave in use**, on a ring whose descriptors have the buffers that they were
laid out with. A call that is refused changes nothing. Any other call that fails has taken a
descriptor, the free one of least index, and the descriptors in use are those that were in use right
after the kick: all that a device has not freed by then stays taken.

So when nobody answers at the doorbell, the call times out and its descriptor stays in use. With a
block device the call fails only if the driver never looks for the completion code, and then the
descriptor of a read stays in use. Call after call, a ring without a device runs full, and from then
on it refuses every request. -/
theorem in_use_after_failure (driver : BlockDriver) (h : driver.Apart) (b : Bus κ δ)
    (hbuffers : ∀ j : Slot,
      b.memory.get (driver.ring.cell j .addr) = driver.ring.buffer j.word) :
    let inUse (b : Bus κ δ) (j : Slot) := b.memory.get (driver.ring.cell j .flags) ≠ 0
    (∀ c cause, (driver.perform b c).1 = .error cause →
      let b' := (driver.perform b c).2
      (29 < c.length ∨ driver.ring.findFree? b.memory = none → ∀ j, inUse b' j ↔ inUse b j) ∧
      ∀ i, c.length ≤ 29 → driver.ring.findFree? b.memory = some i →
        (∀ j, inUse b' j ↔ inUse (driver.kicked b i c) j) ∧
        (b.answering? driver.doorbell = none →
          cause = .timeout driver.pollLimit ∧ ∀ j, inUse b' j ↔ inUse b j ∨ j = i) ∧
        ∀ k d, b.answering? driver.doorbell = some k → b.devices[k]? = some (block d) →
          d.ring = driver.ring → d.vector = driver.doorbell →
          driver.pollLimit = 0 ∧ cause = .timeout 0 ∧
            ∀ j, inUse b' j ↔ inUse b j ∨ j = i ∧ c.transfer = .read) ∧
    (b.answering? driver.doorbell = none →
      ∀ calls, (∀ c ∈ calls, c.length ≤ 29) →
        (driver.session b calls).1 = (List.range calls.length).map fun t =>
          .error (if driver.ring.allocated b.memory + t < 10 then .timeout driver.pollLimit
            else .ringFull)) := by
  intro inUse
  have hiff (b : Bus κ δ) (j : Slot) : driver.ring.isAllocated b.memory j = true ↔ inUse b j :=
    Ring.isAllocated_iff
  refine ⟨fun c cause hfailed => ?_, fun hnobody calls hfits =>
    h.session_unanswered hbuffers hnobody hfits⟩
  intro b'
  refine ⟨fun hrefused j => ?_, fun i hfits hfind => ⟨fun j => ?_, fun hnobody => ?_,
    fun k d hanswers hd hring hvector => ?_⟩⟩
  · have hsame : b'.memory = b.memory := by
      show (driver.perform b c).2.memory = _
      rw [perform_eq]
      split
      · rfl
      · next hfits =>
        rw [hrefused.resolve_left hfits]
        rfl
    rw [← hiff, ← hiff, hsame]
  · rw [← hiff, ← hiff, h.isAllocated_failed hfits hfind hfailed]
  · obtain ⟨htimeout, hleft⟩ := h.perform_unanswered hfits hfind hbuffers hnobody
    refine ⟨Except.error.inj (hfailed.symm.trans htimeout), fun j => ?_⟩
    rw [← hiff, ← hiff, show b'.memory = _ from hleft.memory, h.isAllocated_announced hfits]
    simp
  · obtain ⟨-, hflags, -⟩ := h.kicked_answered hfits hfind hbuffers hanswers hd hring hvector
    obtain ⟨hlimit, hcause⟩ :=
      h.limit_of_failed hfits hfind hbuffers hanswers hd hring hvector hfailed
    refine ⟨hlimit, hcause, fun j => ?_⟩
    rw [← hiff, ← hiff, h.isAllocated_failed hfits hfind hfailed, hflags]
    by_cases hj : j = i
    · rw [hj, if_pos rfl, Ring.isAllocated_of_findFree? hfind]
      simp
    · simp [hj]

end Device

/-! ## A ring without a device -/

/-- Eleven writes to a ring that has been laid out, on a bus without devices: ten of them time out,
and there is no descriptor left for the last. -/
theorem in_use_after_failure_bare :
    let driver := BlockDriver.standard 16
    let b : Bus BufferConsole Device :=
      (Bus.ofConsole (.ofInput []) .silent).mapMemory driver.ring.init
    (driver.perform b (.write 0 [1])).1 = .error (.timeout 16) ∧
      (driver.perform b (.write 0 [1])).2.memory.get (driver.ring.cell 0 .flags) ≠ 0 ∧
      (driver.session b (List.replicate 11 (.write 0 [1]))).1 =
        List.replicate 10 (.error (.timeout 16)) ++ [.error .ringFull] := by
  intro driver b
  -- all that matters of the bus is that it has no devices and that the ring is fresh
  have hidle : driver.ring.Idle b.memory := driver.ring.idle_init .zero
  have hnobody : b.answering? driver.doorbell = none := rfl
  clear_value b
  have hapart : driver.Apart := apart_standard 16
  obtain ⟨hcalls, hsession⟩ := in_use_after_failure driver hapart b hidle.intact
  have hresults := hsession hnobody (List.replicate 11 (.write 0 [1])) fun c hc => by
    rw [List.eq_of_mem_replicate hc]
    decide
  rw [hidle.allocated] at hresults
  have hfailed : (driver.perform b (.write 0 [1])).1 = .error (.timeout 16) :=
    (hapart.perform_unanswered (by decide) hidle.findFree? hidle.intact hnobody).1
  obtain ⟨-, haccepted⟩ := hcalls _ _ hfailed
  obtain ⟨-, htimeout, -⟩ := haccepted 0 (by decide) hidle.findFree?
  exact ⟨hfailed, ((htimeout hnobody).2 0).mpr (.inr rfl), hresults⟩

/-- **A failed call leaks its descriptor**: on the bus without devices descriptor 0 is free before a
write times out and in use afterwards. -/
theorem leaks_on_timeout :
    let driver := BlockDriver.standard 16
    let b : Bus BufferConsole Device :=
      (Bus.ofConsole (.ofInput []) .silent).mapMemory driver.ring.init
    (∀ j : Slot, b.memory.get (driver.ring.cell j .addr) = driver.ring.buffer j.word) ∧
      b.memory.get (driver.ring.cell 0 .flags) = 0 ∧
      (driver.perform b (.write 0 [1])).1 = .error (.timeout 16) ∧
      (driver.perform b (.write 0 [1])).2.memory.get (driver.ring.cell 0 .flags) ≠ 0 := by
  intro driver b
  have hidle : driver.ring.Idle b.memory := driver.ring.idle_init .zero
  have hnobody : b.answering? driver.doorbell = none := rfl
  clear_value b
  have hapart : driver.Apart := apart_standard 16
  obtain ⟨hfailed, hleft⟩ := hapart.perform_unanswered (c := .write 0 [1]) (by decide)
    hidle.findFree? hidle.intact hnobody
  have hfree : b.memory.get (driver.ring.cell 0 .flags) = 0 :=
    congrArg Descriptor.flags (hidle.fresh 0)
  refine ⟨hidle.intact, hfree, hfailed, Ring.isAllocated_iff.mp ?_⟩
  rw [hleft.memory, hapart.isAllocated_announced (by decide)]
  exact Bool.or_true _

end BlockDriver

end LC3
