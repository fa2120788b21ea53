import LC3.Proofs.Bus.Delivery
import LC3.Proofs.Driver.Session
import LC3.Proofs.Memory.Stores
import LC3.Proofs.Ring.Allocation

/-!
# Calls that are refused

Before the driver stores anything it looks twice: whether a buffer can hold the words of a call, and
whether a descriptor is free. A call that passes neither look is refused, and the bus is as it was.
Every other call goes on to its completion, and whatever goes wrong there is told by other errors.

- `Call.length`, `Call.request`, `Call.payload`: what a call submits.
- `BlockDriver.complete`: what follows a submission, and `perform_eq`, which puts a call together
  from the two looks, the submission and the completion.
- `complete_error`: the errors of a completion.
- `BlockDriver.refusal_exact`: which calls are refused, and that they change nothing.
-/

namespace LC3

namespace BlockDriver

namespace Call

/-- How many words a call transfers. -/
def length : Call → Nat
  | read _ count => count
  | write _ data => data.length

/-- The direction of a call. -/
def transfer : Call → Transfer
  | read .. => .read
  | write .. => .write

/-- The request that a call submits. -/
def request : Call → Request
  | read position count => ⟨.read, position, UInt16.ofNat count⟩
  | write position data => ⟨.write, position, UInt16.ofNat data.length⟩

/-- The words that a call submits with its request. -/
def payload : Call → List Word
  | read .. => []
  | write _ data => data

theorem length_payload_le (c : Call) : c.payload.length ≤ c.length := by
  cases c with
  | read position count => exact Nat.zero_le count
  | write position data => exact Nat.le_refl data.length

end Call

variable {κ δ : Type} [Console κ] [Handler δ] (driver : BlockDriver) (b : Bus κ δ)

/-! ## The parts of a call -/

/-- What is left of a call once the device has serviced it: to collect what was read. -/
def conclude : Call → Except DriverError (List Word) × Bus κ δ
  | .read _ count => driver.collect b count
  | .write .. => (.ok [], b)

/-- What follows the submission of a call through descriptor `i`. -/
def complete (i : Slot) (c : Call) : Except DriverError (List Word) × Bus κ δ :=
  match driver.kickAndWait (b.report (.submitted c.transfer i.word)) with
  | (.error cause, b) => (.error cause, b)
  | (.ok (), b) => driver.conclude b c

/-- A submission that finds no free descriptor ends there. -/
theorem submit_of_full (h : driver.ring.findFree? b.memory = none) (q : Request)
    (payload : List Word) :
    driver.submit b q payload = (.error .ringFull, b.report (.ringFull q.op)) := by
  rw [submit, h]

/-- A submission goes through the free descriptor of least index. -/
theorem submit_fst {i : Slot} (h : driver.ring.findFree? b.memory = some i) (q : Request)
    (payload : List Word) : (driver.submit b q payload).1 = .ok i := by
  rw [submit, h]

/-- **The parts of a call**: it is refused, or it is submitted and completed. -/
theorem perform_eq (c : Call) :
    driver.perform b c =
      if maxPayload < c.length then (.error (.tooLarge c.length), b)
      else
        match driver.ring.findFree? b.memory with
        | none => (.error .ringFull, b.report (.ringFull c.request.op))
        | some i => driver.complete (driver.submit b c.request c.payload).2 i c := by
  by_cases hlarge : maxPayload < c.length
  · rw [if_pos hlarge]
    cases c with
    | read position count => exact if_pos hlarge
    | write position data =>
      simp only [perform, write, if_pos (show maxPayload < data.length from hlarge)]
      rfl
  rw [if_neg hlarge]
  cases hfind : driver.ring.findFree? b.memory with
  | none =>
    have hfull := driver.submit_of_full b hfind
    cases c with
    | read position count =>
      simp only [perform, read, if_neg (show ¬ maxPayload < count from hlarge), hfull]
      rfl
    | write position data =>
      simp only [perform, write, if_neg (show ¬ maxPayload < data.length from hlarge), hfull]
      rfl
  | some i =>
    have hsubmit (q : Request) (payload : List Word) :
        driver.submit b q payload = (.ok i, (driver.submit b q payload).2) :=
      Prod.ext (driver.submit_fst b hfind q payload) rfl
    cases c with
    | read position count =>
      simp only [perform, read, if_neg (show ¬ maxPayload < count from hlarge)]
      rw [hsubmit]
      rfl
    | write position data =>
      simp only [perform, write, if_neg (show ¬ maxPayload < data.length from hlarge)]
      rw [hsubmit]
      simp only [complete, Call.request, Call.payload, Call.transfer]
      generalize driver.kickAndWait (_ : Bus κ δ) = waited
      obtain ⟨result, b'⟩ := waited
      cases result <;> rfl

/-- A call that passes both looks is accepted. -/
theorem perform_of_findFree? {i : Slot} {c : Call} (hfits : c.length ≤ maxPayload)
    (hfind : driver.ring.findFree? b.memory = some i) :
    driver.perform b c = driver.complete (driver.submit b c.request c.payload).2 i c := by
  rw [perform_eq, if_neg (Nat.not_lt.mpr hfits), hfind]

/-! ## The errors of a completion -/

/-- Once it has kicked, the driver only looks, until it takes note of an answer. -/
def Waiting (x : Bus.Access) : Prop := (∃ a, x = .read a) ∨ x = .write driver.ring.usedFlags 0

/-- The driver waits by loads. -/
theorem awaitCompletion_accesses (polls : Nat) :
    ∃ xs, (driver.awaitCompletion b polls).2 = b.accesses xs ∧ ∀ x ∈ xs, driver.Waiting x := by
  induction polls generalizing b with
  | zero => exact ⟨[], rfl, by simp⟩
  | succ polls ih =>
    obtain ⟨xs, hrest, hwaiting⟩ := ih (b.read driver.doorbell).2
    simp only [awaitCompletion]
    split
    · exact ⟨[.read driver.doorbell], rfl, by simp [Waiting]⟩
    · refine ⟨.read driver.doorbell :: xs, hrest, ?_⟩
      rw [List.forall_mem_cons]
      exact ⟨.inl ⟨_, rfl⟩, hwaiting⟩

/-- A collection that fails has looked for an answer and perhaps taken note of it. -/
theorem collect_error {b' : Bus κ δ} {cause : DriverError} {count : Nat}
    (h : driver.collect b count = (.error cause, b')) :
    (cause = .noCompletion ∨ ∃ refused, cause = .ring refused) ∧
      ∃ xs, b' = b.accesses xs ∧ ∀ x ∈ xs, driver.Waiting x := by
  simp only [collect] at h
  split at h
  · cases h
    exact ⟨.inl rfl, [.read driver.ring.usedFlags], rfl, by simp [Waiting]⟩
  split at h
  · cases h
    refine ⟨.inr ⟨_, rfl⟩, [.read driver.ring.usedFlags, .write driver.ring.usedFlags 0,
      .read driver.ring.usedIdx], rfl, ?_⟩
    simp [Waiting]
  · next i _ =>
    split at h
    · cases h
      refine ⟨.inl rfl, [.read driver.ring.usedFlags, .write driver.ring.usedFlags 0,
        .read driver.ring.usedIdx, .read (driver.ring.cell i .flags)], rfl, ?_⟩
      simp [Waiting]
    · cases h

/-- However the wait ends, the driver has kicked and looked. -/
theorem kickAndWait_accesses :
    ∃ xs, (driver.kickAndWait b).2 = (b.write driver.doorbell BlockDevice.kick).accesses xs ∧
      ∀ x ∈ xs, driver.Waiting x :=
  driver.awaitCompletion_accesses (b.write driver.doorbell BlockDevice.kick) _

/-- A wait that fails has run out of looks. -/
theorem kickAndWait_error {cause : DriverError} (h : (driver.kickAndWait b).1 = .error cause) :
    cause = .timeout driver.pollLimit := by
  simp only [kickAndWait] at h
  split at h <;> cases h
  rfl

/-- **The errors of a completion** are not those of a refusal; and the driver releases nothing
before it fails. -/
theorem complete_error {b' : Bus κ δ} {cause : DriverError} {i : Slot} {c : Call}
    (h : driver.complete b i c = (.error cause, b')) :
    (cause = .timeout driver.pollLimit ∨ cause = .noCompletion ∨ ∃ refused, cause = .ring refused) ∧
      ∃ xs, b' = ((b.report (.submitted c.transfer i.word)).write driver.doorbell
        BlockDevice.kick).accesses xs ∧ ∀ x ∈ xs, driver.Waiting x := by
  obtain ⟨xs, hwaited, hwaiting⟩ :=
    driver.kickAndWait_accesses (b.report (.submitted c.transfer i.word))
  rw [complete] at h
  split at h
  · next hwait =>
    cases h
    rw [hwait] at hwaited
    exact ⟨.inl (driver.kickAndWait_error _ (congrArg Prod.fst hwait)), xs, hwaited, hwaiting⟩
  · next b₁ hwait =>
    rw [hwait] at hwaited
    rw [show b₁ = _ from hwaited] at h
    cases c with
    | read position count =>
      rw [conclude] at h
      obtain ⟨hcause, ys, rfl, hcollecting⟩ := driver.collect_error _ h
      refine ⟨.inr hcause, xs ++ ys, (List.foldl_append ..).symm, ?_⟩
      rw [List.forall_mem_append]
      exact ⟨hwaiting, hcollecting⟩
    | write position data => cases h

/-! ## Refusals -/

/-- **Refusals**, for any bus, ring, doorbell, limit and call: a call is refused as too large
exactly when it transfers more than 29 words, and for want of a descriptor exactly when it does not
and all ten flags words are set. Then nothing has changed on the bus but what was reported. -/
theorem refusal_exact (driver : BlockDriver) (b : Bus κ δ) (c : Call) :
    let flags (i : Slot) := b.memory.get (driver.ring.cell i .flags)
    let done := driver.perform b c
    (∀ n, done.1 = .error (.tooLarge n) ↔ 29 < c.length ∧ n = c.length) ∧
    (done.1 = .error .ringFull ↔ c.length ≤ 29 ∧ ∀ i, flags i ≠ 0) ∧
    ((29 < c.length ∨ ∀ i, flags i ≠ 0) → done.2 = { b with journal := done.2.journal }) := by
  intro flags done
  have hparts : done = _ := driver.perform_eq b c
  by_cases hlarge : 29 < c.length
  · rw [if_pos hlarge] at hparts
    rw [hparts]
    refine ⟨fun n => ?_, ?_, fun _ => rfl⟩
    · simp [hlarge, eq_comm]
    · simp [hlarge]
  rw [if_neg hlarge] at hparts
  cases hfind : driver.ring.findFree? b.memory with
  | none =>
    have hfull : ∀ i, flags i ≠ 0 := Ring.findFree?_eq_none_iff.mp hfind
    rw [hfind] at hparts
    rw [hparts]
    refine ⟨fun n => ?_, ?_, fun _ => rfl⟩
    · simp [hlarge]
    · simp [Nat.le_of_not_lt hlarge, hfull]
  | some i =>
    have hfree : ¬ ∀ i, flags i ≠ 0 := by
      rw [← Ring.findFree?_eq_none_iff, hfind]
      exact Option.some_ne_none i
    replace hparts : done = _ := driver.perform_of_findFree? b (Nat.le_of_not_lt hlarge) hfind
    -- what goes wrong from here on is told by another error
    have hother {cause : DriverError} (h : done.1 = .error cause) :
        cause = .timeout driver.pollLimit ∨ cause = .noCompletion ∨
          ∃ refused, cause = .ring refused := by
      rw [hparts] at h
      exact (driver.complete_error _ (Prod.ext h rfl)).1
    refine ⟨fun n => ?_, ?_, fun h => absurd h (not_or.mpr ⟨hlarge, hfree⟩)⟩
    · refine ⟨fun h => ?_, fun h => absurd h.1 hlarge⟩
      obtain h | h | ⟨_, h⟩ := hother h <;> cases h
    · refine ⟨fun h => ?_, fun h => absurd h.2 hfree⟩
      obtain h | h | ⟨_, h⟩ := hother h <;> cases h

/-- A read of 65537 words, a count that is 1 as a word, and a write of one word to a ring whose
descriptors are all in use. -/
theorem refusal_exact_overlong_and_full :
    let driver := BlockDriver.standard 16
    let bare : Bus BufferConsole Device := .ofConsole (.ofInput []) .silent
    let full := bare.mapMemory (·.stores ((List.finRange ringSize).map fun i =>
      (driver.ring.cell i .flags, 1)))
    (driver.perform bare (.read 0 65537)).1 = .error (.tooLarge 65537) ∧
      (driver.perform bare (.read 0 65537)).2.memory = bare.memory ∧
      (driver.perform full (.write 0 [1])).1 = .error .ringFull ∧
      (driver.perform full (.write 0 [1])).2.memory = full.memory := by
  intro driver bare
  -- all that matters of the bus is that its memory is zeroed
  have hbare : bare.memory = .zero := rfl
  clear_value bare
  intro full
  have hset : ∀ i : Slot, full.memory.get (driver.ring.cell i .flags) ≠ 0 := by
    simp only [full, Bus.mapMemory, hbare, Memory.get_stores, Memory.get_zero]
    decide
  clear_value full
  obtain ⟨hlarge, -, hkept⟩ := refusal_exact driver bare (.read 0 65537)
  obtain ⟨-, hfull, hsame⟩ := refusal_exact driver full (.write 0 [1])
  refine ⟨(hlarge 65537).mpr ⟨by decide, rfl⟩, ?_, hfull.mpr ⟨by decide, hset⟩, ?_⟩
  · rw [hkept (.inl (by decide))]
  · rw [hsame (.inr hset)]

end BlockDriver

end LC3
