import LC3.Monitor
import LC3.Proofs.Driver.Transfer

/-!
# Sessions of a driver

A session is a list of transfers, one after the other on one bus. Every transfer leaves the ring
as it found it, so a session of any length goes as its first transfer does, and the words that
are read depend on nothing that happened before.

- `BlockDriver.Call`, `BlockDriver.session`: transfers as data, and what becomes of a list of
  them.
- `BlockDriver.Call.answer`: what a call is to return, in integers.
- `session_of_idle`: on an idle ring every call of a session returns its answer.
- `session_of_attached`: so it does on a machine that has nothing but a fresh device, wherever
  the ring lies.
-/

namespace LC3

namespace BlockDriver

/-- A transfer that the driver is asked for. -/
inductive Call where
  /-- Read so many words at a position. -/
  | read (position : Int16) (count : Nat)
  /-- Write words at a position. -/
  | write (position : Int16) (data : List Word)
  deriving DecidableEq

namespace Call

/-- A buffer can hold what is transferred. -/
def Fits : Call → Prop
  | read _ count => count ≤ maxPayload
  | write _ data => data.length ≤ maxPayload

instance (c : Call) : Decidable c.Fits :=
  match c with
  | read _ count => Nat.decLe count maxPayload
  | write _ data => Nat.decLe data.length maxPayload

/-- The words that a call is to return. The device counts from its position on, as integers do;
a write returns nothing. -/
def answer : Call → List Word
  | read position count =>
    (List.range count).map fun i : Nat => UInt16.ofInt (0x30 + position.toInt + i)
  | write .. => []

/-- What a call leaves on record at the device. -/
def record? : Call → Option WriteRecord
  | read .. => none
  | write position data => some ⟨position, data⟩

end Call

section Sessions

variable {κ δ : Type} [Console κ] [Handler δ]

/-- Carry out a call. A write that succeeds returns no words. -/
def perform (driver : BlockDriver) (b : Bus κ δ) :
    Call → Except DriverError (List Word) × Bus κ δ
  | .read position count => driver.read b position count
  | .write position data =>
    let (result, b) := driver.write b position data
    (result.map fun _ => [], b)

/-- Carry out calls one after the other: what each of them returns, and the bus after the
last. -/
def session (driver : BlockDriver) (b : Bus κ δ) :
    List Call → List (Except DriverError (List Word)) × Bus κ δ
  | [] => ([], b)
  | c :: rest =>
    let (result, b) := driver.perform b c
    let (results, b) := driver.session b rest
    (result :: results, b)

end Sessions

variable {κ : Type} [Console κ] {driver : BlockDriver} {b : Bus κ Device} {dev : BlockDevice}

theorem contents_eq_answer (position : Int16) (count : Nat) :
    BlockDevice.contents position count = (Call.read position count).answer :=
  List.map_congr_left fun i _ => BlockDevice.content_eq_ofInt position i

/-! ## One call -/

/-- **Step**: on an idle ring a call returns its answer and leaves an idle ring. -/
theorem perform_of_idle (hplaced : driver.Placed) (hfaces : driver.Faces b dev)
    (hidle : driver.ring.Idle b.memory) {c : Call} (hfits : c.Fits) :
    ∃ b' dev', driver.perform b c = (.ok c.answer, b') ∧ driver.Settled b b' dev' ∧
      dev'.lastWrite = c.record?.or dev.lastWrite := by
  cases c with
  | read position count =>
    obtain ⟨b', dev', hread, hsettled, hlast⟩ := read_of_idle hplaced hfaces hidle position hfits
    refine ⟨b', dev', ?_, hsettled, hlast⟩
    rw [← contents_eq_answer]
    exact hread
  | write position data =>
    obtain ⟨b', dev', hwrite, hsettled, hlast⟩ := write_of_idle hplaced hfaces hidle position hfits
    refine ⟨b', dev', ?_, hsettled, hlast⟩
    simp only [perform, hwrite]
    rfl

/-! ## All calls -/

/-- **Run**: on an idle ring every call of a session returns its answer. After the last one the
ring is idle, the completion code stands at the doorbell, and the device remembers the latest
write. -/
theorem session_of_idle (hplaced : driver.Placed) (hfaces : driver.Faces b dev)
    (hidle : driver.ring.Idle b.memory) {calls : List Call} (hfits : ∀ c ∈ calls, c.Fits) :
    ∃ b' dev', driver.session b calls = (calls.map fun c => .ok c.answer, b') ∧
      driver.Faces b' dev' ∧ driver.ring.Idle b'.memory ∧
      (calls ≠ [] → b'.memory.get driver.doorbell = Bus.completion) ∧
      dev'.lastWrite = (calls.filterMap Call.record?).getLast?.or dev.lastWrite := by
  -- a call leaves what the next one needs, so the induction is over the calls, for every bus
  induction calls generalizing b dev with
  | nil => exact ⟨b, dev, rfl, hfaces, hidle, fun h => absurd rfl h, rfl⟩
  | cons c rest ih =>
    rw [List.forall_mem_cons] at hfits
    obtain ⟨b₁, dev₁, hcall, hsettled, hlast₁⟩ := perform_of_idle hplaced hfaces hidle hfits.1
    obtain ⟨b', dev', hrest, hfaces', hidle', hdoorbell, hlast⟩ :=
      ih hsettled.faces hsettled.idle hfits.2
    refine ⟨b', dev', ?_, hfaces', hidle', ?_, ?_⟩
    · simp only [session, hcall, hrest, List.map_cons]
    · intro _
      by_cases hnil : rest = []
      · subst hnil
        have hsame : b' = b₁ := (congrArg Prod.snd hrest).symm
        rw [hsame]
        exact hsettled.doorbell
      · exact hdoorbell hnil
    · -- the latest write is the latest of the rest, or else the first call
      rw [hlast, hlast₁]
      cases hrecord : c.record? with
      | none => rw [List.filterMap_cons_none hrecord, Option.none_or]
      | some record =>
        rw [List.filterMap_cons_some hrecord, List.getLast?_cons]
        cases (rest.filterMap Call.record?).getLast? <;> rfl

/-! ## A fresh machine -/

/-- A driver whose ring, word by word, stays clear of its doorbell and of the keyboard status. -/
theorem placed_of_clear {base doorbell : Word} {limit : UInt32}
    (hwindow : 0x0100 ≤ doorbell ∧ doorbell ≤ 0x01FF)
    (hclear : ∀ k < 365, base + UInt16.ofNat k ≠ doorbell ∧ base + UInt16.ofNat k ≠ keyboardStatus)
    (hlimit : 1 ≤ limit) : Placed ⟨⟨base⟩, doorbell, limit⟩ where
  window := by
    show (decide (0x0100 ≤ doorbell) && decide (doorbell ≤ 0x01FF)) = true
    rw [decide_eq_true hwindow.1, decide_eq_true hwindow.2]
    rfl
  doorbell h := (hclear _ h).1 (add_distance base doorbell)
  status h := (hclear _ h).2 (add_distance base keyboardStatus)
  patient := UInt32.le_iff_toNat_le.mp hlimit

/-- **Driver and device agree over whole sessions**: on a bus that has nothing but a freshly
attached device, whatever its ring and its entry, every call of a session returns its answer;
and after each of them every descriptor is free, neither side tells the other anything, the
completion code stands at the doorbell, and the device remembers the latest write. -/
theorem session_of_attached (console : κ) (journal : Journal) (base doorbell : Word)
    (limit : UInt32) (hwindow : 0x0100 ≤ doorbell ∧ doorbell ≤ 0x01FF)
    (hclear : ∀ k < 365, base + UInt16.ofNat k ≠ doorbell ∧ base + UInt16.ofNat k ≠ keyboardStatus)
    (hlimit : 1 ≤ limit) (calls : List Call) (hfits : ∀ c ∈ calls, c.Fits) :
    let driver : BlockDriver := ⟨⟨base⟩, doorbell, limit⟩
    let start : Bus κ Device :=
      (Bus.ofConsole console journal).attachBlock { ring := ⟨base⟩, vector := doorbell }
    (driver.session start calls).1 = (calls.map fun c => .ok c.answer) ∧
      ∀ past, past <+: calls → past ≠ [] →
        let b := (driver.session start past).2
        (∀ i, driver.ring.isAllocated b.memory i = false) ∧
          (driver.ring.avail b.memory).flags = 0 ∧ (driver.ring.used b.memory).flags = 0 ∧
          b.memory.get doorbell = 0x0002 ∧
          ∃ dev, b.devices = [.block dev] ∧
            dev.lastWrite = (past.filterMap Call.record?).getLast? := by
  intro driver start
  have hplaced : driver.Placed := placed_of_clear hwindow hclear hlimit
  have hfaces : driver.Faces start { ring := ⟨base⟩, vector := doorbell } := ⟨rfl, rfl, rfl⟩
  have hidle : driver.ring.Idle start.memory := driver.ring.idle_init .zero
  constructor
  · obtain ⟨b', dev', hrun, -⟩ := session_of_idle hplaced hfaces hidle hfits
    rw [hrun]
  · -- what has happened so far is a session of its own
    intro past hpast hne b
    have hfits' : ∀ c ∈ past, c.Fits := fun c hc => hfits c (hpast.subset hc)
    obtain ⟨b', dev', hrun, hfaces', hidle', hdoorbell, hlast⟩ :=
      session_of_idle hplaced hfaces hidle hfits'
    have hb : b = b' := congrArg Prod.snd hrun
    rw [hb]
    refine ⟨hidle'.isAllocated, hidle'.avail, hidle'.used, hdoorbell hne, dev', hfaces'.devices, ?_⟩
    rw [hlast]
    exact Option.or_none

/-- A session of two writes and a read between them, on a ring that wraps at the ceiling. -/
theorem session_of_attached_wrapping :
    let calls : List Call := [.write 4 [1, 2], .read (-3) 2, .write 9 [7]]
    let driver : BlockDriver := ⟨⟨0xFF00⟩, 0x01F0, 1⟩
    let start : Bus BufferConsole Device :=
      (Bus.ofConsole (.ofInput []) .silent).attachBlock { ring := ⟨0xFF00⟩, vector := 0x01F0 }
    (driver.session start calls).1 = [.ok [], .ok [0x2D, 0x2E], .ok []] ∧
      (driver.session start calls).2.memory.get 0x01F0 = 0x0002 ∧
      ∃ dev, (driver.session start calls).2.devices = [.block dev] ∧
        dev.lastWrite = some ⟨9, [7]⟩ := by
  have h := session_of_attached (BufferConsole.ofInput []) .silent 0xFF00 0x01F0 1 (by decide)
    (by decide +kernel) (by decide) [.write 4 [1, 2], .read (-3) 2, .write 9 [7]] (by decide)
  obtain ⟨hresults, hpast⟩ := h
  obtain ⟨-, -, -, hdoorbell, dev, hdevices, hlast⟩ := hpast _ List.prefix_rfl (by decide)
  exact ⟨hresults, hdoorbell, dev, hdevices, hlast⟩

end BlockDriver

end LC3
