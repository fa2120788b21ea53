import LC3.Proofs.Block.Effect
import LC3.Proofs.Driver.Guest
import LC3.Proofs.Memory.Stores
import LC3.Proofs.Monitor.Instruction

/-!
# Isolation of the block device

The block device writes where memory tells it to, and a program may write to most of that
memory. What keeps the device in its ring are the address words of the ten descriptors alone:
as long as a program does not store there, it may fill the rest of the ring with anything.

- `Monitor.Standard`: the only device is the standard block device, in any state.
- `Monitor.after`: a machine after a number of steps, whatever came of them.
- `Monitor.isolated_step`, `Monitor.isolated_after`: what a step keeps, and a run.
- `spoilingProgram`, `Monitor.Spoiling`: a program that makes the most of what it may store to, and
  how far it has come. `Monitor.service_spoilt`: the device cuts what it is asked for to the buffer.
  `Monitor.spoiling_run`: it answers the program and does it no harm.
- `Monitor.isolated`: in a run of any length the address words keep their values, and no word
  beyond the ring, the doorbell and the keyboard registers changes but by a store of the program.
-/

namespace LC3

namespace Ring

/-- The descriptors of the standard ring have their own buffers. -/
theorem intact_standard {m : Memory} :
    standard.Intact m ↔ ∀ i : Slot, m.get (0x8000 + 4 * i.word) = 0x802C + 32 * i.word := by
  apply forall_congr'
  intro i
  rw [← cell_addr_standard, ← buffer_standard]
  rfl

end Ring

namespace BlockDriver

/-- The standard driver is placed well, if only it looks for the completion code at all. -/
theorem placed_standard {pollLimit : UInt32} (h : 1 ≤ pollLimit) :
    (standard pollLimit).Placed where
  window := by
    show inInterruptWindow defaultDoorbell = true
    decide
  doorbell := by
    show ¬ Ring.standard.Within defaultDoorbell
    decide
  status := by
    show ¬ Ring.standard.Within keyboardStatus
    decide
  patient := UInt32.le_iff_toNat_le.mp h

theorem unkeyed_standard (pollLimit : UInt32) : (standard pollLimit).Unkeyed := by
  have hstatus : ¬ Ring.standard.Within keyboardStatus := by decide
  have hdata : ¬ Ring.standard.Within keyboardData := by decide
  intro a ha
  constructor
  · rintro rfl
    exact hstatus ha
  · rintro rfl
    exact hdata ha

end BlockDriver

namespace Monitor

variable {κ : Type}

/-- The only device of the machine is the block device with the standard ring and entry. What
the device has counted and recorded is not restricted. -/
def Standard (v : Monitor κ) : Prop :=
  ∃ dev, v.bus.devices = [.block dev] ∧ dev.ring = .standard ∧ dev.vector = defaultDoorbell

theorem standard_iff {v : Monitor κ} (pollLimit : UInt32) :
    v.Standard ↔ ∃ dev, (BlockDriver.standard pollLimit).Faces v.bus dev := by
  constructor
  · rintro ⟨dev, hdevices, hring, hvector⟩
    exact ⟨dev, hdevices, hring, hvector⟩
  · rintro ⟨dev, hfaces⟩
    exact ⟨dev, hfaces.devices, hfaces.ring, hfaces.vector⟩

variable [Console κ]

/-- The effective address and the value of the store that the next step executes. -/
def store? (v : Monitor κ) : Option (Word × Word) := v.cpu.store? v.bus

/-- The machine after `n` steps. Steps that fail and steps of a machine that has stopped
count. -/
def after (v : Monitor κ) : Nat → Monitor κ
  | 0 => v
  | n + 1 => (v.after n).step.2

theorem after_add (v : Monitor κ) (m n : Nat) : v.after (m + n) = (v.after m).after n := by
  induction n with
  | zero => rfl
  | succ n ih => exact congrArg (·.step.2) ih

/-- **Step**: the properties of a machine that isolate its device are kept. -/
theorem isolated_step {v : Monitor κ} (hstandard : v.Standard)
    (hintact : Ring.standard.Intact v.bus.memory)
    (hstores : ∀ a value, v.store? = some (a, value) → ∀ i, a ≠ Ring.standard.cell i .addr) :
    v.step.2.Standard ∧ Ring.standard.Intact v.step.2.bus.memory ∧
      ∀ a, ¬ Ring.standard.Within a → a ≠ defaultDoorbell → a ≠ keyboardStatus →
        a ≠ keyboardData → v.step.2.bus.memory.get a ≠ v.bus.memory.get a →
        ∃ value, v.store? = some (a, value) ∧ v.step.2.bus.memory.get a = value := by
  -- the host makes no transfers here, so any driver will do, however impatient
  have hplaced := BlockDriver.placed_standard (show (1 : UInt32) ≤ 1 by decide)
  obtain ⟨dev, hfaces⟩ := (standard_iff 1).mp hstandard
  have hnext := BlockDriver.faces_step hplaced hfaces v.cpu
  obtain ⟨hkept, hchange⟩ := BlockDriver.intact_step hplaced (BlockDriver.unkeyed_standard 1)
    hfaces hintact hstores
  exact ⟨(standard_iff 1).mpr hnext, hkept,
    fun a hring hbell hstatus hdata => hchange a ⟨hring, hbell⟩ ⟨hstatus, hdata⟩⟩

/-- **Run**: as long as no step stores to an address word of a descriptor. -/
theorem isolated_after {v : Monitor κ} (hstandard : v.Standard)
    (hintact : Ring.standard.Intact v.bus.memory) {n : Nat}
    (hstores : ∀ k < n, ∀ a value, (v.after k).store? = some (a, value) →
      ∀ i, a ≠ Ring.standard.cell i .addr) :
    (v.after n).Standard ∧ Ring.standard.Intact (v.after n).bus.memory := by
  induction n with
  | zero => exact ⟨hstandard, hintact⟩
  | succ n ih =>
    obtain ⟨hstandard', hintact'⟩ := ih fun k hk => hstores k (Nat.lt_succ_of_lt hk)
    obtain ⟨hs, hi, -⟩ := isolated_step hstandard' hintact' (hstores n (Nat.lt_succ_self n))
    exact ⟨hs, hi⟩

/-! ## A program that spoils the ring -/

/-- The store that the next instruction executes. -/
theorem Next.store? {v : Monitor κ} {i : Instruction} (h : v.Next i) : v.store? =
    i.store? { v.cpu.regs with pc := v.cpu.regs.pc + 1 } v.bus := by
  have hread := v.bus.read_of_ne h.unpolled
  rw [Monitor.store?, Cpu.store?_of_running h.running, Cpu.fetched, hread, h.decode]
  split
  · exact Instruction.store?_report ..
  · rfl

/-- Give descriptor 0 and its request the greatest length, ask for a read, take the descriptor,
announce it and ring the device; then write a byte and stop. Two values and six pointers follow the
instructions. -/
def spoilingProgram : List Word :=
  [0x2009, 0x2209, 0xB009, 0xB009, 0xB209, 0xB009, 0xB209, 0xB209, 0xF021, 0xF025,
    0xFFFF, 0x0001, 0x8001, 0x802E, 0x802C, 0x8002, 0x8028, 0x0100]

/-- The stores of the program: a register, an address, and the value that goes there. -/
def spoil (k : Fin 6) : Reg × Word × Word :=
  [(Reg.ofNat 0, 0x8001, 0xFFFF), (Reg.ofNat 0, 0x802E, 0xFFFF), (Reg.ofNat 1, 0x802C, 0x0001),
    (Reg.ofNat 0, 0x8002, 0xFFFF), (Reg.ofNat 1, 0x8028, 0x0001),
    (Reg.ofNat 1, 0x0100, 0x0001)].get k

/-- The stores ahead of the doorbell. -/
def spoils : List (Word × Word) := (List.finRange 5).map fun k => (spoil k.castSucc).2

/-- The instructions of the program behind its two loads, with their pointers. -/
theorem decode_spoils : ∀ k : Fin 6,
    Instruction.decode (spoilingProgram.getD (k + 2) 0) = .sti (spoil k).1 9 ∧
      spoilingProgram.getD (k + 12) 0 = (spoil k).2.1 := by decide

/-- No store of the program goes to the address word of a descriptor. -/
theorem spoil_apart : ∀ (k : Fin 6) (i : Slot), (spoil k).2.1 ≠ Ring.standard.cell i .addr := by
  decide

/-- What the program has made of descriptor 0, its request and the announcement, and what it has
left of them. -/
theorem get_spoils (m : Memory) :
    ((m.stores spoils).get 0x8001 = 0xFFFF ∧ (m.stores spoils).get 0x8002 = 0xFFFF ∧
      (m.stores spoils).get 0x802C = 1 ∧ (m.stores spoils).get 0x802E = 0xFFFF ∧
      (m.stores spoils).get 0x8028 = 1) ∧
      (m.stores spoils).get 0x8000 = m.get 0x8000 ∧ (m.stores spoils).get 0x8029 = m.get 0x8029 ∧
      (m.stores spoils).get 0x802D = m.get 0x802D := by
  simp only [Memory.get_stores]
  exact ⟨⟨rfl, rfl, rfl, rfl, rfl⟩, rfl, rfl, rfl⟩

/-- What the device finds, when the ring was laid out and no request was in buffer 0 before. -/
theorem get_spoilt {m : Memory} (haddr : m.get 0x8000 = 0x802C) (hidx : m.get 0x8029 = 0)
    (hposition : m.get 0x802D = 0) (value : Word) :
    let n := (m.stores spoils).set 0x0100 value
    Ring.standard.avail n = ⟨1, 0⟩ ∧
      Ring.standard.descriptor n 0 = ⟨0x802C, 0xFFFF, 0xFFFF, n.get 0x8003⟩ ∧
      Request.load n 0x802C = ⟨.read, 0, 0xFFFF⟩ := by
  intro n
  have hkept : ∀ a ≠ (0x0100 : Word), n.get a = (m.stores spoils).get a :=
    fun a ha => Memory.get_set_other ha
  obtain ⟨⟨hlen, hflags, hop, hlength, havail⟩, haddr', hidx', hposition'⟩ := get_spoils m
  rw [← hkept _ (by decide)] at hlen hflags hop hlength havail haddr' hidx' hposition'
  refine ⟨?_, ?_, ?_⟩
  · show Notice.mk (n.get 0x8028) (n.get 0x8029) = _
    rw [havail, hidx', hidx]
  · show Descriptor.mk (n.get 0x8000) (n.get 0x8001) (n.get 0x8002) (n.get 0x8003) = _
    rw [haddr', haddr, hlen, hflags]
  · show Request.mk (.ofWord (n.get 0x802C)) (n.get 0x802D).toInt16 (n.get 0x802E) = _
    rw [hop, hposition', hposition, hlength]
    rfl

/-- What is left of the ring is still a request to read. The device serves it: it fills buffer 0
up to its last word, however much it is asked for, and announces the descriptor. -/
theorem service_spoilt {dev : BlockDevice} (hring : dev.ring = .standard) {m : Memory}
    (haddr : m.get 0x8000 = 0x802C) (hidx : m.get 0x8029 = 0) (hposition : m.get 0x802D = 0) :
    let reply := dev.service ((m.stores spoils).set 0x0100 1) 1
    reply.memory.get 0x804B = 0x4C ∧ reply.memory.get 0x802A = 1 := by
  intro reply
  obtain ⟨hannounced, hdescriptor, hrequest⟩ := get_spoilt haddr hidx hposition 1
  rw [← hring] at hannounced hdescriptor
  obtain ⟨-, hused, -, -, hfilled⟩ := dev.read_effect (i := 0)
    (show (1 : Word).toNat % 2 = 1 by decide) (by rw [hannounced]; decide) (by rw [hannounced]; rfl)
    (by rw [hdescriptor]; exact (by decide : (0xFFFF : Word) ≠ 0))
    (by rw [hdescriptor, hring]; exact Ring.clear_buffer .standard 0)
    (by rw [hdescriptor, hrequest])
  have hlast := hfilled 31 (by decide)
  simp only [hdescriptor, hrequest] at hlast
  rw [hring] at hused
  exact ⟨hlast.trans (if_pos (by decide)), congrArg Notice.flags hused⟩

/-- A machine runs the program, has come to the address `pc` in it and holds its two values. -/
structure Spoiling (v : Monitor κ) (pc : Word) (console : κ) : Prop where
  /-- The machine runs. -/
  running : v.cpu.state = .running
  /-- It goes on at `pc`. -/
  pc : v.cpu.regs.pc = pc
  /-- The program is in memory. -/
  code : v.bus.memory.readSlice 0x3000 18 = spoilingProgram
  /-- The registers hold what is to be stored. -/
  values : ∀ k, v.cpu.regs.get (spoil k).1 = (spoil k).2.2
  /-- The console is the one given. -/
  console : v.bus.console = console

namespace Spoiling

/-- A store elsewhere leaves the program. -/
theorem code_set {m : Memory} (h : m.readSlice 0x3000 18 = spoilingProgram) {a : Word}
    (ha : ¬ (0x3000 ≤ a ∧ a ≤ 0x3011)) (value : Word) :
    (m.set a value).readSlice 0x3000 18 = spoilingProgram := by
  rw [← h]
  exact Memory.SameOn.readSlice_eq (.set (S := fun a => 0x3000 ≤ a ∧ a ≤ 0x3011) ha value)
    (by decide)

variable {v : Monitor κ} {console : κ}

omit [Console κ] in
theorem next {pc : Word} {i : Instruction} (h : v.Spoiling pc console) (hpc : pc ≠ keyboardStatus)
    (hdecode : Instruction.decode (v.bus.memory.get pc) = i) : v.Next i := by
  obtain ⟨hrun, rfl, -, -, -⟩ := h
  exact ⟨hrun, hpc, hdecode⟩

/-- **A store** of the program goes to where its pointer leads. -/
theorem sti {k : Fin 6} (h : v.Spoiling (0x3002 + UInt16.ofNat k) console) :
    v.store? = some (spoil k).2 ∧ ∃ journal, v.step = (.ok .retired,
      { v with
        cpu := { v.cpu with
          regs := { v.cpu.regs with pc := 0x3003 + UInt16.ofNat k }, steps := v.cpu.steps + 1 }
        bus := { v.bus with journal }.write (spoil k).2.1 (spoil k).2.2 }) := by
  have hplace : ∀ k : Fin 6, (0x3002 + UInt16.ofNat k : Word) = 0x3000 + UInt16.ofNat (k + 2) ∧
      (0x3002 + UInt16.ofNat k + 1 : Word) = 0x3003 + UInt16.ofNat k ∧
      (0x3003 + UInt16.ofNat k + 9 : Word) = 0x3000 + UInt16.ofNat (k + 12) ∧
      (0x3002 + UInt16.ofNat k : Word) ≠ keyboardStatus ∧
      (0x3003 + UInt16.ofNat k + 9 : Word) ≠ keyboardStatus := by decide
  obtain ⟨hpc, hafter, hpointer, hfetch, hload⟩ := hplace k
  obtain ⟨hdecode, htarget⟩ := decode_spoils k
  have hword := Memory.get_of_readSlice h.code (k := k + 2) (by omega)
  have haddress := Memory.get_of_readSlice h.code (k := k + 12) (by omega)
  rw [← hpc] at hword
  rw [← hpointer, htarget] at haddress
  have hnext : v.Next (.sti (spoil k).1 9) := h.next hfetch (by rw [hword, hdecode])
  have hstep := hnext.sti (by rwa [h.pc, hafter])
  rw [h.pc, hafter, haddress, h.values k] at hstep
  refine ⟨?_, hstep⟩
  rw [hnext.store?, h.pc, hafter]
  show some ((v.bus.read (0x3003 + UInt16.ofNat k + 9)).1, v.cpu.regs.get (spoil k).1) = _
  rw [Bus.read_of_ne v.bus hload, haddress, h.values k]

/-- **Step**: the program spoils one word after the other. -/
theorem step {k : Fin 5} (h : v.Spoiling (0x3002 + UInt16.ofNat k) console) :
    v.step.2.Spoiling (0x3002 + UInt16.ofNat (k + 1)) console ∧
      v.step.2.bus.memory = v.bus.memory.set (spoil k.castSucc).2.1 (spoil k.castSucc).2.2 := by
  have hplace : ∀ k : Fin 5, (0x3003 + UInt16.ofNat k : Word) = 0x3002 + UInt16.ofNat (k + 1) ∧
      inInterruptWindow (spoil k.castSucc).2.1 = false ∧
      ¬ (0x3000 ≤ (spoil k.castSucc).2.1 ∧ (spoil k.castSucc).2.1 ≤ 0x3011) := by decide
  obtain ⟨hpc, hwindow, hcode⟩ := hplace k
  obtain ⟨-, journal, hstep⟩ := sti (k := k.castSucc) h
  rw [Bus.write_of_outside _ hwindow] at hstep
  rw [hstep]
  exact ⟨⟨h.running, hpc, code_set h.code hcode _, h.values, h.console⟩, rfl⟩

/-- **Run**: the five stores ahead of the doorbell. -/
theorem after {n : Nat} (h : (v.after n).Spoiling 0x3002 console) {k : Nat} (hk : k ≤ 5) :
    (v.after (n + k)).Spoiling (0x3002 + UInt16.ofNat k) console ∧
      (v.after (n + k)).bus.memory = (v.after n).bus.memory.stores (spoils.take k) := by
  induction k with
  | zero => exact ⟨h, rfl⟩
  | succ k ih =>
    obtain ⟨hspoiling, hmemory⟩ := ih (by omega)
    obtain ⟨hnext, hset⟩ := step (k := ⟨k, by omega⟩) hspoiling
    refine ⟨hnext, hset.trans ?_⟩
    have htake : ∀ k : Fin 5, spoils.take (k + 1) = spoils.take k ++ [(spoil k.castSucc).2] := by
      decide
    rw [hmemory, htake ⟨k, by omega⟩, Memory.stores_append]
    rfl

/-- **The doorbell**: the device looks at the memory and answers, and the program goes on. -/
theorem ring (h : v.Spoiling 0x3007 console) (hstandard : v.Standard)
    (hintact : Ring.standard.Intact v.bus.memory) :
    v.step.2.Spoiling 0x3008 console ∧ v.step.2.bus.memory.get 0x0100 = Bus.completion ∧
      ∃ dev : BlockDevice, dev.ring = .standard ∧ ∀ a ≠ (0x0100 : Word),
        v.step.2.bus.memory.get a =
          (dev.service (v.bus.memory.set 0x0100 1) 1).memory.get a := by
  obtain ⟨-, journal, hstep⟩ := sti (k := 5) h
  have hplaced := BlockDriver.placed_standard (show (1 : UInt32) ≤ 1 by decide)
  obtain ⟨dev, hfaces⟩ := (standard_iff 1).mp hstandard
  have hreported : (BlockDriver.standard 1).Faces { v.bus with journal } dev :=
    ⟨hfaces.devices, hfaces.ring, hfaces.vector⟩
  have hodd : (1 : Word).toNat % 2 = 1 := by decide
  obtain ⟨hanswer, hsame, hconsole⟩ :=
    BlockDriver.rung_of_intact hplaced hreported hintact hodd
  have hmemory := hreported.memory_of_ring hplaced hodd
  have hcode : ∀ i < 18, ¬ Ring.standard.Within (0x3000 + UInt16.ofNat i) ∧
      0x3000 + UInt16.ofNat i ≠ defaultDoorbell := by decide
  rw [hstep]
  exact ⟨⟨h.running, rfl, (hsame.readSlice_eq hcode).trans h.code, h.values,
    hconsole.trans h.console⟩, hanswer, dev, hfaces.ring,
    fun a ha => (congrArg (·.get a) hmemory).trans (Memory.get_set_other ha)⟩

end Spoiling

/-- A machine that has come to the first word of the program loads what is to be stored. -/
theorem spoiling_after_loads {v : Monitor κ} (hrun : v.cpu.state = .running)
    (hpc : v.cpu.regs.pc = 0x3000) (hcode : v.bus.memory.readSlice 0x3000 18 = spoilingProgram) :
    v.store? = none ∧ (v.after 1).store? = none ∧
      (v.after 2).Spoiling 0x3002 v.bus.console ∧ (v.after 2).bus.memory = v.bus.memory := by
  have hword (k : Fin 18) : v.bus.memory.get (0x3000 + UInt16.ofNat k) = spoilingProgram.getD k 0 :=
    Memory.get_of_readSlice hcode k.isLt
  have hfirst : v.Next (.ld 0 9) :=
    ⟨hrun, by rw [hpc]; decide, by rw [hpc]; exact (congrArg _ (hword 0)).trans (by decide)⟩
  obtain ⟨u, hu, huregs⟩ := hfirst.ld (by rw [hpc]; decide)
  have hsecond : u.Next (.ld 1 9) := by
    refine ⟨hu.running, ?_, ?_⟩
    · rw [hu.pc, hpc]
      decide
    · rw [hu.pc, hpc, hu.memory]
      exact (congrArg _ (hword 1)).trans (by decide)
  obtain ⟨w, hw, hwregs⟩ := hsecond.ld (by rw [hu.pc, hpc]; decide)
  obtain rfl : v.after 1 = u := congrArg Prod.snd hu.retired
  obtain rfl : v.after 2 = w := congrArg Prod.snd hw.retired
  refine ⟨hfirst.store?, hsecond.store?, ?_, by rw [hw.memory, hu.memory]⟩
  refine ⟨hw.running, ?_, ?_, ?_, ?_⟩
  · rw [hw.pc, hu.pc, hpc]
    decide
  · rw [hw.memory, hu.memory, hcode]
  · have hvalues : ∀ k, (spoil k).1 = 0 ∧ (spoil k).2.2 = 0xFFFF ∨
        (spoil k).1 = 1 ∧ (spoil k).2.2 = 1 := by decide
    intro k
    obtain ⟨hr, hvalue⟩ | ⟨hr, hvalue⟩ := hvalues k
    · rw [hr, hvalue, hwregs, if_neg (by decide), huregs, if_pos rfl, hpc]
      exact hword 10
    · rw [hr, hvalue, hwregs, if_pos rfl, hu.pc, hu.memory, hpc]
      exact hword 11
  · rw [hw.console, hu.console]

/-- **The stores** of a machine that has come to the first word of the program, up to the
doorbell. -/
theorem spoiling_stores {v : Monitor κ} (hrun : v.cpu.state = .running)
    (hpc : v.cpu.regs.pc = 0x3000) (hcode : v.bus.memory.readSlice 0x3000 18 = spoilingProgram) :
    (∀ k < 8, ∀ a value, (v.after k).store? = some (a, value) →
      ∀ i, a ≠ Ring.standard.cell i .addr) ∧
      (v.after 7).Spoiling 0x3007 v.bus.console ∧
      (v.after 7).bus.memory = v.bus.memory.stores spoils := by
  obtain ⟨hfirst, hsecond, hloaded, hmemory⟩ := spoiling_after_loads hrun hpc hcode
  refine ⟨fun k hk a value h i => ?_, (hloaded.after (Nat.le_refl 5)).1, ?_⟩
  · obtain rfl | rfl | ⟨j, rfl⟩ : k = 0 ∨ k = 1 ∨ ∃ j, k = 2 + j := by
      rcases k with _ | _ | j
      · exact .inl rfl
      · exact .inr (.inl rfl)
      · exact .inr (.inr ⟨j, by omega⟩)
    · cases hfirst.symm.trans h
    · cases hsecond.symm.trans h
    · have hspoiling := (hloaded.after (show j ≤ 5 by omega)).1
      have hj := (Spoiling.sti (k := ⟨j, by omega⟩) hspoiling).1
      have ha : (spoil ⟨j, by omega⟩).2.1 = a :=
        congrArg Prod.fst (Option.some.inj (hj.symm.trans h))
      rw [← ha]
      exact spoil_apart _ i
  · rw [← hmemory]
    exact (hloaded.after (Nat.le_refl 5)).2

/-- Behind the doorbell the program writes its byte and stops. -/
theorem Spoiling.finish {v : Monitor BufferConsole} {console : BufferConsole}
    (h : v.Spoiling 0x3008 console) :
    (v.after 1).step.1 = .ok (.stopped .halted) ∧
      (v.after 2).bus.console = console.put [0xFF] := by
  have hout : v.Next (.trap 0x21) := by
    have hword := Memory.get_of_readSlice h.code (show 8 < 18 by decide)
    exact h.next (by decide) ((congrArg _ hword).trans (by decide))
  obtain ⟨w, hw⟩ := hout.out
  have hr0 : v.cpu.regs.get Reg.r0 = 0xFFFF := h.values 0
  rw [h.pc, h.console, hr0] at hw
  have hhalt : w.Next (.trap 0x25) := by
    refine ⟨hw.running, ?_, ?_⟩
    · rw [hw.pc]
      decide
    · have hword := Memory.get_of_readSlice h.code (show 9 < 18 by decide)
      rw [hw.pc, hw.memory]
      exact (congrArg _ hword).trans (by decide)
  obtain ⟨x, hstop, hkept, -⟩ := hhalt.halt
  obtain rfl : v.after 1 = w := congrArg Prod.snd hw.retired
  obtain rfl : v.after 2 = x := congrArg Prod.snd hstop
  exact ⟨congrArg Prod.fst hstop, hkept.trans hw.console⟩

/-- **The run**: beside an isolated device the program spoils the ring, rings the device, writes its
byte and stops. -/
theorem spoiling_run {v : Monitor BufferConsole} (hstandard : v.Standard)
    (hintact : Ring.standard.Intact v.bus.memory) (hrun : v.cpu.state = .running)
    (hpc : v.cpu.regs.pc = 0x3000) (hcode : v.bus.memory.readSlice 0x3000 18 = spoilingProgram) :
    (v.after 7).store? = some (0x0100, 1) ∧
      (v.after 8).bus.memory.get 0x0100 = Bus.completion ∧
      (∃ dev : BlockDevice, dev.ring = .standard ∧ ∀ a ≠ (0x0100 : Word),
        (v.after 8).bus.memory.get a =
          (dev.service ((v.bus.memory.stores spoils).set 0x0100 1) 1).memory.get a) ∧
      (v.after 9).step.1 = .ok (.stopped .halted) ∧
      (v.after 10).bus.console = v.bus.console.put [0xFF] := by
  obtain ⟨hstores, hspoiled, hmemory⟩ := spoiling_stores hrun hpc hcode
  -- no store so far has harmed an address word, so the device stays in its ring
  obtain ⟨hs, hi⟩ := isolated_after hstandard hintact (n := 7) fun k hk => hstores k (by omega)
  obtain ⟨hrung, hanswer, dev, hring, hserved⟩ := hspoiled.ring hs hi
  rw [hmemory] at hserved
  have hnext : (v.after 7).step.2 = v.after 8 := rfl
  rw [hnext] at hrung hanswer hserved
  obtain ⟨hstop, hconsole⟩ := hrung.finish
  rw [← after_add] at hstop hconsole
  exact ⟨(Spoiling.sti (k := 5) hspoiled).1, hanswer, ⟨dev, hring, hserved⟩, hstop, hconsole⟩

omit [Console κ] in
/-- The program in the memory of a fresh machine. The ring has been laid out, and no request is in
its first buffer. -/
theorem spoiling_loaded (config : Config) (console : κ) (journal : Journal) :
    let v := ((start config console journal).loadWords 0x3000 spoilingProgram).2
    Ring.standard.Intact v.bus.memory ∧
      v.bus.memory.readSlice 0x3000 18 = spoilingProgram ∧
      v.bus.memory.get 0x8029 = 0 ∧ v.bus.memory.get 0x802D = 0 := by
  intro v
  have hmemory : v.bus.memory = (Ring.standard.init .zero).writeSlice 0x3000 spoilingProgram := by
    show ((Ring.standard.init .zero).loadAt 0x3000 spoilingProgram).1 = _
    rw [Memory.loadAt_eq, List.take_of_length_le (by decide)]
  rw [hmemory]
  have hapart : ∀ a : Word, 0x7FFF ≤ a → spoilingProgram.length ≤ distance 0x3000 a := by
    intro a ha
    rw [UInt16.le_iff_toNat_le] at ha
    have hbelow := a.toNat_lt
    have hlength : spoilingProgram.length = 18 := rfl
    rw [hlength, distance, UInt16.toNat_sub]
    simp only [UInt16.reduceToNat] at ha ⊢
    omega
  have hsame : (Ring.standard.init .zero).SameOn (fun a => 0x7FFF ≤ a)
      ((Ring.standard.init .zero).writeSlice 0x3000 spoilingProgram) := .writeSlice hapart
  have hheader := hsame.mono fun a ha => (Ring.inHeader_standard.mp ha).1
  have hidx (m : Memory) : m.get 0x8029 = (Ring.standard.avail m).idx := rfl
  refine ⟨((Ring.standard.idle_init .zero).congr hheader).intact,
    Memory.readSlice_writeSlice _ _ spoilingProgram (by decide), ?_, ?_⟩
  · rw [hsame 0x8029 (by decide), hidx, Ring.avail_init]
  · exact (hsame 0x802D (by decide)).trans
      ((Ring.standard.sameOn_init .zero 0x802D (by decide)).trans (Memory.get_zero _))

/-- **The device is isolated from programs**: when the ten address words hold the addresses of
their buffers and no store of a run has one of them as its effective address, then they keep
their values through the run, and a step changes a word beyond the ring, the doorbell and the
keyboard registers only by storing to that very address, which then holds the stored value. -/
theorem isolated (v : Monitor κ) (hstandard : v.Standard)
    (hbuffers : ∀ i : Slot, v.bus.memory.get (0x8000 + 4 * i.word) = 0x802C + 32 * i.word)
    (n : Nat)
    (hstores : ∀ k < n, ∀ a value, (v.after k).store? = some (a, value) →
      ∀ i : Slot, a ≠ 0x8000 + 4 * i.word) :
    (∀ k ≤ n, ∀ i : Slot,
      (v.after k).bus.memory.get (0x8000 + 4 * i.word) = v.bus.memory.get (0x8000 + 4 * i.word)) ∧
      ∀ k < n, ∀ a, ¬ (0x7FFF ≤ a ∧ a ≤ 0x816B) → a ≠ 0x0100 → a ≠ keyboardStatus →
        a ≠ keyboardData →
        (v.after (k + 1)).bus.memory.get a ≠ (v.after k).bus.memory.get a →
        ∃ value, (v.after k).store? = some (a, value) ∧
          (v.after (k + 1)).bus.memory.get a = value := by
  have hintact := Ring.intact_standard.mpr hbuffers
  simp only [← Ring.cell_addr_standard] at hstores
  have hrun : ∀ k ≤ n, (v.after k).Standard ∧ Ring.standard.Intact (v.after k).bus.memory :=
    fun k hk => isolated_after hstandard hintact fun j hj => hstores j (Nat.lt_of_lt_of_le hj hk)
  constructor
  · intro k hk i
    rw [hbuffers, Ring.intact_standard.mp (hrun k hk).2]
  · intro k hk a hring hbell hstatus hdata hchanged
    obtain ⟨hs, hi⟩ := hrun k (Nat.le_of_lt hk)
    obtain ⟨-, -, hstep⟩ := isolated_step hs hi (hstores k hk)
    exact hstep a (fun h => hring (Ring.within_standard.mp h)) hbell hstatus hdata hchanged

/-- A program gives descriptor 0 and its request the greatest length and rings the device over them.
The device reads 29 words into buffer 0, up to its last one, and answers; all that changes beyond
the ring is what the program stores. -/
theorem isolated_of_spoiled_ring :
    let v := ((start {} (BufferConsole.ofInput []) .silent).loadWords 0x3000 spoilingProgram).2
    (v.after 7).store? = some (0x0100, 1) ∧
      (v.after 7).bus.memory.get 0x8001 = 0xFFFF ∧ (v.after 7).bus.memory.get 0x8002 = 0xFFFF ∧
      (v.after 7).bus.memory.get 0x802C = 1 ∧ (v.after 7).bus.memory.get 0x802E = 0xFFFF ∧
      (v.after 7).bus.memory.get 0x8028 = 1 ∧
      (v.after 8).bus.memory.get 0x804B = 0x4C ∧ (v.after 8).bus.memory.get 0x802A = 1 ∧
      (v.after 8).bus.memory.get 0x0100 = 2 ∧
      (∀ k ≤ 8, ∀ i : Slot, (v.after k).bus.memory.get (0x8000 + 4 * i.word) =
        v.bus.memory.get (0x8000 + 4 * i.word)) ∧
      ∀ k < 8, ∀ a, ¬ (0x7FFF ≤ a ∧ a ≤ 0x816B) → a ≠ 0x0100 → a ≠ keyboardStatus →
        a ≠ keyboardData →
        (v.after (k + 1)).bus.memory.get a ≠ (v.after k).bus.memory.get a →
        ∃ value, (v.after k).store? = some (a, value) ∧
          (v.after (k + 1)).bus.memory.get a = value := by
  intro v
  obtain ⟨hintact, hcode, hidx, hposition⟩ :=
    spoiling_loaded {} (BufferConsole.ofInput []) .silent
  have hstandard : v.Standard := ⟨.standard, rfl, rfl, rfl⟩
  have hbuffers := Ring.intact_standard.mp hintact
  obtain ⟨hstores, -, hmemory⟩ := spoiling_stores (v := v) rfl rfl hcode
  obtain ⟨hbell, hanswer, ⟨dev, hring, hserved⟩, -⟩ :=
    spoiling_run hstandard hintact rfl rfl hcode
  obtain ⟨hfilled, hused⟩ := service_spoilt hring (hbuffers 0) hidx hposition
  rw [← hserved _ (by decide)] at hfilled hused
  obtain ⟨⟨hlen, hflags, hop, hlength, havail⟩, -⟩ := get_spoils v.bus.memory
  rw [← hmemory] at hlen hflags hop hlength havail
  refine ⟨hbell, hlen, hflags, hop, hlength, havail, hfilled, hused, hanswer,
    isolated v hstandard hbuffers 8 fun k hk a value h i => ?_⟩
  rw [← Ring.cell_addr_standard]
  exact hstores k hk a value h i

end Monitor

end LC3
