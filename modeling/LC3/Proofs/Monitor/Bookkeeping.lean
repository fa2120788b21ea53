import LC3.Proofs.Bus.Access
import LC3.Proofs.Cpu.Likeness
import LC3.Proofs.Monitor.Isolation

/-!
# Bookkeeping is not observed

The machine keeps books: the processor counts its steps and notes what stopped it, the devices count
what they met and remember the latest write, and the bus counts the events that were answered. None
of it is ever looked at again, so a program runs the same whatever the books say.

- `BlockDevice.blank`, `Device.blank`: a device without its books.
- `service_blank`, `handle_blank`: what a device does with an event does not depend on its books.
- `Bus.Alike`: buses that differ in the books alone. They answer every access alike
  (`likeness_alike`).
- `Monitor.alike_step`, `Monitor.alike_after`: machines that differ in their books alone go on
  differing in their books alone.
- `Monitor.bookkeeping_unobserved`: they return the same results, step after step.
-/

namespace LC3

/-! ## Devices -/

namespace BlockDevice

/-- The device with nothing counted and nothing remembered. -/
def blank (d : BlockDevice) : BlockDevice := { ring := d.ring, vector := d.vector }

/-- The outcome of a request, without the books. -/
def Served.blank (s : Served) : Served := { s with device := s.device.blank }

variable (d : BlockDevice) (m : Memory)

theorem serveAllocated_blank (i : Slot) :
    (d.blank.serveAllocated m i).blank = (d.serveAllocated m i).blank := by
  simp only [serveAllocated, show d.blank.ring = d.ring from rfl]
  split <;> rfl

theorem serve_blank (index : Word) : (d.blank.serve m index).blank = (d.serve m index).blank := by
  simp only [serve, show d.blank.ring = d.ring from rfl]
  split
  · rfl
  · split
    · exact d.serveAllocated_blank m _
    · rfl

/-- **An event** is answered the same whatever the device has counted and remembered. -/
theorem service_blank (flags : Word) :
    (d.blank.service m flags).map blank = (d.service m flags).map blank := by
  -- the kick has been counted by the time the request is served
  have hserve (m : Memory) (index : Word) :
      ({ d.blank with stats.kicks := d.blank.stats.kicks + 1 }.serve m index).blank =
        ({ d with stats.kicks := d.stats.kicks + 1 }.serve m index).blank := by
    rw [← serve_blank, ← serve_blank { d with stats.kicks := d.stats.kicks + 1 }]
    rfl
  simp only [service, show d.blank.ring = d.ring from rfl]
  split
  · rfl
  split
  · rfl
  · exact congrArg (fun s : Served =>
      (⟨s.device, s.memory, .serviced, .rung flags :: s.events⟩ : Reply BlockDevice)) (hserve _ _)

end BlockDevice

namespace Device

/-- The device with nothing counted and nothing remembered. A probe does neither. -/
def blank : Device → Device
  | .block d => .block d.blank
  | .probe p => .probe p

@[simp] theorem vector_blank (d : Device) : Handler.vector d.blank = Handler.vector d := by
  cases d <;> rfl

theorem handle_blank (d : Device) (m : Memory) (flags : Word) :
    (Handler.handle d.blank m flags).map blank = (Handler.handle d m flags).map blank := by
  cases d with
  | block d => exact congrArg (Reply.map Device.block) (d.service_blank m flags)
  | probe p => rfl

/-- What a device does with an event does not depend on its books. -/
theorem handle_congr {d d' : Device} (h : d.blank = d'.blank) (m : Memory) (flags : Word) :
    (Handler.handle d m flags).map blank = (Handler.handle d' m flags).map blank := by
  rw [← handle_blank, h, handle_blank]

end Device

/-! ## Buses -/

namespace Bus

variable {κ : Type}

/-- The buses differ in nothing but what is counted, remembered and reported. -/
structure Alike (b b' : Bus κ Device) : Prop where
  /-- Every word is the same. -/
  memory : b.memory = b'.memory
  /-- The console is the same. -/
  console : b.console = b'.console
  /-- The devices are the same, up to their books. -/
  devices : b.devices.map Device.blank = b'.devices.map Device.blank

variable {b b' : Bus κ Device}

/-- Which device owns an entry does not depend on the books. -/
theorem owner?_blank (entry : Word) (devices : List Device) :
    owner? entry (devices.map Device.blank) = (owner? entry devices).map
      fun (before, d, after) => (before.map Device.blank, d.blank, after.map Device.blank) := by
  induction devices with
  | nil => rfl
  | cons d rest ih =>
    rw [List.map_cons, owner?, owner?, ih, Device.vector_blank]
    split
    · rfl
    · cases owner? entry rest <;> rfl

/-- An event is answered alike, whichever device answers it. -/
theorem alike_dispatch (h : b.Alike b') (entry : Word) :
    (b.dispatch entry).Alike (b'.dispatch entry) := by
  have howner := congrArg (owner? entry) h.devices
  rw [owner?_blank, owner?_blank] at howner
  rcases hfound : owner? entry b.devices with _ | ⟨before, d, after⟩
  · rcases hfound' : owner? entry b'.devices with _ | ⟨before', d', after'⟩
    · simp only [dispatch, report, hfound, hfound']
      exact ⟨h.memory, h.console, h.devices⟩
    · rw [hfound, hfound'] at howner
      cases howner
  · rcases hfound' : owner? entry b'.devices with _ | ⟨before', d', after'⟩
    · rw [hfound, hfound'] at howner
      cases howner
    · rw [hfound, hfound'] at howner
      simp only [Option.map_some, Option.some.injEq, Prod.mk.injEq] at howner
      obtain ⟨hbefore, hd, hafter⟩ := howner
      -- the two owners answer alike, and the other devices are not asked
      have hreply := Device.handle_congr hd b'.memory (b'.memory.get entry)
      obtain ⟨hdevice, hmemory, houtcome, -⟩ := Reply.mk.inj hreply
      have hdevices : (before ++ (Handler.handle d b'.memory (b'.memory.get entry)).device ::
          after).map Device.blank =
          (before' ++ (Handler.handle d' b'.memory (b'.memory.get entry)).device ::
            after').map Device.blank := by
        rw [List.map_append, List.map_append, List.map_cons, List.map_cons, hbefore, hafter,
          hdevice]
      simp only [dispatch, report, hfound, hfound', h.memory, houtcome]
      cases (Handler.handle d' b'.memory (b'.memory.get entry)).outcome with
      | ignored => exact ⟨hmemory, h.console, hdevices⟩
      | serviced => exact ⟨congrArg (·.set entry completion) hmemory, h.console, hdevices⟩

theorem alike_write (h : b.Alike b') (a v : Word) : (b.write a v).Alike (b'.write a v) := by
  have hstored : (b.mapMemory (·.set a v)).Alike (b'.mapMemory (·.set a v)) :=
    ⟨congrArg (·.set a v) h.memory, h.console, h.devices⟩
  rw [write, write]
  split
  · exact alike_dispatch hstored a
  · exact hstored

variable [Console κ]

theorem alike_poll (h : b.Alike b') : b.poll.Alike b'.poll := by
  simp only [poll, h.console, h.memory]
  rcases Console.pollKey b'.console with ⟨cause | (_ | key), console⟩
  · exact ⟨rfl, rfl, h.devices⟩
  · exact ⟨rfl, rfl, h.devices⟩
  · exact ⟨rfl, rfl, h.devices⟩

/-- **Accesses** do not tell buses apart that differ in their books alone. -/
theorem likeness_alike : Likeness (Alike (κ := κ)) where
  memory h := h.memory
  reports h _ _ := ⟨h.memory, h.console, h.devices⟩
  read {b b'} h a := by
    simp only [read]
    split
    · have hpoll := alike_poll h
      exact ⟨congrArg (·.get a) hpoll.memory, hpoll⟩
    · exact ⟨congrArg (·.get a) h.memory, h⟩
  write h a v := alike_write h a v
  readByte {b b'} h := by
    simp only [readByte, h.console]
    exact ⟨trivial, h.memory, rfl, h.devices⟩
  flush {b b'} h := by
    simp only [flush, h.console]
    exact ⟨trivial, h.memory, rfl, h.devices⟩
  emit {b b'} h bytes := by
    simp only [emit, h.console]
    rcases Console.writeBytes b'.console bytes with ⟨result, console⟩
    cases result with
    | error cause => exact ⟨rfl, h.memory, rfl, h.devices⟩
    | ok _ => exact ⟨rfl, h.memory, rfl, h.devices⟩

end Bus

/-! ## Machines -/

namespace Monitor

variable {κ : Type} [Console κ]

/-- The machines differ in nothing but their books, the address of a reset and the host's driver. -/
structure Alike (v w : Monitor κ) : Prop where
  /-- The processors differ in their books alone. -/
  cpu : v.cpu.Alike w.cpu
  /-- The buses differ in their books alone. -/
  bus : v.bus.Alike w.bus

variable {v w : Monitor κ}

/-- **Step**: machines that differ in their books alone step alike. -/
theorem alike_step (h : v.Alike w) : v.step.1 = w.step.1 ∧ v.step.2.Alike w.step.2 := by
  obtain ⟨hresult, hcpu, hbus⟩ := Cpu.step_alike Bus.likeness_alike h.cpu h.bus
  exact ⟨hresult, hcpu, hbus⟩

/-- **Run**: so they do after any number of steps. -/
theorem alike_after (h : v.Alike w) (n : Nat) : (v.after n).Alike (w.after n) := by
  induction n with
  | zero => exact h
  | succ n ih => exact (alike_step ih).2

/-- **Bookkeeping is not observed**: two machines have the same registers, run state, memory and
console and devices of the same rings and entries. Whatever else they have counted, remembered and
noted, and whether they report their instructions or not, step after step has the same result, and
after any number of steps all of this is still the same. -/
theorem bookkeeping_unobserved (hregs : v.cpu.regs = w.cpu.regs)
    (hstate : v.cpu.state = w.cpu.state) (hmemory : v.bus.memory = w.bus.memory)
    (hconsole : v.bus.console = w.bus.console)
    (hdevices : v.bus.devices.map Device.blank = w.bus.devices.map Device.blank) (n : Nat) :
    (∀ k < n, (v.after k).step.1 = (w.after k).step.1) ∧
      (v.after n).cpu.regs = (w.after n).cpu.regs ∧
      (v.after n).cpu.state = (w.after n).cpu.state ∧
      (v.after n).bus.memory = (w.after n).bus.memory ∧
      (v.after n).bus.console = (w.after n).bus.console ∧
      (v.after n).bus.devices.map Device.blank = (w.after n).bus.devices.map Device.blank := by
  have halike : v.Alike w := ⟨⟨hregs, hstate⟩, ⟨hmemory, hconsole, hdevices⟩⟩
  have hafter := alike_after halike n
  refine ⟨fun k _ => (alike_step (alike_after halike k)).1, hafter.cpu.regs, hafter.cpu.state,
    hafter.bus.memory, hafter.bus.console, hafter.bus.devices⟩

/-- A fresh machine, and one that has counted and noted all it can and reports its instructions, run
a program that rings the device over a spoiled ring and calls services. Each of the ten steps has
the same result on both, the last one among them; both devices have answered, and both machines have
written the byte. -/
theorem bookkeeping_unobserved_rung :
    let v : Monitor BufferConsole :=
      ((start .empty (.ofInput [0x61]) .silent).loadWords 0x3000 spoilingProgram).2
    let w : Monitor BufferConsole := { v with
      cpu := { v.cpu with trace := true, steps := 7, fault := some ⟨.rti, 0x3000⟩ }
      bus := { v.bus with
        devices := [.block { BlockDevice.standard with
          stats := { kicks := 3, faults := 3 }, lastWrite := some ⟨-1, [5]⟩ }]
        dispatched := 3
        lastDispatch := some .unclaimed } }
    (v.after 7).store? = some (0x0100, 1) ∧
      (∀ k < 10, (v.after k).step.1 = (w.after k).step.1) ∧
      (v.after 10).bus.memory = (w.after 10).bus.memory ∧
      (w.after 8).bus.memory.get 0x0100 = 2 ∧
      (w.after 9).step.1 = .ok (.stopped .halted) ∧
      (w.after 10).bus.console.output = #[0xFF] := by
  intro v w
  obtain ⟨hintact, hcode, -⟩ := spoiling_loaded .empty (BufferConsole.ofInput [0x61]) .silent
  have hstandard : v.Standard := ⟨.standard, rfl, rfl, rfl⟩
  obtain ⟨hbell, hanswer, -, hstop, hconsole⟩ := spoiling_run hstandard hintact rfl rfl hcode
  have hdevices : v.bus.devices.map Device.blank = w.bus.devices.map Device.blank := rfl
  obtain ⟨-, -, -, hrung, -⟩ :=
    bookkeeping_unobserved (v := v) (w := w) rfl rfl rfl rfl hdevices 8
  obtain ⟨hresults, -, -, hmemory, hwritten, -⟩ :=
    bookkeeping_unobserved (v := v) (w := w) rfl rfl rfl rfl hdevices 10
  refine ⟨hbell, hresults, hmemory, ?_, ?_, ?_⟩
  · rw [← hrung]
    exact hanswer
  · rw [← hresults 9 (by decide)]
    exact hstop
  · rw [← hwritten, hconsole]
    rfl

end Monitor

end LC3
