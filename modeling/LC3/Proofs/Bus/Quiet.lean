import LC3.Bus

/-!
# What is reported does not matter

Reports are for whoever watches the machine. Nothing on the bus looks at them, so two buses that
differ in their reports alone go on differing in their reports alone.

- `Bus.quiet`: a bus with nothing reported, now or later.
- `quiet_read`, `quiet_write`, …: every access commutes with it.
-/

namespace LC3

namespace Journal

@[simp] theorem record_silent (e : Event) : silent.record e = silent := rfl

@[simp] theorem recordAll_silent (es : List Event) : silent.recordAll es = silent := by
  induction es with
  | nil => rfl
  | cons e rest ih => exact ih

end Journal

namespace Bus

variable {κ δ : Type}

/-- The bus as it would be if nothing were reported. -/
def quiet (b : Bus κ δ) : Bus κ δ := { b with journal := .silent }

theorem eq_of_quiet {b b' : Bus κ δ} (h : b.quiet = b'.quiet) :
    b = { b' with journal := b.journal } := by
  obtain ⟨⟩ := b
  obtain ⟨⟩ := b'
  cases h
  rfl

@[simp] theorem quiet_memory (b : Bus κ δ) : b.quiet.memory = b.memory := rfl

@[simp] theorem quiet_console (b : Bus κ δ) : b.quiet.console = b.console := rfl

@[simp] theorem quiet_report (b : Bus κ δ) (e : Event) : (b.report e).quiet = b.quiet := rfl

section Devices

variable [Handler δ]

/-- A device learns nothing of what was reported. -/
theorem quiet_dispatch (b : Bus κ δ) (entry : Word) :
    b.quiet.dispatch entry = (b.dispatch entry).quiet := by
  -- a handler is given the memory and the word that was stored, never the journal
  cases howner : owner? entry b.devices with
  | none => simp only [dispatch, report, quiet, howner, Journal.record_silent]
  | some found =>
    obtain ⟨before, owner, after⟩ := found
    simp only [dispatch, report, quiet, howner, Journal.record_silent, Journal.recordAll_silent]
    cases (Handler.handle owner b.memory (b.memory.get entry)).outcome <;> rfl

theorem quiet_write (b : Bus κ δ) (a v : Word) : b.quiet.write a v = (b.write a v).quiet := by
  simp only [write]
  split
  · exact quiet_dispatch (b.mapMemory (·.set a v)) a
  · rfl

end Devices

section Keyboard

variable [Console κ]

theorem quiet_poll (b : Bus κ δ) : b.quiet.poll = b.poll.quiet := by
  simp only [poll, quiet_console]
  cases Console.pollKey b.console with
  | mk result console =>
    cases result with
    | error cause => rfl
    | ok key => cases key <;> rfl

theorem quiet_read (b : Bus κ δ) (a : Word) :
    b.quiet.read a = ((b.read a).1, (b.read a).2.quiet) := by
  simp only [read]
  split
  · rw [quiet_poll]
    rfl
  · rfl

theorem quiet_readByte (b : Bus κ δ) :
    b.quiet.readByte = (b.readByte.1, b.readByte.2.quiet) := rfl

theorem quiet_flush (b : Bus κ δ) : b.quiet.flush = (b.flush.1, b.flush.2.quiet) := rfl

theorem quiet_emit (b : Bus κ δ) (bytes : List UInt8) :
    b.quiet.emit bytes = ((b.emit bytes).1, (b.emit bytes).2.quiet) := by
  simp only [emit, quiet_console]
  cases Console.writeBytes b.console bytes with
  | mk result console => cases result <;> rfl

/-- What is reported does not bear on what is loaded. -/
theorem read_report (b : Bus κ δ) (e : Event) (a : Word) :
    ((b.report e).read a).1 = (b.read a).1 := by
  have hreport := congrArg Prod.fst ((b.report e).quiet_read a)
  have hread := congrArg Prod.fst (b.quiet_read a)
  rw [quiet_report] at hreport
  exact hreport.symm.trans hread

end Keyboard

end Bus

end LC3
