import LC3.Proofs.Monitor.Budget
import LC3.Proofs.Monitor.Instruction

/-!
# A program that echoes its input

Five words take a byte at a time and write it, until there is no more input. The end of input reads
as a negative word and a byte never does, so the branch behind `GETC` ends the loop at the right
time, whatever bytes there are.

- `echoProgram`, `Echoing`: the program, and the invariant of its loop.
- `Echoing.round`, `Echoing.leave`: one byte, and the end of input.
- `Monitor.echoes_input`: a run of the program.
-/

namespace LC3

/-! ## The program -/

/-- Take a byte, leave at the end of input, write the byte, begin again; and stop. -/
def echoProgram : List Word := [0xF020, 0x0802, 0xF021, 0x0FFC, 0xF025]

theorem decode_echoProgram : echoProgram.map Instruction.decode =
    [.trap 0x20, .br 4 2, .trap 0x21, .br 7 0xFFFC, .trap 0x25] := by decide

/-- A word that was assigned selects a branch on negative if it is negative. -/
theorem isIn_negative (w : Word) : (Condition.ofWord w).isIn 4 = decide (0x8000 ≤ w) := by
  rw [Condition.ofWord]
  by_cases hzero : w = 0
  · subst hzero
    decide
  · by_cases hhigh : w ≥ 0x8000
    · rw [if_neg hzero, if_pos hhigh, decide_eq_true hhigh]
      decide
    · rw [if_neg hzero, if_neg hhigh, decide_eq_false hhigh]
      decide

/-- The end of input is negative, and no byte is. -/
theorem isIn_inputWord (byte : Option UInt8) :
    (Condition.ofWord (inputWord byte)).isIn 4 = byte.isNone := by
  rw [isIn_negative]
  cases byte with
  | none => decide
  | some byte =>
    have hbyte := byte.toNat_lt
    apply decide_eq_false
    rw [inputWord, UInt16.le_iff_toNat_le, UInt8.toNat_toUInt16]
    simp only [UInt16.reduceToNat]
    omega

/-- A machine runs the program and has come to the address `pc` in it, with `console`. -/
structure Echoing (v : Monitor BufferConsole) (pc : Word) (console : BufferConsole) : Prop where
  /-- The machine runs. -/
  running : v.cpu.state = .running
  /-- It goes on at `pc`. -/
  pc : v.cpu.regs.pc = pc
  /-- The program is in memory. -/
  code : v.bus.memory.readSlice 0x3000 5 = echoProgram
  /-- The console is the one given. -/
  console : v.bus.console = console

namespace Echoing

variable {v : Monitor BufferConsole} {console : BufferConsole}

/-- The program, word by word. -/
theorem decode_code {m : Memory} (h : m.readSlice 0x3000 5 = echoProgram) :
    Instruction.decode (m.get 0x3000) = .trap 0x20 ∧
      Instruction.decode (m.get 0x3001) = .br 4 2 ∧
      Instruction.decode (m.get 0x3002) = .trap 0x21 ∧
      Instruction.decode (m.get 0x3003) = .br 7 0xFFFC ∧
      Instruction.decode (m.get 0x3004) = .trap 0x25 := by
  have hdecode := decode_echoProgram
  rw [← h] at hdecode
  simpa [Memory.readSlice, List.range_succ] using hdecode

theorem next {pc : Word} {i : Instruction} (h : Echoing v pc console)
    (hdecode : Instruction.decode (v.bus.memory.get pc) = i) (hpc : pc ≠ keyboardStatus) :
    v.Next i := by
  obtain ⟨hrun, rfl, -, -⟩ := h
  exact ⟨hrun, hpc, hdecode⟩

/-- Nothing is stored, so the program stays as it is. -/
theorem moved {pc pc' : Word} {w : Monitor BufferConsole} {console' : BufferConsole}
    (h : Echoing v pc console) (hmoves : v.Moves w pc' console') : Echoing w pc' console' :=
  ⟨hmoves.running, hmoves.pc, by rw [hmoves.memory, h.code], hmoves.console⟩

/-- **`GETC` and the branch behind it**: a byte leads to `OUT`, the end of input to `HALT`. -/
theorem fetch (h : Echoing v 0x3000 console) :
    ∃ w, (∀ n, v.runFor (n + 2) = w.runFor n) ∧ w.cpu.steps = v.cpu.steps + 2 ∧
      Echoing w (if console.take.1.isNone then 0x3004 else 0x3002) console.take.2 ∧
      w.cpu.regs.get Reg.r0 = inputWord console.take.1 := by
  obtain ⟨hgetc, hbranch, -⟩ := decode_code h.code
  obtain ⟨u, hu, hr0, hcond⟩ := (h.next hgetc (by decide)).getc
  rw [h.pc, h.console] at hu
  rw [h.console] at hr0 hcond
  have hread : Echoing u 0x3001 console.take.2 := h.moved hu
  obtain ⟨w, hw, hkept⟩ := (hread.next (by rw [hu.memory, hbranch]) (by decide)).branch
  rw [hcond, isIn_inputWord, hread.pc, hread.console] at hw
  refine ⟨w, fun n => ?_, ?_, hread.moved hw, hkept.trans hr0⟩
  · rw [Monitor.runFor_of_retired hu.retired, Monitor.runFor_of_retired hw.retired]
  · rw [hw.steps, hu.steps]

/-- **A round** of the loop echoes one byte. -/
theorem round {byte : UInt8} {rest : List UInt8} {output : Array UInt8}
    (h : Echoing v 0x3000 ⟨byte :: rest, output⟩) :
    ∃ w, (∀ n, v.runFor (n + 4) = w.runFor n) ∧ w.cpu.steps = v.cpu.steps + 4 ∧
      Echoing w 0x3000 ⟨rest, output.push byte⟩ := by
  obtain ⟨u, hrun, hsteps, hread, hr0⟩ := h.fetch
  have htaken : Echoing u 0x3002 ⟨rest, output⟩ := hread
  obtain ⟨-, -, hout, hback, -⟩ := decode_code htaken.code
  have hbyte : lowByte (u.cpu.regs.get Reg.r0) = byte := by
    rw [hr0]
    exact UInt8.toUInt8_toUInt16 byte
  obtain ⟨x, hx⟩ := (htaken.next hout (by decide)).out
  rw [htaken.pc, htaken.console, hbyte] at hx
  have hwritten : Echoing x 0x3003 ⟨rest, output.push byte⟩ := by
    have hput : BufferConsole.put ⟨rest, output⟩ [byte] = ⟨rest, output.push byte⟩ := by
      simp [BufferConsole.put]
    rw [← hput]
    exact htaken.moved hx
  obtain ⟨w, hw, -⟩ := (hwritten.next (by rw [hx.memory, hback]) (by decide)).branch
  -- the branch back is taken whatever the condition code is
  have halways (cond : Condition) : cond.isIn 7 = true := by
    cases cond <;> decide
  rw [halways, hwritten.pc, hwritten.console] at hw
  refine ⟨w, fun n => ?_, ?_, hwritten.moved hw⟩
  · rw [hrun, Monitor.runFor_of_retired hx.retired, Monitor.runFor_of_retired hw.retired]
  · rw [hw.steps, hx.steps, hsteps]

/-- **The end of input** stops the machine. -/
theorem leave {output : Array UInt8} (h : Echoing v 0x3000 ⟨[], output⟩) :
    ∃ w, (∀ n, v.runFor (n + 3) = (.ok .halted, w)) ∧ w.cpu.steps = v.cpu.steps + 3 ∧
      w.bus.console = ⟨[], output⟩ ∧ w.cpu.regs.get Reg.r0 = 0xFFFF := by
  obtain ⟨u, hrun, hsteps, hread, hr0⟩ := h.fetch
  have hend : Echoing u 0x3004 ⟨[], output⟩ := hread
  obtain ⟨-, -, -, -, hhalt⟩ := decode_code hend.code
  obtain ⟨w, hstop, hconsole, hkept, hcount⟩ := (hend.next hhalt (by decide)).halt
  refine ⟨w, fun n => ?_, ?_, ?_, ?_⟩
  · rw [hrun, Monitor.runFor_of_stop hstop]
  · rw [hcount, hsteps]
  · rw [hconsole, hend.console]
  · rw [hkept, hr0]
    rfl

/-- **The run**: round after round, and then the end. -/
theorem run {input : List UInt8} {output : Array UInt8}
    (h : Echoing v 0x3000 ⟨input, output⟩) :
    ∃ w, (∀ n, v.runFor (n + (4 * input.length + 3)) = (.ok .halted, w)) ∧
      w.cpu.steps = v.cpu.steps + (4 * input.length + 3) ∧
      w.bus.console = ⟨[], output ++ input⟩ ∧ w.cpu.regs.get Reg.r0 = 0xFFFF := by
  induction input generalizing v output with
  | nil =>
    obtain ⟨w, hrun, hsteps, hconsole, hr0⟩ := h.leave
    exact ⟨w, hrun, hsteps, by simpa using hconsole, hr0⟩
  | cons byte rest ih =>
    obtain ⟨u, hround, hcount, hrest⟩ := h.round
    obtain ⟨w, hrun, hsteps, hconsole, hr0⟩ := ih hrest
    refine ⟨w, fun n => ?_, ?_, by simpa using hconsole, hr0⟩
    · rw [← hrun n, ← hround]
      rfl
    · rw [hsteps, hcount, List.length_cons]
      omega

end Echoing

/-- **The program echoes its input**: on any running machine that has come to its first word, with
any string of bytes as input, it writes this string and stops, after four instructions for each
byte and three at the end. -/
theorem Monitor.echoes_input (v : Monitor BufferConsole) (s : List UInt8)
    (hrun : v.cpu.state = .running) (hpc : v.cpu.regs.pc = 0x3000)
    (hcode : v.bus.memory.readSlice 0x3000 5 = echoProgram)
    (hconsole : v.bus.console = .ofInput s) :
    ∃ w, v.Runs (.ok .halted) w ∧
      (∀ fuel, 4 * s.length + 3 ≤ fuel → v.run fuel = (.ok .halted, w)) ∧
      w.cpu.state = .halted ∧ w.bus.console.output = s.toArray ∧ w.bus.console.input = [] ∧
      w.cpu.regs.get Reg.r0 = 0xFFFF ∧ w.cpu.steps = v.cpu.steps + (4 * s.length + 3) := by
  -- the report that the run begins changes nothing else
  have hbegin : Echoing v.announced 0x3000 ⟨s, #[]⟩ := ⟨hrun, hpc, hcode, hconsole⟩
  obtain ⟨w, hends, hsteps, hleft, hr0⟩ := hbegin.run
  have henough : ∀ fuel, 4 * s.length + 3 ≤ fuel → v.run fuel = (.ok .halted, w) := by
    intro fuel hle
    obtain ⟨n, rfl⟩ := Nat.exists_eq_add_of_le' hle
    exact hends n
  have hhalted := henough _ (Nat.le_refl _)
  refine ⟨w, runs_iff.mpr ⟨nofun, _, hhalted⟩, henough, state_runFor hhalted, ?_, ?_, hr0, hsteps⟩
  · rw [hleft]
    simp
  · rw [hleft]

/-- The least and the greatest byte are echoed. -/
theorem Monitor.echoes_input_extremes :
    let console := BufferConsole.ofInput [0x00, 0xFF]
    let v := ((start {} console .silent).loadWords 0x3000 echoProgram).2
    ∃ w, v.Runs (.ok .halted) w ∧ v.run 1000 = (.ok .halted, w) ∧ w.cpu.state = .halted ∧
      w.bus.console.output = #[0x00, 0xFF] ∧ w.bus.console.input = [] ∧
      w.cpu.regs.get Reg.r0 = 0xFFFF ∧ w.cpu.steps = 11 := by
  intro console v
  have hcode : v.bus.memory.readSlice 0x3000 5 = echoProgram := by
    show ((Ring.standard.init .zero).loadAt 0x3000 echoProgram).1.readSlice 0x3000 5 = _
    rw [Memory.loadAt_eq, List.take_of_length_le (by decide)]
    exact Memory.readSlice_writeSlice _ _ echoProgram (by decide)
  obtain ⟨w, hruns, hfuel, hstate, houtput, hinput, hr0, hsteps⟩ :=
    echoes_input v [0x00, 0xFF] rfl rfl hcode rfl
  exact ⟨w, hruns, hfuel 1000 (by decide), hstate, houtput, hinput, hr0, hsteps⟩

end LC3
