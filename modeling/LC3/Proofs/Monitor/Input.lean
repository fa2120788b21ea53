import LC3.Input
import LC3.Proofs.Monitor.Keyboard

/-!
# Input and output are conserved

A program is given its input in two ways: as the word that a service returns, and as the key that
is latched when the keyboard status is loaded. Whatever a program does, every byte of input goes
one of these ways, once and in order, and the output is what services wrote, one after the other.

- `Delivery`: what a program finds after it asked for input, and `Delivery.Carries`: which byte.
- `Monitor.deliveries`, `Monitor.shown`: what a step is given and what it writes.
- `Draws`: what happens to a console in between, composed by `Draws.trans`.
- `Monitor.takesInput_iff`: whether a step is given anything can be told beforehand.
- `Monitor.input_conserved`: the account of runs of any length.
-/

namespace LC3

/-- What a program finds when it has asked for input. -/
inductive Delivery where
  /-- The keyboard status was loaded: what the keyboard registers hold afterwards. -/
  | latched (status data : Word)
  /-- A service was called: what it returned. -/
  | returned (word : Word)
  deriving DecidableEq

/-- The delivery hands over the byte, or says that there is none. -/
def Delivery.Carries : Delivery → Option UInt8 → Prop
  | latched status data, some byte => status = keyReady ∧ data = byte.toUInt16
  | latched _ data, none => data = 0
  | returned word, byte => word = inputWord byte

/-- Between two states of a console, input was taken for the deliveries `ds`, in their order and
as long as there was any, and the bytes `text` were written. -/
structure Draws (before : BufferConsole) (ds : List Delivery) (text : List UInt8)
    (after : BufferConsole) : Prop where
  /-- One byte was taken for each delivery. -/
  input : after.input = before.input.drop ds.length
  /-- Each delivery hands over its byte. -/
  carries : ∀ (i : Nat) (d : Delivery), ds[i]? = some d → d.Carries before.input[i]?
  /-- What was written comes behind what had been written. -/
  output : after.output.toList = before.output.toList ++ text

namespace Draws

variable {a b c : BufferConsole} {ds ds' : List Delivery} {text text' : List UInt8}

theorem refl (a : BufferConsole) : Draws a [] [] a :=
  ⟨rfl, nofun, (List.append_nil _).symm⟩

theorem trans (h₁ : Draws a ds text b) (h₂ : Draws b ds' text' c) :
    Draws a (ds ++ ds') (text ++ text') c where
  input := by
    rw [h₂.input, h₁.input, List.drop_drop, List.length_append]
  carries i d hd := by
    rcases Nat.lt_or_ge i ds.length with hi | hi
    · rw [List.getElem?_append_left hi] at hd
      exact h₁.carries i d hd
    · -- the second part began with what the first one left
      rw [List.getElem?_append_right hi] at hd
      have hcarries := h₂.carries _ d hd
      rwa [h₁.input, List.getElem?_drop, Nat.add_sub_cancel' hi] at hcarries
  output := by
    rw [h₂.output, h₁.output, List.append_assoc]

/-- One byte is asked for. -/
theorem take {d : Delivery} (h : d.Carries a.take.1) : Draws a [d] [] a.take.2 := by
  obtain ⟨input, output⟩ := a
  refine ⟨?_, fun i d' hd' => ?_, ?_⟩
  · cases input <;> rfl
  · obtain ⟨rfl, rfl⟩ : i = 0 ∧ d = d' := by
      simpa [List.getElem?_cons] using hd'
    cases input <;> exact h
  · cases input <;> exact (List.append_nil _).symm

/-- Bytes are written. -/
theorem put (a : BufferConsole) (bytes : List UInt8) : Draws a [] bytes (a.put bytes) :=
  ⟨rfl, nofun, by simp [BufferConsole.put]⟩

end Draws

/-! ## Accesses -/

namespace Bus

variable {δ : Type}

/-- What a program finds in the keyboard registers after an access, if it asked for a key. -/
def latch? {κ : Type} [Console κ] [Handler δ] (b : Bus κ δ) (x : Access) : Option Delivery :=
  if x.polls then
    let m := (b.access x).memory
    some (.latched (m.get keyboardStatus) (m.get keyboardData))
  else none

/-- A device has no access to the console. -/
theorem console_write {κ : Type} [Handler δ] (b : Bus κ δ) (a v : Word) :
    (b.write a v).console = b.console := by
  cases h : b.answering? a with
  | none => exact (write_unanswered h v).console
  | some k =>
    obtain ⟨d, hd⟩ := exists_of_answering? h
    exact (write_answered h hd v).2.2.1

/-- There is one delivery for each access that asks for a key. -/
theorem length_latches {κ : Type} [Console κ] [Handler δ] (b : Bus κ δ) (xs : List Access) :
    (b.notes latch? xs).length = xs.countP Access.polls := by
  induction xs generalizing b with
  | nil => rfl
  | cons x rest ih =>
    have hfirst : (b.latch? x).toList.length = if x.polls then 1 else 0 := by
      rw [latch?]
      split <;> rfl
    rw [notes, List.length_append, ih, hfirst, List.countP_cons, Nat.add_comm]

variable (b : Bus BufferConsole δ)

/-- **A poll** takes a byte and latches it. -/
theorem draws_poll :
    Draws b.console
      [.latched (b.poll.memory.get keyboardStatus) (b.poll.memory.get keyboardData)] []
      b.poll.console := by
  have hne : keyboardStatus ≠ keyboardData := by decide
  have hpoll : Console.pollKey b.console = (.ok b.console.take.1, b.console.take.2) := rfl
  rw [poll, hpoll]
  cases htake : b.console.take.1 with
  | none =>
    refine Draws.take ?_
    rw [htake]
    exact Memory.get_set_self ..
  | some key =>
    refine Draws.take ?_
    rw [htake]
    exact ⟨(Memory.get_set_other hne).trans (Memory.get_set_self ..), Memory.get_set_self ..⟩

variable [Handler δ]

/-- **An access**: loading the keyboard status takes a byte, and nothing else takes any. -/
theorem draws_access (x : Access) :
    Draws b.console (b.latch? x).toList [] (b.access x).console := by
  cases x with
  | read a =>
    show Draws _ _ _ (if a = keyboardStatus then b.poll else b).console
    by_cases h : a = keyboardStatus
    · subst h
      exact b.draws_poll
    · simpa [latch?, Access.polls, h] using Draws.refl b.console
  | write a v =>
    rw [access, console_write]
    exact .refl _
  | change f => exact .refl _

theorem draws_accesses (xs : List Access) :
    Draws b.console (b.notes latch? xs) [] (b.accesses xs).console := by
  induction xs generalizing b with
  | nil => exact .refl _
  | cons x rest ih => exact (b.draws_access x).trans (ih (b.access x))

end Bus

/-! ## Services -/

namespace Service

/-- Whether a service takes a byte of input. -/
def takes : Service → Bool
  | getc | echo => true
  | out | puts | putsp | halt => false

variable {δ : Type}

/-- What a service writes. -/
def text (service : Service) (regs : Registers) (bus : Bus BufferConsole δ) : List UInt8 :=
  match service with
  | out => [lowByte (regs.get Reg.r0)]
  | puts => stringBytes bus.memory (regs.get Reg.r0)
  | putsp => packedBytes bus.memory (regs.get Reg.r0)
  | echo => bus.console.take.1.toList
  | getc | halt => []

/-- **A service** that takes input returns it, and what it writes is its text. -/
theorem draws_perform (service : Service) (regs : Registers) (bus : Bus BufferConsole δ) :
    let effect := service.perform regs bus
    Draws bus.console (if service.takes then [.returned (effect.regs.get Reg.r0)] else [])
      (service.text regs bus) effect.bus.console := by
  have hread : bus.readByte =
      (.ok bus.console.take.1, { bus with console := bus.console.take.2 }) := rfl
  have hemit (b : Bus BufferConsole δ) (bytes : List UInt8) :
      b.emit bytes = (.ok (), { b with console := b.console.put bytes }) := rfl
  cases service with
  | getc =>
    simp only [perform, hread]
    exact Draws.take (Registers.get_assign ..)
  | echo =>
    simp only [perform, hread, text]
    cases htake : bus.console.take.1 with
    | none =>
      refine Draws.take ?_
      rw [htake]
      exact Registers.get_assign ..
    | some byte =>
      -- the byte is written after it is taken
      simp only [hemit]
      refine (Draws.take (d := .returned _) ?_).trans (.put _ _)
      rw [htake]
      exact Registers.get_assign ..
  | out | puts | putsp =>
    simp only [perform, hemit]
    exact .put _ _
  | halt => exact .refl _

end Service

/-! ## Instructions -/

namespace Instruction

variable {κ δ : Type} [Console κ] (i : Instruction) (regs : Registers) (bus : Bus κ δ)

/-- An instruction asks for a key where it loads from the keyboard status. -/
theorem any_polls_accesses :
    (i.accesses regs bus).any Bus.Access.polls ↔ keyboardStatus ∈ i.loads regs bus.memory := by
  cases i with
  | ldi dr offset =>
    by_cases h : regs.pc + offset = keyboardStatus
    · simp [accesses, loads, Bus.Access.polls, h]
    · simp [accesses, loads, Bus.Access.polls, bus.read_of_ne h, @eq_comm _ keyboardStatus]
  | sti sr offset | ld dr offset | ldr dr base offset =>
    simp [accesses, loads, Bus.Access.polls, @eq_comm _ keyboardStatus]
  | _ => simp [accesses, loads, Bus.Access.polls]

theorem callsForInput_iff : i.callsForInput ↔ i.service?.any Service.takes := by
  cases i with
  | trap vector =>
    rw [callsForInput, service?]
    cases Service.ofVector vector with
    | none => simp
    | some s => cases s <;> decide
  | _ => simp [callsForInput, service?]

end Instruction

/-! ## Machines -/

namespace Monitor

section Steps

variable {κ : Type} [Console κ]

/-- What the next step is given: first what it loads, then what a service returns. -/
def deliveries (v : Monitor κ) : List Delivery :=
  v.bus.notes Bus.latch? v.accesses ++
    if v.service?.any Service.takes then [.returned (v.step.2.cpu.regs.get Reg.r0)] else []

/-- **When a machine takes input** can be told before the step: just when there is a delivery. -/
theorem takesInput_iff (v : Monitor κ) : v.takesInput ↔ v.deliveries ≠ [] := by
  have hdeliveries : v.deliveries ≠ [] ↔
      v.service?.any Service.takes ∨ v.accesses.any Bus.Access.polls := by
    rw [← List.length_pos_iff, deliveries, List.length_append, Bus.length_latches,
      Nat.add_pos_iff_pos_or_pos, List.countP_pos_iff, List.any_eq_true, or_comm]
    cases v.service?.any Service.takes <;> simp
  rw [hdeliveries, accesses, service?, Cpu.accesses, Cpu.service?]
  by_cases hrun : v.cpu.state = .running
  · rw [if_pos hrun, if_pos hrun]
    by_cases hpc : v.cpu.regs.pc = keyboardStatus
    · simp [takesInput, hrun, hpc, Bus.Access.polls]
    · simp only [v.bus.read_of_ne hpc, List.any_cons, Bool.or_eq_true]
      rw [← Instruction.callsForInput_iff, Instruction.any_polls_accesses]
      simp [takesInput, hrun, Bus.Access.polls, hpc, Ne.symm hpc]
  · rw [if_neg hrun, if_neg hrun]
    simp [takesInput, hrun]

end Steps

/-- What the next step writes. -/
def shown (v : Monitor BufferConsole) : List UInt8 :=
  v.service?.toList.flatMap fun s => s.text v.cpu.calling (v.bus.accesses v.accesses)

variable (v : Monitor BufferConsole)

/-- **A step** takes what it is given, and writes what its service writes. -/
theorem draws_step : Draws v.bus.console v.deliveries v.shown v.step.2.bus.console := by
  have haccesses := v.bus.draws_accesses v.accesses
  cases hservice : v.service? with
  | none =>
    have hconsole := congrArg Bus.console (Cpu.step_of_service?_none hservice).1
    rw [deliveries, shown, hservice,
      show v.step.2.bus.console = (v.bus.accesses v.accesses).console from hconsole]
    simpa using haccesses
  | some s =>
    obtain ⟨-, hregs, hquiet, -⟩ := Cpu.step_of_service? hservice
    have hconsole := congrArg Bus.console hquiet
    let effect := s.perform v.cpu.calling (v.bus.accesses v.accesses)
    rw [deliveries, shown, hservice,
      show v.step.2.bus.console = effect.bus.console from hconsole,
      show v.step.2.cpu.regs = effect.regs from hregs]
    simpa using haccesses.trans (s.draws_perform v.cpu.calling (v.bus.accesses v.accesses))

/-- **A run**: the accounts of its steps, one after the other. -/
theorem draws_after (n : Nat) :
    Draws v.bus.console (v.collect deliveries n) (v.collect shown n) (v.after n).bus.console := by
  induction n with
  | zero => exact .refl _
  | succ n ih =>
    rw [collect_succ, collect_succ]
    exact ih.trans (v.after n).draws_step

/-- **Input is neither lost nor duplicated nor reordered**: in a run of any length a program takes
a first part of its input, one byte for each time it asks, as long as there are any, and byte
number `i` is handed over by delivery number `i`. It asks by loading the keyboard status and by
calling `GETC` or `IN`, and in no other way. The output grows by what the services of the steps
write, and by nothing else. -/
theorem input_conserved (v : Monitor BufferConsole) (n : Nat) :
    let ds := v.collect deliveries n
    ∃ taken, v.bus.console.input = taken ++ (v.after n).bus.console.input ∧
      taken.length = min v.bus.console.input.length ds.length ∧
      (∀ (i : Nat) (d : Delivery), ds[i]? = some d → d.Carries taken[i]?) ∧
      (v.after n).bus.console.output.toList =
        v.bus.console.output.toList ++ v.collect shown n ∧
      ∀ k, let u := v.after k
        let console := (v.after (k + 1)).bus.console
        u.deliveries.length = u.accesses.countP Bus.Access.polls +
          (if u.service? = some .getc ∨ u.service? = some .echo then 1 else 0) ∧
        console.input = u.bus.console.input.drop u.deliveries.length ∧
        console.output.toList = u.bus.console.output.toList ++ u.shown ∧
        (u.shown ≠ [] → u.service? ∈ [some .out, some .puts, some .putsp, some .echo]) := by
  intro ds
  obtain ⟨hinput, hcarries, houtput⟩ := v.draws_after n
  refine ⟨v.bus.console.input.take ds.length, ?_, ?_, fun i d hd => ?_, houtput, fun k => ?_⟩
  · rw [hinput, List.take_append_drop]
  · rw [List.length_take, Nat.min_comm]
  · have hi : i < ds.length := (List.getElem?_eq_some_iff.mp hd).1
    rw [List.getElem?_take_of_lt hi]
    exact hcarries i d hd
  · intro u console
    obtain ⟨hstep, -, hshown⟩ := u.draws_step
    refine ⟨?_, hstep, hshown, fun hne => ?_⟩
    · rw [deliveries, List.length_append, Bus.length_latches]
      cases u.service? with
      | none => rfl
      | some s => cases s <;> rfl
    · rw [shown] at hne
      cases hservice : u.service? with
      | none => simp [hservice] at hne
      | some s =>
        rw [hservice] at hne
        cases s with
        | out | puts | putsp | echo => decide
        | getc | halt => exact absurd rfl hne

end Monitor

end LC3
