import LC3.Proofs.Cpu.Likeness
import LC3.Proofs.Monitor.Stop

/-!
# Runs with and without a budget

A machine is run until it stops or a service fails, and nobody knows beforehand how long that
takes. A budget cuts the run short. What was cut short can be taken up again, and a budget that is
large enough makes no difference.

- `Monitor.EndsIn`, `Monitor.Runs`: runs without a budget. Not every machine has one.
- `Monitor.runFor_add`: a budget can be spent in two parts.
- `Monitor.endsIn_of_runFor`, `Monitor.runFor_of_endsIn`: a run without a budget is a run with
  some budget that is not used up.
- `Monitor.runs_iff`: this is what `Monitor.run` finds, given enough fuel.
-/

namespace LC3

namespace Monitor

variable {κ : Type} [Console κ]

/-- `EndsIn v result w`: steps of `v`, one after the other and as many as it takes, end with the
answer `result` and leave the machine `w`. -/
inductive EndsIn : Monitor κ → Except ConsoleFault RunState → Monitor κ → Prop where
  /-- A service fails. -/
  | failed {v w : Monitor κ} {fault : ConsoleFault} (h : v.step = (.error fault, w)) :
    EndsIn v (.error fault) w
  /-- The machine stops, or has stopped before. -/
  | stopped {v w : Monitor κ} {state : RunState} (h : v.step = (.ok (.stopped state), w)) :
    EndsIn v (.ok state) w
  /-- An instruction is executed, and the machine goes on. -/
  | retired {v u w : Monitor κ} {result : Except ConsoleFault RunState}
    (h : v.step = (.ok .retired, u)) (rest : EndsIn u result w) : EndsIn v result w

/-- A run without a budget: its start is reported, and then it goes on until it ends. -/
def Runs (v : Monitor κ) (result : Except ConsoleFault RunState) (w : Monitor κ) : Prop :=
  v.announced.EndsIn result w

/-! ## Steps -/

/-- The ways in which a step of a machine ends: it is counted, or a service fails, or the machine
is found in the state that it has stopped in. -/
theorem step_cases (v : Monitor κ) :
    (∃ w, v.step = (.ok .retired, w) ∧ w.cpu.steps = v.cpu.steps + 1) ∨
    (∃ fault w, v.step = (.error fault, w)) ∨
    (∃ w, v.step = (.ok (.stopped w.cpu.state), w) ∧ w.cpu.state ≠ .running) := by
  have hstops (state : RunState) (hne : state ≠ .running)
      (hresult : v.step.1 = .ok (.stopped state)) (hstate : v.step.2.cpu.state = state) :
      ∃ w, v.step = (.ok (.stopped w.cpu.state), w) ∧ w.cpu.state ≠ .running := by
    subst hstate
    exact ⟨v.step.2, Prod.ext hresult rfl, hne⟩
  by_cases hrun : v.cpu.state = .running
  · obtain ⟨regs, hresult, hcpu⟩ | ⟨regs, fault, hresult, hcpu⟩ | ⟨regs, -, hresult, hcpu⟩ |
      ⟨opcode, -, hresult, hcpu⟩ := Cpu.step_cases hrun v.bus
    · exact .inl ⟨v.step.2, Prod.ext hresult rfl, congrArg Cpu.steps hcpu⟩
    · exact .inr (.inl ⟨fault, v.step.2, Prod.ext hresult rfl⟩)
    · exact .inr (.inr (hstops .halted nofun hresult (congrArg Cpu.state hcpu)))
    · exact .inr (.inr (hstops .aborted nofun hresult (congrArg Cpu.state hcpu)))
  · exact .inr (.inr ⟨v, step_of_stopped hrun, hrun⟩)

variable {v w : Monitor κ}

theorem runFor_of_retired (h : v.step = (.ok .retired, w)) (n : Nat) :
    v.runFor (n + 1) = w.runFor n := by
  rw [runFor, h]

theorem runFor_of_failed {fault : ConsoleFault} (h : v.step = (.error fault, w)) (n : Nat) :
    v.runFor (n + 1) = (.error fault, w) := by
  rw [runFor, h]

theorem runFor_of_stop {state : RunState} (h : v.step = (.ok (.stopped state), w)) (n : Nat) :
    v.runFor (n + 1) = (.ok state, w) := by
  rw [runFor, h]

/-! ## Budgets -/

/-- The answer of a run that does not fail is the state of the machine that it leaves. -/
theorem state_runFor {n : Nat} {state : RunState} (h : v.runFor n = (.ok state, w)) :
    w.cpu.state = state := by
  induction n generalizing v with
  | zero =>
    cases h
    rfl
  | succ n ih =>
    obtain ⟨u, hstep, -⟩ | ⟨fault, u, hstep⟩ | ⟨u, hstep, -⟩ := v.step_cases
    · rw [runFor_of_retired hstep] at h
      exact ih h
    · rw [runFor_of_failed hstep] at h
      cases h
    · rw [runFor_of_stop hstep] at h
      cases h
      rfl

/-- **A budget in two parts**: the second part is spent only if the first one did not fail. -/
theorem runFor_add (v : Monitor κ) (a b : Nat) :
    v.runFor (a + b) =
      match v.runFor a with
      | (.error fault, w) => (.error fault, w)
      | (.ok _, w) => w.runFor b := by
  induction a generalizing v with
  | zero => rw [Nat.zero_add, runFor]
  | succ a ih =>
    rw [Nat.succ_add]
    obtain ⟨w, hstep, -⟩ | ⟨fault, w, hstep⟩ | ⟨w, hstep, hstopped⟩ := v.step_cases
    · rw [runFor_of_retired hstep, runFor_of_retired hstep, ih]
    · rw [runFor_of_failed hstep, runFor_of_failed hstep]
    · rw [runFor_of_stop hstep, runFor_of_stop hstep]
      exact (runFor_of_stopped hstopped b).symm

/-- A budget that is used up is counted step by step. -/
theorem steps_runFor {n : Nat} (h : (v.runFor n).1 = .ok .running) :
    (v.runFor n).2.cpu.steps = v.cpu.steps + n := by
  induction n generalizing v with
  | zero => rfl
  | succ n ih =>
    obtain ⟨w, hstep, hsteps⟩ | ⟨fault, w, hstep⟩ | ⟨w, hstep, hstopped⟩ := v.step_cases
    · rw [runFor_of_retired hstep] at h ⊢
      rw [ih h, hsteps]
      omega
    · rw [runFor_of_failed hstep] at h
      cases h
    · rw [runFor_of_stop hstep] at h
      exact absurd (Except.ok.inj h) hstopped

/-- A budget that is not used up may be larger. -/
theorem runFor_of_le {n m : Nat} (h : (v.runFor n).1 ≠ .ok .running) (hle : n ≤ m) :
    v.runFor m = v.runFor n := by
  obtain ⟨k, rfl⟩ := Nat.exists_eq_add_of_le hle
  rw [runFor_add]
  match hrun : v.runFor n with
  | (.error fault, w) => rfl
  | (.ok state, w) =>
    have hstate := state_runFor hrun
    have hstopped : w.cpu.state ≠ .running := by
      rintro hrunning
      rw [hrun, ← hstate, hrunning] at h
      exact h rfl
    show w.runFor k = _
    rw [runFor_of_stopped hstopped, hstate]

/-! ## Runs without a budget -/

theorem endsIn_of_runFor {n : Nat} (h : (v.runFor n).1 ≠ .ok .running) :
    v.EndsIn (v.runFor n).1 (v.runFor n).2 := by
  induction n generalizing v with
  | zero =>
    have hstopped : v.cpu.state ≠ .running := fun hrun => h (congrArg Except.ok hrun)
    exact .stopped (step_of_stopped hstopped)
  | succ n ih =>
    obtain ⟨w, hstep, -⟩ | ⟨fault, w, hstep⟩ | ⟨w, hstep, -⟩ := v.step_cases
    · rw [runFor_of_retired hstep] at h ⊢
      exact .retired hstep (ih h)
    · rw [runFor_of_failed hstep]
      exact .failed hstep
    · rw [runFor_of_stop hstep]
      exact .stopped hstep

theorem runFor_of_endsIn {result : Except ConsoleFault RunState} (h : v.EndsIn result w) :
    result ≠ .ok .running ∧ ∃ n, v.runFor n = (result, w) := by
  induction h with
  | failed hstep => exact ⟨nofun, 1, runFor_of_failed hstep 0⟩
  | @stopped v w state hstep =>
    refine ⟨?_, 1, runFor_of_stop hstep 0⟩
    rintro ⟨⟩
    obtain ⟨u, hstep', -⟩ | ⟨fault, u, hstep'⟩ | ⟨u, hstep', hstopped⟩ := v.step_cases
    · cases hstep.symm.trans hstep'
    · cases hstep.symm.trans hstep'
    · rw [hstep] at hstep'
      injection hstep' with hresult
      injection hresult with hresult
      injection hresult with hstate
      exact hstopped hstate.symm
  | retired hstep _ ih =>
    obtain ⟨hresult, n, hrun⟩ := ih
    exact ⟨hresult, n + 1, (runFor_of_retired hstep n).trans hrun⟩

/-- A run ends in one way only. -/
theorem EndsIn.unique {result result' : Except ConsoleFault RunState} {w' : Monitor κ}
    (h : v.EndsIn result w) (h' : v.EndsIn result' w') : result = result' ∧ w = w' := by
  obtain ⟨hresult, n, hrun⟩ := runFor_of_endsIn h
  obtain ⟨hresult', n', hrun'⟩ := runFor_of_endsIn h'
  have hlarge : v.runFor (max n n') = (result, w) := by
    rw [runFor_of_le (n := n) (by rwa [hrun]) (Nat.le_max_left ..), hrun]
  have hlarge' : v.runFor (max n n') = (result', w') := by
    rw [runFor_of_le (n := n') (by rwa [hrun']) (Nat.le_max_right ..), hrun']
  exact Prod.mk.inj (hlarge.symm.trans hlarge')

/-- **Fuel**: a run ends just when it is not cut short with some amount of fuel. -/
theorem runs_iff {result : Except ConsoleFault RunState} :
    v.Runs result w ↔ result ≠ .ok .running ∧ ∃ fuel, v.run fuel = (result, w) := by
  constructor
  · exact runFor_of_endsIn
  · rintro ⟨hresult, fuel, hrun⟩
    have hends : v.announced.EndsIn (v.run fuel).1 (v.run fuel).2 :=
      endsIn_of_runFor (by rwa [show v.announced.runFor fuel = _ from hrun])
    rwa [hrun] at hends

/-! ## Reports -/

/-- Whatever was reported before, a machine takes the same step. -/
theorem step_withJournal (v : Monitor κ) (journal : Journal) :
    ∃ journal', (v.withJournal journal).step = (v.step.1, v.step.2.withJournal journal') := by
  have hquiet : (v.withJournal journal).bus.quiet = v.bus.quiet := rfl
  obtain ⟨hresult, hcpu, hbus⟩ := Cpu.step_congr Bus.likeness_quiet v.cpu hquiet
  have hnoted := Bus.eq_of_quiet hbus
  refine ⟨(v.cpu.step (v.withJournal journal).bus).bus.journal, Prod.ext hresult ?_⟩
  show ({ v with cpu := (v.cpu.step (v.withJournal journal).bus).cpu
                 bus := (v.cpu.step (v.withJournal journal).bus).bus } : Monitor κ) = _
  rw [hcpu, hnoted]
  rfl

/-- Machines that differ in their reports alone answer a run alike and still differ in their
reports alone. -/
theorem runFor_withJournal (v : Monitor κ) (journal : Journal) (n : Nat) :
    ∃ journal', (v.withJournal journal).runFor n =
      ((v.runFor n).1, (v.runFor n).2.withJournal journal') := by
  induction n generalizing v journal with
  | zero => exact ⟨journal, rfl⟩
  | succ n ih =>
    obtain ⟨journal', hnoted⟩ := v.step_withJournal journal
    obtain ⟨w, hstep, -⟩ | ⟨fault, w, hstep⟩ | ⟨w, hstep, -⟩ := v.step_cases
    all_goals rw [hstep] at hnoted
    · rw [runFor_of_retired hstep, runFor_of_retired hnoted]
      exact ih w journal'
    · rw [runFor_of_failed hstep, runFor_of_failed hnoted]
      exact ⟨journal', rfl⟩
    · rw [runFor_of_stop hstep, runFor_of_stop hnoted]
      exact ⟨journal', rfl⟩

/-- **Budgets**: spending a budget in two parts, of which the second one is spent unless the first
one failed, is spending it at once. A budget that is used up counts as so many instructions. One
that is not used up makes no difference: a larger one and none at all lead to the same answer and
the same machine, other reports aside, and every run that ends is such a run. -/
theorem runFor_budget (v : Monitor κ) :
    (∀ a b, v.runFor (a + b) =
      match v.runFor a with
      | (.error fault, w) => (.error fault, w)
      | (.ok _, w) => w.runFor b) ∧
    (∀ n, (v.runFor n).1 = .ok .running → (v.runFor n).2.cpu.steps = v.cpu.steps + n) ∧
    (∀ n, (v.runFor n).1 ≠ .ok .running →
      (∀ m, n ≤ m → v.runFor m = v.runFor n) ∧
      ∃ journal, let w := (v.runFor n).2.withJournal journal
        v.Runs (v.runFor n).1 w ∧ ∀ m, n ≤ m → v.run m = ((v.runFor n).1, w)) ∧
    ∀ result w, v.Runs result w → result ≠ .ok .running ∧
      ∃ n journal, (v.runFor n).1 = result ∧ w = (v.runFor n).2.withJournal journal := by
  -- the run without a budget starts from the same machine with one more report
  have hnoted (n : Nat) : ∃ journal, v.announced.runFor n =
      ((v.runFor n).1, (v.runFor n).2.withJournal journal) :=
    v.runFor_withJournal v.announced.bus.journal n
  refine ⟨v.runFor_add, fun n => steps_runFor, ?_, ?_⟩
  · intro n hn
    obtain ⟨journal, hsame⟩ := hnoted n
    have hlarge : ∀ m, n ≤ m →
        v.run m = ((v.runFor n).1, (v.runFor n).2.withJournal journal) := by
      intro m hle
      exact (runFor_of_le (v := v.announced) (by rwa [hsame]) hle).trans hsame
    have hruns := runs_iff.mpr ⟨hn, n, hlarge n (Nat.le_refl n)⟩
    exact ⟨fun m => runFor_of_le hn, journal, hruns, hlarge⟩
  · intro result w hruns
    obtain ⟨hresult, n, hrun⟩ := runs_iff.mp hruns
    obtain ⟨journal, hsame⟩ := hnoted n
    obtain ⟨hfirst, hsecond⟩ := Prod.mk.inj (hsame.symm.trans hrun)
    exact ⟨hresult, n, journal, hfirst, hsecond.symm⟩

/-- `ADD` and `HALT`: a budget of one instruction is used up, and any larger one is not. -/
theorem runFor_budget_add_halt :
    let v := ((Monitor.start {} (BufferConsole.ofInput []) .silent).loadWords 0x3000
      [0x1025, 0xF025]).2
    ((v.runFor 1).1 = .ok .running ∧ (v.runFor 1).2.cpu.steps = 1) ∧
      ((v.runFor 2).1 = .ok .halted ∧ v.runFor 1000 = v.runFor 2) ∧
      ∃ w, v.Runs (.ok .halted) w ∧ ∃ n journal, w = (v.runFor n).2.withJournal journal := by
  -- all that matters are the processor, the two words and that the console can be flushed
  have hruns : ∀ v : Monitor BufferConsole, v.cpu = .start 0x3000 →
      v.bus.memory.get 0x3000 = 0x1025 → v.bus.memory.get 0x3001 = 0xF025 →
      (v.runFor 1).1 = .ok .running ∧ (v.runFor 2).1 = .ok .halted := by
    rintro ⟨_, bus, pcStart, driver⟩ rfl hadd hhalt
    have hfetch : bus.read 0x3000 = (0x1025, bus) := by
      rw [Bus.read_of_ne bus (by decide), hadd]
    have hdecode : Instruction.decode 0x1025 = .add 0 0 (.immediate 5) := by decide
    let behind : Cpu :=
      ⟨⟨0x3001, #v[5, 0, 0, 0, 0, 0, 0, 0], .positive⟩, .running, 1, false, none⟩
    have hfirst : (Cpu.start 0x3000).step bus = ⟨.ok .retired, behind, bus⟩ := by
      rw [Cpu.step_of_running rfl, Cpu.fetched,
        show bus.read (Cpu.start 0x3000).regs.pc = _ from hfetch, hdecode]
      rfl
    have hstep : Monitor.step ⟨.start 0x3000, bus, pcStart, driver⟩ =
        (.ok .retired, ⟨behind, bus, pcStart, driver⟩) := by
      rw [step, hfirst]
    have hword : IsHalt (bus.read behind.regs.pc).1 := by
      show IsHalt (bus.read 0x3001).1
      rw [Bus.read_of_ne bus (by decide), hhalt]
      show IsHalt 0xF025
      decide
    obtain ⟨-, hsecond, -⟩ := Cpu.step_of_isHalt (c := behind) rfl hword
    have hstop : Monitor.step ⟨behind, bus, pcStart, driver⟩ =
        (.ok (.stopped .halted), (Monitor.step ⟨behind, bus, pcStart, driver⟩).2) :=
      Prod.ext hsecond rfl
    rw [runFor_of_retired hstep, runFor_of_retired hstep, runFor_of_stop hstop]
    exact ⟨rfl, rfl⟩
  intro v
  have hmemory : v.bus.memory = ((Ring.standard.init .zero).set 0x3000 0x1025).set 0x3001 0xF025 :=
    rfl
  obtain ⟨hone, htwo⟩ := hruns v rfl
    (by rw [hmemory, Memory.get_set_other (by decide), Memory.get_set_self])
    (by rw [hmemory, Memory.get_set_self])
  obtain ⟨-, hcount, henough, hfinds⟩ := runFor_budget v
  have hstopped : (v.runFor 2).1 ≠ .ok .running := by
    simp [htwo]
  obtain ⟨hlarge, journal, hends, -⟩ := henough 2 hstopped
  rw [htwo] at hends
  obtain ⟨-, n, journal', -, hsame⟩ := hfinds _ _ hends
  exact ⟨⟨hone, hcount 1 hone⟩, ⟨htwo, hlarge 1000 (by decide)⟩, _, hends, n, journal', hsame⟩

end Monitor

end LC3
