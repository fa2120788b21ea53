import LC3.Cpu
import LC3.Proofs.Word.Signed

/-!
# The reference machine

What an instruction does, written down over integers as an architecture manual has it: an
instruction is a number whose digits name registers, offsets count from below zero, and every
sum is taken modulo `2 ^ 16`. The reference machine has the bus in common with the processor,
and nothing else: no bit operations, no decoding ahead of execution, and no failures, since it
is made for consoles that do not fail.

- `Reference.Numbers`, `Reference.Machine`: registers and state as numbers.
- `Reference.execute`: one instruction, by its operation code.
- `Reference.service`: the services of `TRAP`.
- `Reference.step`: fetch, then execute.
-/

namespace LC3

namespace Reference

/-- The remainder of an integer modulo `2 ^ 16`. -/
def wrap (x : Int) : Nat := (x % 65536).toNat

/-- The registers as numbers below `2 ^ 16`. -/
structure Numbers where
  /-- The program counter. -/
  pc : Nat
  /-- The general registers. -/
  reg : Reg → Nat
  /-- The condition code. -/
  cond : Condition

/-- The condition code of a number, whose upper half counts as negative. -/
def condition (value : Nat) : Condition :=
  if value = 0 then .zero else if value < 32768 then .positive else .negative

namespace Numbers

/-- A number in a general register. -/
def put (g : Numbers) (r : Reg) (value : Nat) : Numbers :=
  { g with reg := fun i => if i = r then value else g.reg i }

/-- A number in a general register, and its condition code. -/
def assign (g : Numbers) (r : Reg) (value : Nat) : Numbers :=
  { g.put r value with cond := condition value }

end Numbers

/-- The reference machine. -/
structure Machine where
  /-- The registers. -/
  regs : Numbers
  /-- Whether it runs. -/
  state : RunState
  /-- The number of instructions executed. -/
  steps : Nat
  /-- The operation that stopped it for good, and its address. -/
  fault : Option (BadOpcode × Nat)

/-- What an instruction leaves: registers, bus, and what it asks for. -/
structure Outcome (κ δ : Type) where
  /-- The registers. -/
  regs : Numbers
  /-- The bus. -/
  bus : Bus κ δ
  /-- What is asked for. -/
  signal : Signal

variable {κ δ : Type} [Console κ]

/-! ## Memory and console -/

/-- One load through the bus. -/
def load (b : Bus κ δ) (address : Nat) : Nat × Bus κ δ :=
  let (value, b) := b.read (UInt16.ofNat address)
  (value.toNat, b)

/-- One store through the bus. -/
def store [Handler δ] (b : Bus κ δ) (address value : Nat) : Bus κ δ :=
  b.write (UInt16.ofNat address) (UInt16.ofNat value)

/-- The next byte of input, or nothing at its end. -/
def receive (b : Bus κ δ) : Option UInt8 × Bus κ δ :=
  match Console.readByte b.console with
  | (.ok byte, console) => (byte, { b with console })
  | (.error _, console) => (none, { b with console })

/-- Make all output visible. -/
def flush (b : Bus κ δ) : Bus κ δ := { b with console := (Console.flush b.console).2 }

/-- Write bytes and make them visible. -/
def display (b : Bus κ δ) (bytes : List UInt8) : Bus κ δ :=
  flush { b with console := (Console.writeBytes b.console bytes).2 }

/-- The numbers from an address on, around the ceiling, up to the first zero and at most one
for each address. -/
def text (b : Bus κ δ) (address : Nat) : List Nat :=
  let numbers := (List.range 65536).map fun i : Nat =>
    (b.memory.get (UInt16.ofNat (wrap (address + i)))).toNat
  numbers.takeWhile (· ≠ 0)

/-- The two digits of a number to the base 256, the lower one first. The upper one counts
unless it is zero. -/
def pair (n : Nat) : List UInt8 :=
  if n / 256 = 0 then [UInt8.ofNat (n % 256)] else [UInt8.ofNat (n % 256), UInt8.ofNat (n / 256)]

/-! ## Instructions -/

/-- The service of a vector. -/
def service (vector : Nat) (g : Numbers) (b : Bus κ δ) : Outcome κ δ :=
  match vector with
  | 0x20 =>
    match receive b with
    | (none, b) => ⟨g.assign 0 0xFFFF, b, .proceed⟩
    | (some byte, b) => ⟨g.assign 0 byte.toNat, b, .proceed⟩
  | 0x21 => ⟨g, display b [UInt8.ofNat (g.reg 0 % 256)], .proceed⟩
  | 0x22 => ⟨g, display b ((text b (g.reg 0)).map fun n => UInt8.ofNat (n % 256)), .proceed⟩
  | 0x23 =>
    match receive b with
    | (none, b) => ⟨g.assign 0 0xFFFF, b, .proceed⟩
    | (some byte, b) => ⟨g.assign 0 byte.toNat, display b [byte], .proceed⟩
  | 0x24 => ⟨g, display b ((text b (g.reg 0)).flatMap pair), .proceed⟩
  | 0x25 => ⟨g, flush b, .halt⟩
  | _ => ⟨g, b, .proceed⟩

/-- The register named by the octal digit of `w` at the place that `unit` is worth. -/
def register (w unit : Nat) : Reg := Fin.ofNat 8 (w / unit)

/-- The second operand of `ADD` and `AND`. -/
def operand (w : Nat) (g : Numbers) : Int :=
  if w / 32 % 2 = 1 then signed 5 w else g.reg (register w 1)

/-- Whether the mask of a branch meets the condition code. -/
def meets (w : Nat) : Condition → Bool
  | .negative => w / 2048 % 2 = 1
  | .zero => w / 1024 % 2 = 1
  | .positive => w / 512 % 2 = 1

/-- The effect of the instruction `w`, when the program counter already points behind it. -/
def execute [Handler δ] (w : Nat) (g : Numbers) (b : Bus κ δ) : Outcome κ δ :=
  let dr := register w 512
  let base := register w 64
  let near := wrap (g.pc + signed 9 w)
  let based := wrap (g.reg base + signed 6 w)
  match w / 4096 with
  | 0 => ⟨if meets w g.cond then { g with pc := near } else g, b, .proceed⟩
  | 1 => ⟨g.assign dr (wrap (g.reg base + operand w g)), b, .proceed⟩
  | 2 =>
    let (value, b) := load b near
    ⟨g.assign dr value, b, .proceed⟩
  | 3 => ⟨g, store b near (g.reg dr), .proceed⟩
  | 4 =>
    let target := if w / 2048 % 2 = 1 then wrap (g.pc + signed 11 w) else g.reg base
    ⟨{ g.put 7 g.pc with pc := target }, b, .proceed⟩
  | 5 => ⟨g.assign dr (g.reg base &&& wrap (operand w g)), b, .proceed⟩
  | 6 =>
    let (value, b) := load b based
    ⟨g.assign dr value, b, .proceed⟩
  | 7 => ⟨g, store b based (g.reg dr), .proceed⟩
  | 8 => ⟨g, b, .abort .rti⟩
  | 9 => ⟨g.assign dr (65535 - g.reg base), b, .proceed⟩
  | 10 =>
    let (pointer, b) := load b near
    let (value, b) := load b pointer
    ⟨g.assign dr value, b, .proceed⟩
  | 11 =>
    let (pointer, b) := load b near
    ⟨g, store b pointer (g.reg dr), .proceed⟩
  | 12 => ⟨{ g with pc := g.reg base }, b, .proceed⟩
  | 13 => ⟨g, b, .abort .reserved⟩
  | 14 => ⟨g.assign dr near, b, .proceed⟩
  | _ => service (w % 256) (g.put 7 g.pc) b

/-- What a step that leaves the machine comes to. -/
def Machine.result (m : Machine) : StepResult :=
  if m.state = .running then .retired else .stopped m.state

/-- The machine after an executed instruction whose address is `address`. -/
def retire (m : Machine) (address : Nat) : Signal → Machine
  | .proceed => { m with steps := m.steps + 1 }
  | .halt => { m with steps := m.steps + 1, state := .halted }
  | .abort opcode =>
    { m with steps := m.steps + 1, state := .aborted, fault := some (opcode, address) }

/-- One step of a machine that runs: fetch a number, move the program counter behind it, and
execute it. -/
def step [Handler δ] (m : Machine) (b : Bus κ δ) : Machine × Bus κ δ :=
  let (w, b) := load b m.regs.pc
  let outcome := execute w { m.regs with pc := wrap (m.regs.pc + 1) } b
  (retire { m with regs := outcome.regs } m.regs.pc outcome.signal, outcome.bus)

theorem step_of_load [Handler δ] {m : Machine} {b b' : Bus κ δ} {w : Nat} {outcome : Outcome κ δ}
    (hload : load b m.regs.pc = (w, b'))
    (hexecute : execute w { m.regs with pc := wrap (m.regs.pc + 1) } b' = outcome) :
    step m b =
      (retire { m with regs := outcome.regs } m.regs.pc outcome.signal, outcome.bus) := by
  rw [step, hload]
  simp only [hexecute]

end Reference

end LC3
