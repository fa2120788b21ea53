import LC3.Instruction

/-!
# Registers

- `Condition`: the condition code; exactly one of the three holds at any time.
- `Registers`: the program counter, the eight general registers and the condition code.
- `Registers.set` leaves the condition code alone, `Registers.assign` derives it from the
  value written.
-/

namespace LC3

/-- The condition code. -/
inductive Condition where
  /-- The value was negative as a signed number. -/
  | negative
  /-- The value was zero. -/
  | zero
  /-- The value was greater than zero. -/
  | positive
  deriving DecidableEq, Repr

namespace Condition

/-- The condition code of a value. -/
def ofWord (w : Word) : Condition :=
  if w = 0 then .zero else if w ≥ 0x8000 then .negative else .positive

/-- The bit that stands for a condition code in a branch mask. -/
def bits : Condition → Word
  | negative => 4
  | zero => 2
  | positive => 1

/-- Whether a branch mask selects the condition code. -/
def isIn (c : Condition) (mask : Word) : Bool := mask &&& c.bits != 0

/-- The name of a condition code in descriptions. -/
def name : Condition → String
  | negative => "Negative"
  | zero => "Zero"
  | positive => "Positive"

end Condition

/-- The registers of the machine. -/
structure Registers where
  /-- The program counter; while an instruction executes it points behind it. -/
  pc : Word
  /-- The general registers. -/
  general : Vector Word 8
  /-- The condition code. -/
  cond : Condition
  deriving DecidableEq

namespace Registers

/-- The registers of a machine that is about to start at `pc`. -/
def start (pc : Word) : Registers := ⟨pc, .replicate 8 0, .positive⟩

/-- The contents of a general register. -/
def get (g : Registers) (r : Reg) : Word := g.general[r.val]

/-- A value in a general register, with the condition code as it was. -/
def set (g : Registers) (r : Reg) (value : Word) : Registers :=
  { g with general := g.general.set r.val value }

/-- The condition code of what a general register holds. -/
def refresh (g : Registers) (r : Reg) : Registers :=
  { g with cond := .ofWord (g.get r) }

/-- A value in a general register and its condition code. -/
def assign (g : Registers) (r : Reg) (value : Word) : Registers :=
  (g.set r value).refresh r

theorem get_set (g : Registers) (r i : Reg) (value : Word) :
    (g.set r value).get i = if i = r then value else g.get i := by
  simp only [get, set, Vector.getElem_set, Fin.ext_iff, eq_comm]

/-- The condition code is no general register. -/
theorem get_assign (g : Registers) (r i : Reg) (value : Word) :
    (g.assign r value).get i = if i = r then value else g.get i := g.get_set r i value

/-- The registers in one line; a general register appears when it is not zero. -/
def describe (g : Registers) : String :=
  let general := (List.finRange 8).filterMap fun r =>
    if g.get r = 0 then none else some s!", r{r.val}: {Text.wordHex (g.get r)}"
  "Registers \x7b pc: " ++ Text.wordHex g.pc ++ ", cond: " ++ g.cond.name ++
    String.join general ++ " \x7d"

end Registers

end LC3
