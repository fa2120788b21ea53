import LC3.Event
import LC3.Text.Blank

/-!
# Settings from the environment

Each setting has a variable of its own. A value that makes no sense is reported and changes
nothing.

- `readNumber`, `readBool`: how values are read.
- `Config.readSetting`: what a variable adds, whichever setting it is for.
- `Config.override`: a configuration under the settings of an environment.
-/

namespace LC3

/-- What an environment says of a variable. -/
abbrev Environment := String → Option String

namespace Config

/-! ## Values -/

/-- The value of a digit of base ten or sixteen. -/
def digit? (base : Nat) (c : Char) : Option Nat :=
  let n :=
    if c.isDigit then c.toNat - 0x30
    else if 'a' ≤ c ∧ c ≤ 'f' then c.toNat - 0x61 + 10
    else if 'A' ≤ c ∧ c ≤ 'F' then c.toNat - 0x41 + 10
    else base
  if n < base then some n else none

/-- The number that digits stand for, behind the number `taken`. -/
def readDigits (base taken : Nat) : List Char → Option Nat
  | [] => some taken
  | c :: rest =>
    match digit? base c with
    | some d => readDigits base (taken * base + d) rest
    | none => none

/-- The number that one or more digits stand for, which a plus sign may precede. -/
def readUnsigned (base : Nat) : List Char → Option Nat
  | '+' :: c :: rest => readDigits base 0 (c :: rest)
  | ['+'] => none
  | [] => none
  | cs => readDigits base 0 cs

/-- A number without blanks around it: hexadecimal behind `0x`, decimal otherwise. -/
def readBare : List Char → Option Nat
  | '0' :: 'x' :: rest => readUnsigned 16 rest
  | '0' :: 'X' :: rest => readUnsigned 16 rest
  | cs => readUnsigned 10 cs

/-- A number of at most 64 bits. Blanks around it do not count. -/
def readNumber (text : String) : Option Nat :=
  (readBare (Text.trim text.toList)).filter (· < UInt64.size)

/-- The words for true. -/
def trueWords : List String := ["1", "true", "yes", "on"]

/-- The words for false. -/
def falseWords : List String := ["0", "false", "no", "off"]

/-- A truth value without the blanks around it, in any case. -/
def readBool (text : String) : Option Bool :=
  let bare := String.ofList ((Text.trim text.toList).map Char.toLower)
  if bare ∈ trueWords then some true
  else if bare ∈ falseWords then some false
  else none

/-! ## Variables -/

/-- The variable for the address of the first instruction. -/
def startVariable : String := "LC3_VMM_PC_START"

/-- The variable for the log of every instruction. -/
def traceVariable : String := "LC3_VMM_TRACE"

/-- The variable for the file that receives the memory. -/
def syncVariable : String := "LC3_VMM_MEMORY_SYNC"

/-- The variable for the patience of the host. -/
def pollLimitVariable : String := "LC3_VMM_REPLAY_POLL_LIMIT"

/-- All variables. -/
def variableNames : List String :=
  [startVariable, traceVariable, syncVariable, pollLimitVariable]

/-- A number that is less than `bound`. -/
def readBelow (bound : Nat) (text : String) : Option Nat :=
  (readNumber text).filter (· < bound)

/-- The address that a value stands for. -/
def readStart (text : String) : Option Word := (readBelow UInt16.size text).map UInt16.ofNat

/-- The number of requests that a value stands for. -/
def readPollLimit (text : String) : Option UInt32 :=
  (readBelow UInt32.size text).map UInt32.ofNat

/-- The setting of one variable: what it adds to a configuration, and what there is to
report. -/
abbrev Setting := Config × List Event

/-- Nothing set. -/
def unset : Setting := (empty, [])

/-- The setting of a variable whose value has to be read. A value that makes no sense is
reported and sets nothing. -/
def readSetting {α : Type} (name : String) (read : String → Option α) (layer : α → Config)
    (report : α → List Event) (text : String) : Setting :=
  match read text with
  | some value => (layer value, report value)
  | none => (empty, [.overrideIgnored name text])

/-- The address of the first instruction as a variable gives it. -/
def startSetting : String → Setting :=
  readSetting startVariable readStart (fun w => { pcStart := some w }) fun w => [.startOverridden w]

/-- The log of every instruction as a variable gives it. -/
def traceSetting : String → Setting :=
  readSetting traceVariable readBool (fun b => { trace := some b }) fun _ => []

/-- The file that receives the memory as a variable gives it. -/
def syncSetting (text : String) : Setting :=
  ({ memorySync := some text }, [.syncOverridden text])

/-- The patience of the host as a variable gives it. -/
def pollLimitSetting : String → Setting :=
  readSetting pollLimitVariable readPollLimit (fun n => { replayPollLimit := some n }) fun _ => []

/-- The settings of an environment, in the order in which they are reported. -/
def settings (env : Environment) : List Setting :=
  [(env startVariable).elim unset startSetting,
    (env traceVariable).elim unset traceSetting,
    (env syncVariable).elim unset syncSetting,
    (env pollLimitVariable).elim unset pollLimitSetting]

/-- The configuration under the settings of an environment, and what there is to report. -/
def override (c : Config) (env : Environment) : Config × List Event :=
  ((settings env).foldl (fun c s => c.merge s.1) c, (settings env).flatMap Prod.snd)

end Config

end LC3
