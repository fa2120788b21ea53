import LC3.AddressMap
import LC3.Text.Quoted

/-!
# Configuration

Four settings, each of which may be left unset. Settings come in layers; a layer above
replaces what it sets and leaves the rest.

- `Config.merge`: one layer over another, with `merge_assoc`, `merge_empty`, `empty_merge`.
- `Config.start`, `Config.traces`, `Config.pollLimit`: the settings with their defaults.
- `Config.sample`: a commented file to start from.
-/

namespace LC3

/-- The settings of a run. -/
structure Config where
  /-- The address of the first instruction. -/
  pcStart : Option Word := none
  /-- Whether every instruction is logged. -/
  trace : Option Bool := none
  /-- The file that receives the memory when the program stops. -/
  memorySync : Option String := none
  /-- How often the host asks for the completion of a request before it gives up. -/
  replayPollLimit : Option UInt32 := none
  deriving DecidableEq

namespace Config

/-- No setting at all. -/
def empty : Config := {}

/-- The layer `above` over the layer `below`. -/
def merge (below above : Config) : Config where
  pcStart := above.pcStart.or below.pcStart
  trace := above.trace.or below.trace
  memorySync := above.memorySync.or below.memorySync
  replayPollLimit := above.replayPollLimit.or below.replayPollLimit

/-- How often the host asks for completion unless configured otherwise. -/
def defaultPollLimit : UInt32 := 10000

/-- The address of the first instruction. -/
def start (c : Config) : Word := c.pcStart.getD programStart

/-- Whether every instruction is logged. -/
def traces (c : Config) : Bool := c.trace.getD false

/-- How often the host asks for completion. -/
def pollLimit (c : Config) : UInt32 := c.replayPollLimit.getD defaultPollLimit

/-- A setting in descriptions. -/
def settingText {α : Type} (text : α → String) : Option α → String
  | none => "None"
  | some value => "Some(" ++ text value ++ ")"

/-- All settings in one line. -/
def describe (c : Config) : String :=
  "Config \x7b pc_start: " ++ settingText (fun w => toString w.toNat) c.pcStart ++
    ", trace: " ++ settingText (fun b => if b then "true" else "false") c.trace ++
    ", memory_sync: " ++ settingText Text.quoted c.memorySync ++
    ", replay_poll_limit: " ++ settingText (fun n => toString n.toNat) c.replayPollLimit ++ " \x7d"

/-- A commented configuration file. -/
def sample : String := "\n".intercalate [
  "# lc3-vmm configuration",
  "# Place this file at ~/.config/lc3-vmm/config.toml or ./lc3-vmm.toml",
  "",
  "# Address of the first fetched instruction (default 0x3000)",
  "pc_start = 0x3000",
  "",
  "# Log every instruction at trace level (default false)",
  "# trace = true",
  "",
  "# Dump the whole address space here when the program stops (optional)",
  "# memory_sync = \"memory.img\"",
  "",
  "# Completion polls before the host-side block driver times out",
  "# replay_poll_limit = 10000",
  ""]

/-! ## Laws -/

/-- Layers may be grouped in any way. -/
theorem merge_assoc (a b c : Config) : (a.merge b).merge c = a.merge (b.merge c) := by
  simp [merge, Option.or_assoc]

/-- A layer without settings above changes nothing. -/
@[simp] theorem merge_empty (a : Config) : a.merge empty = a := rfl

/-- A layer without settings below adds nothing. -/
@[simp] theorem empty_merge (a : Config) : empty.merge a = a := by
  simp [merge, empty]

end Config

end LC3
