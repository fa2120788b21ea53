import LC3.Config
import LC3.Toml.Document

/-!
# Configurations as TOML documents

- `Toml.settings`: the settings among the entries of a document.
- `Toml.configuration`: the settings in a text.
-/

namespace LC3.Toml

/-- A setting that may be missing but not be of another kind. -/
def setting? {α : Type} (read : Value → Option α) (entries : Entries) (name : String) :
    Option (Option α) :=
  match entries.lookup name with
  | none => some none
  | some (.value v) => (read v).map some
  | some _ => none

/-- A natural number below `bound`. -/
def numberBelow (bound : Nat) : Value → Option Nat
  | .integer n => if 0 ≤ n ∧ n < bound then some n.toNat else none
  | _ => none

/-- A truth value. -/
def truth : Value → Option Bool
  | .boolean b => some b
  | _ => none

/-- A text. -/
def textValue : Value → Option String
  | .string s => some s
  | _ => none

/-- The settings among the entries of a document. Other entries do not count. -/
def settings (entries : Entries) : Option Config := do
  let start ← setting? (numberBelow UInt16.size) entries "pc_start"
  let trace ← setting? truth entries "trace"
  let sync ← setting? textValue entries "memory_sync"
  let limit ← setting? (numberBelow UInt32.size) entries "replay_poll_limit"
  return {
    pcStart := start.map UInt16.ofNat
    trace
    memorySync := sync
    replayPollLimit := limit.map UInt32.ofNat }

/-- The settings in a text, if it is a document with settings of the right kinds. -/
def configuration (text : String) : Option Config :=
  match Document.parse text with
  | .ok entries => settings entries
  | .error _ => none

end LC3.Toml
