import LC3.CommandLine
import LC3.Input
import LC3.LogFilter
import LC3.Platform

/-!
# The program

The outer layer. It looks up the environment, the account and the files that a run depends on,
lets the machine work against the standard streams, and writes the memory to its file. What is
said and how the program ends is up to `Command`.
-/

namespace LC3.Program

/-- The variables that a run depends on. -/
def variableNames : List String := ["HOME", "XDG_CONFIG_HOME"] ++ Config.variableNames

/-- The environment of the process. -/
def environment : IO Environment := do
  let known ← variableNames.filterMapM fun name => do
    return (← IO.getEnv name).map fun value => (name, value)
  return fun name => known.lookup name

/-- The home directory of a user, if the list of accounts has one. -/
def homeOf (user accounts : String) : Option String := do
  let fields ← ((accounts.splitOn "\n").map (·.splitOn ":")).find? (·[2]? = some user)
  fields[5]?.filter (· != "")

/-- The user that a process runs for, as its status tells. -/
def userOf (status : String) : Option String := do
  let fields ← ((status.splitOn "\n").map (·.splitOn "\t")).find? (·[0]? = some "Uid:")
  fields[1]?

/-- The home directory of the account, as far as the system knows. -/
def accountHome : IO (Option String) := do
  try
    let status ← IO.FS.readFile "/proc/self/status"
    let accounts ← IO.FS.readFile "/etc/passwd"
    return (userOf status).bind (homeOf · accounts)
  catch _ => return none

/-- The tree with what a name leads to. What cannot be read counts as missing. -/
def lookAt (files : FileTree) (name : String) : IO FileTree := do
  try
    if ← (← IO.FS.realPath name).isDir then return files.withDirectory name
    return files.withFile name (← IO.FS.readBinFile name).toList
  catch _ => return files

/-- The tree with what a name leads to and all that it comes by on the way. -/
def look (files : FileTree) (name : String) : IO FileTree :=
  let parts := FileTree.parts name
  let start := if name.startsWith "/" then "/" else ""
  let names := (List.range parts.length).map fun i =>
    start ++ "/".intercalate (parts.take (i + 1))
  names.foldlM lookAt files

/-- The files that a run depends on. -/
def surroundings (platform : Platform) (args : List String) : IO FileTree := do
  let image := match Command.parse args with
    | .ok (.run options) => [options.image]
    | _ => []
  let names := (Config.userFile platform).toList ++ [Config.localFile] ++ image
  let here := FileTree.parts (← IO.currentDir).toString
  names.foldlM look (FileTree.ofCurrent here)

/-- The level of the log, warnings and errors unless `RUST_LOG` says otherwise. -/
def logLevel : IO (Option Level) := do
  return LogFilter.level ((← IO.getEnv "RUST_LOG").getD "warn")

/-- The machine with a byte of input for its next step, if it takes one and there is one. -/
def feed (input : IO.FS.Stream) (v : Monitor BufferConsole) : IO (Monitor BufferConsole) := do
  if v.bus.console.input.isEmpty ∧ v.takesInput then
    return v.feed (← input.read 1).toList
  else return v

/-- The machine after all that it wrote and reported is shown. -/
def present (output errors : IO.FS.Stream) (v : Monitor BufferConsole) :
    IO (Monitor BufferConsole) := do
  for event in v.bus.journal.events do
    errors.putStrLn s!"[{event.level.name}] {event.message}"
  if v.bus.console.output.isEmpty then
    return { v with bus := { v.bus with journal := v.bus.journal.cleared } }
  else
    output.write ⟨v.bus.console.output⟩
    output.flush
    let console := { v.bus.console with output := #[] }
    return { v with bus := { v.bus with console, journal := v.bus.journal.cleared } }

/-- Execute instructions against the standard streams until the machine stops or a service
fails. -/
partial def drive (input output errors : IO.FS.Stream) (v : Monitor BufferConsole) :
    IO (Except ConsoleFault RunState × Monitor BufferConsole) := do
  match (← feed input v).step with
  | (result, v) =>
    let v ← present output errors v
    match result with
    | .error fault => return (.error fault, v)
    | .ok (.stopped state) => return (.ok state, v)
    | .ok .retired => drive input output errors v

/-- The text of a failure of the system. -/
def causeText : IO.Error → String
  | .noFileOrDirectory .. => IoError.message .notFound
  | .inappropriateType _ 21 _ => IoError.message .isDirectory
  | .inappropriateType .. => IoError.message .notDirectory
  | .invalidArgument _ 36 _ => IoError.message .nameTooLong
  | e => toString e

/-- The status that the process ends with. A program that gives up ends as one that its own
signal has killed. -/
def statusOf : Exit → UInt32
  | .status code => code.toUInt32
  | .abort => 134

/-- Show a transcript and end as it does. -/
def close (output errors : IO.FS.Stream) (t : Transcript) : IO UInt32 := do
  output.write ⟨t.stdout⟩
  output.flush
  errors.putStr t.stderr
  return statusOf t.exit

/-- Run a machine that is ready, save its memory where that is wanted, and end. -/
def run (input output errors : IO.FS.Stream) (files : FileTree) (ready : Command.Ready) :
    IO UInt32 := do
  let (result, v) ← drive input output errors ready.machine.announced
  let ending := Command.conclude { ready.config with memorySync := none } files result v
  match ready.config.memorySync, result with
  | some name, .ok _ =>
    if let some cause := FileTree.nameFault? name then
      errors.putStr (Command.failure cause.message)
      return 1
    try
      IO.FS.writeBinFile name ⟨v.bus.memory.image.toArray⟩
      discard <| present output errors { v with bus := v.bus.report (.memorySynced name) }
      close output errors ending
    catch e =>
      errors.putStr (Command.failure (causeText e))
      return 1
  | _, _ => close output errors ending

end LC3.Program

open LC3 in
/-- The program. -/
def main (args : List String) : IO UInt32 := do
  let (input, output, errors) := (← IO.getStdin, ← IO.getStdout, ← IO.getStderr)
  let env ← Program.environment
  let platform := Platform.ofEnvironment env (← Program.accountHome)
  let files ← Program.surroundings platform args
  let journal := Journal.ofLevel (← Program.logLevel)
  match Command.prepare platform args env files journal with
  | .error transcript => Program.close output errors transcript
  | .ok ready => Program.run input output errors files ready
