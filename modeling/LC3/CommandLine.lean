import LC3.Config.Load
import LC3.Monitor

/-!
# The command line

- `Command.parse`: what the arguments ask for.
- `Command.prepare`, `Command.conclude`: what comes before the first instruction and after the
  last one.
- `Command.execute`: a whole run of the program, from its arguments, its environment, the files
  and its input to its output, its exit and the files afterwards.
-/

namespace LC3

/-- How to run an image. -/
structure RunOptions where
  /-- The image file. -/
  image : String
  /-- Whether every instruction is logged whatever the configuration says. -/
  trace : Bool
  /-- The file that receives the memory whatever the configuration says. -/
  syncMemory : Option String
  deriving DecidableEq, Repr

/-- What the arguments ask for. -/
inductive Command where
  /-- To explain the arguments. -/
  | help
  /-- To show a configuration file. -/
  | sampleConfig
  /-- To run an image. -/
  | run (options : RunOptions)
  deriving DecidableEq, Repr

/-- Why the arguments make no sense. -/
inductive UsageError where
  /-- There is nothing to run. -/
  | missingImage
  /-- There is more than one image. -/
  | extraImage (word : String)
  /-- There is no such option. -/
  | unknownOption (word : String)
  /-- An option lacks its value. -/
  | missingValue (option : String)
  deriving DecidableEq, Repr

/-- The text reported for arguments that make no sense. -/
def UsageError.message : UsageError → String
  | .missingImage => "missing image file"
  | .extraImage word => s!"only one image file may be given, got extra {Text.quoted word}"
  | .unknownOption word => s!"unknown option: {word}"
  | .missingValue option => s!"{option} needs a value"

/-- The settings of a command line, as a layer over the configuration. -/
def RunOptions.layer (o : RunOptions) : Config where
  trace := if o.trace then some true else none
  memorySync := o.syncMemory

namespace Command

/-- How the arguments are to be given. -/
def usage : String :=
  "usage: lc3-vmm [--trace] [--sync-memory FILE] <image-file>\n       lc3-vmm --sample-config"

/-- What the arguments so far have said. -/
structure Gathered where
  /-- The image file. -/
  image : Option String := none
  /-- Whether every instruction is logged. -/
  trace : Bool := false
  /-- The file that receives the memory. -/
  syncMemory : Option String := none

/-- What the rest of the arguments asks for, given what has been said. -/
def parseFrom (g : Gathered) : List String → Except UsageError Command
  | [] =>
    match g.image with
    | none => .error .missingImage
    | some image => .ok (.run ⟨image, g.trace, g.syncMemory⟩)
  | ["--sync-memory"] => .error (.missingValue "--sync-memory")
  | "--sync-memory" :: value :: rest => parseFrom { g with syncMemory := some value } rest
  | word :: rest =>
    if word = "--help" ∨ word = "-h" then .ok .help
    else if word = "--sample-config" then .ok .sampleConfig
    else if word = "--trace" then parseFrom { g with trace := true } rest
    else if word.toList.head? = some '-' then .error (.unknownOption word)
    else if g.image.isSome then .error (.extraImage word)
    else parseFrom { g with image := some word } rest

/-- What the arguments ask for. -/
def parse (args : List String) : Except UsageError Command := parseFrom {} args

end Command

/-- How the program ends. -/
inductive Exit where
  /-- With a status. -/
  | status (code : Nat)
  /-- By giving up. -/
  | abort
  deriving DecidableEq, Repr

/-- What a run of the program leaves. -/
structure Transcript where
  /-- How it ended. -/
  exit : Exit
  /-- What it wrote to its output. -/
  stdout : Array UInt8
  /-- What it wrote to its error output. -/
  stderr : String
  /-- The files afterwards. -/
  files : FileTree

namespace Command

/-- A run that writes nothing but text. -/
def saying (files : FileTree) (exit : Exit) (stdout stderr : String) : Transcript :=
  ⟨exit, stdout.toUTF8.data, stderr, files⟩

/-- How the program ends when the machine has stopped. -/
def exitOf : RunState → Exit
  | .aborted => .abort
  | _ => .status 0

/-- What is said at the end. -/
def lastWords : Exit → String
  | .abort => "aborted: unsupported opcode\n"
  | .status _ => ""

/-- A machine with its image loaded, and the configuration it runs under. -/
structure Ready where
  /-- The configuration. -/
  config : Config
  /-- The machine. -/
  machine : Monitor BufferConsole

/-- Load an image as configured. -/
def loadImage (config : Config) (image : String) (files : FileTree) (journal : Journal) :
    Except Transcript Ready :=
  match (Monitor.start config (.ofInput []) journal).loadFile files image with
  | (.error cause, _) =>
    .error (saying files (.status 1) "" s!"failed to load image: {cause.message}\n")
  | (.ok _, v) => .ok ⟨config, v⟩

/-- Everything before the first instruction. Arguments that run nothing end here. -/
def prepare (platform : Platform) (args : List String) (env : Environment) (files : FileTree)
    (journal : Journal) : Except Transcript Ready :=
  match parse args with
  | .error cause => .error (saying files (.status 2) "" s!"{cause.message}\n{usage}\n")
  | .ok .help => .error (saying files (.status 0) s!"{usage}\n" "")
  | .ok .sampleConfig =>
    let location := (Config.userFile platform).elim "" fun name =>
      s!"# user config location: {name}\n"
    .error (saying files (.status 0) Config.sample location)
  | .ok (.run options) =>
    let (config, events) := Config.load platform files env
    loadImage (config.merge options.layer) options.image files (journal.recordAll events)

/-- The text for a failure that ends the program. -/
def failure (text : String) : String := s!"Error: {text}\n"

/-- The text for a failed service that ends the program. -/
def faultText (fault : ConsoleFault) : String :=
  failure s!"{fault.message}\n\nCaused by:\n    {fault.cause.message}"

/-- Everything after the last instruction. If the machine has stopped, the memory is saved
where that is wanted. -/
def conclude (config : Config) (files : FileTree) (result : Except ConsoleFault RunState)
    (v : Monitor BufferConsole) : Transcript :=
  let stdout := v.bus.console.output
  match result with
  | .error fault => ⟨.status 1, stdout, faultText fault, files⟩
  | .ok state =>
    let exit := exitOf state
    match config.memorySync with
    | none => ⟨exit, stdout, lastWords exit, files⟩
    | some name =>
      match v.sync files name with
      | (.error cause, _) => ⟨.status 1, stdout, failure cause.message, files⟩
      | (.ok files, _) => ⟨exit, stdout, lastWords exit, files⟩

/-- Carry out what the arguments ask for, without a log. A program is cut short after `fuel`
instructions. -/
def execute (platform : Platform) (args : List String) (env : Environment) (files : FileTree)
    (input : List UInt8) (fuel : Nat) : Transcript :=
  match prepare platform args env files .silent with
  | .error transcript => transcript
  | .ok ready =>
    let (result, v) := (ready.machine.feed input).run fuel
    conclude ready.config files result v

end Command

end LC3
