import LC3.CommandLine
import LC3.Proofs.Config.Environment
import LC3.Proofs.Image.Loading
import LC3.Proofs.Monitor.Instruction

/-!
# Layers of configuration

The configuration of a run is made of four layers: the user's file, the file of the current
directory, the environment and the command line. Each setting has the value of the uppermost layer
that sets it, whatever the layers say about other settings, and a layer that cannot be made sense
of sets nothing. What a text says and where the user's file lies is up to the platform, which may be
any. The machine that runs is the one that this configuration asks for.

- `Config.Aspect`: a setting, as what merging does to it.
- `Prevails`: the value of the first source that has one, as a relation.
- `Config.pile`: layers laid over one another; `Aspect.prevails`: what a pile sets.
- `Config.Grouping`: any way of laying layers over one another. All ways make the same pile
  (`settle_eq_pile`).
- `Config.fileSettings`: what a file sets. `Command.configuration_eq_pile`: a run has four layers.
- `Command.Ready.Configured`, `Command.saved`: what a configuration means for a machine and for the
  files. `Command.RunsUnder`: a command line that runs an image under a configuration.
- `Command.layering`: what a run is configured with.
-/

namespace LC3

/-- The first source that has a value decides; without any there is none. -/
inductive Prevails {α : Type} : List (Option α) → Option α → Prop
  /-- There is no source left. -/
  | unset : Prevails [] none
  /-- The first source has a value. -/
  | set (value : α) (rest : List (Option α)) : Prevails (some value :: rest) (some value)
  /-- The first source has no value. -/
  | skip {rest : List (Option α)} {value : Option α} (h : Prevails rest value) :
      Prevails (none :: rest) value

/-- A source without a value makes no difference. -/
theorem Prevails.of_skip {α : Type} {rest : List (Option α)} {value : Option α}
    (h : Prevails (none :: rest) value) : Prevails rest value := by
  cases h with
  | skip h => exact h

theorem Prevails.eq_findSome? {α : Type} {sources : List (Option α)} {value : Option α}
    (h : Prevails sources value) : value = sources.findSome? id := by
  induction h with
  | unset => rfl
  | set value rest => rfl
  | skip h ih => exact ih

namespace Config

open Function (update update_of_ne)

/-! ## Piles -/

/-- A setting of configurations: what is above comes first, and setting nothing means no value. -/
structure Aspect (α : Type) where
  /-- The value in a configuration. -/
  get : Config → Option α
  /-- Without settings there is no value. -/
  get_empty : get empty = none
  /-- The value above counts, or else the value below. -/
  get_merge : ∀ below above, get (below.merge above) = (get above).or (get below)

namespace Aspect

/-- The address of the first instruction. -/
def pcStart : Aspect Word := ⟨Config.pcStart, rfl, fun _ _ => rfl⟩

/-- The log of every instruction. -/
def trace : Aspect Bool := ⟨Config.trace, rfl, fun _ _ => rfl⟩

/-- The file that receives the memory. -/
def memorySync : Aspect String := ⟨Config.memorySync, rfl, fun _ _ => rfl⟩

/-- The patience of the host. -/
def replayPollLimit : Aspect UInt32 := ⟨Config.replayPollLimit, rfl, fun _ _ => rfl⟩

end Aspect

/-- A layer that is missing has no value. -/
theorem Aspect.get_getD {α : Type} (f : Aspect α) (layer : Option Config) :
    f.get (layer.getD empty) = layer.bind f.get := by
  cases layer with
  | none => exact f.get_empty
  | some c => rfl

/-- Layers over one another, the uppermost one first. -/
def pile : List Config → Config
  | [] => empty
  | above :: rest => (pile rest).merge above

/-- **A pile** gives each setting the value of the uppermost layer that has one. -/
theorem Aspect.prevails {α : Type} (f : Aspect α) (layers : List Config) :
    Prevails (layers.map f.get) (f.get (pile layers)) := by
  induction layers with
  | nil =>
    rw [pile, f.get_empty]
    exact .unset
  | cons above rest ih =>
    rw [pile, f.get_merge, List.map_cons]
    cases f.get above with
    | none => exact .skip ih
    | some value => exact .set value _

theorem pile_append (above below : List Config) :
    pile (above ++ below) = (pile below).merge (pile above) := by
  induction above with
  | nil => rfl
  | cons c above ih => rw [List.cons_append, pile, ih, merge_assoc, pile]

/-- A way to lay layers over one another, two parts at a time. -/
inductive Grouping where
  /-- A single layer. -/
  | layer (c : Config)
  /-- One part over another. -/
  | stack (below above : Grouping)

namespace Grouping

/-- The layers, the uppermost one first. -/
def layers : Grouping → List Config
  | layer c => [c]
  | stack below above => above.layers ++ below.layers

/-- What merging the parts makes of them. -/
def settle : Grouping → Config
  | layer c => c
  | stack below above => below.settle.merge above.settle

/-- It makes no difference in which order parts are merged. -/
theorem settle_eq_pile (g : Grouping) : g.settle = pile g.layers := by
  induction g with
  | layer c => exact (empty_merge c).symm
  | stack below above ihbelow ihabove => rw [settle, ihbelow, ihabove, layers, pile_append]

end Grouping

/-! ## Files -/

section Files

variable (platform : Platform) (files : FileTree)

/-- The settings of a file that can be read and that gives settings. -/
def fileSettings (name : String) : Option Config :=
  (files.readText name).toOption.bind platform.parse

/-- A file that is missing, that cannot be read or that is malformed has no settings. -/
theorem ofFile_fst (name : String) :
    (ofFile platform files name).1 = fileSettings platform files name := by
  unfold ofFile fileSettings
  split
  · split
    · next h =>
      rw [h]
      rfl
    · next text h =>
      rw [h]
      show _ = platform.parse text
      split
      · next hc => exact hc.symm
      · next hc => exact hc.symm
  · next h =>
    -- what leads nowhere cannot be opened
    have hunopened : ∃ cause, files.open? name = .error cause := by
      cases hopen : files.open? name with
      | error cause => exact ⟨cause, rfl⟩
      | ok node =>
        refine absurd ?_ h
        rw [FileTree.contains, hopen]
        rfl
    obtain ⟨cause, hopen⟩ := hunopened
    rw [FileTree.readText, FileTree.readBytes, hopen]
    rfl

/-- The settings of the user's file. -/
def userSettings : Option Config := (userFile platform).bind (fileSettings platform files)

/-- What is loaded are the files under the environment. -/
theorem load_fst (env : Environment) : (load platform files env).1 =
    pile [ofEnvironment env, (fileSettings platform files localFile).getD empty,
      (userSettings platform files).getD empty] := by
  have huser : ((userFile platform).elim (none, []) (ofFile platform files)).1 =
      userSettings platform files := by
    unfold userSettings
    cases userFile platform with
    | none => rfl
    | some name => exact ofFile_fst platform files name
  unfold load
  rw [← huser, ← ofFile_fst]
  exact override_fst _ env

end Files

end Config

/-- A name that leads nowhere yet, in a directory that exists, is that of a new file. -/
theorem FileTree.create_of_new {t : FileTree} {name : String} {path : List String}
    (hpath : t.resolve name = .ok path) (hfile : namesDirectory name = false)
    (hnew : t.lookUp path = .error .notFound) (bytes : List UInt8) :
    t.create name bytes = .ok (t.put path (.file bytes)) := by
  simp only [create, hpath, hfile, hnew, Bool.false_eq_true, if_false]

/-! ## Runs -/

namespace Monitor

/-- An image with nothing but `HALT` at the address where the machine begins stops it at once. -/
theorem run_of_halt {files : FileTree} {name : String} (c : Config) (journal : Journal)
    (input : List UInt8) {high low : UInt8} (hstart : c.start = ofBytes high low)
    (hkey : c.start ≠ keyboardStatus)
    (hopen : files.open? name = .ok (.file [high, low, 0xF0, 0x25])) :
    ∃ loaded v w, (start c (BufferConsole.ofInput []) journal).loadFile files name =
      (.ok loaded, v) ∧ (v.feed input).run 1 = (.ok .halted, w) := by
  let fresh := start c (BufferConsole.ofInput []) journal
  obtain ⟨hresult, hmemory⟩ := fresh.loadFile_of_open files name hopen
  obtain ⟨hloaded, hstored⟩ := fresh.bus.memory.loadBytes_cons high low [0xF0, 0x25]
  obtain ⟨memory, journal', hrest⟩ := fresh.loadFile_snd files name
  rcases hload : fresh.loadFile files name with ⟨result, v⟩
  rw [hload] at hresult hmemory hrest
  obtain rfl : result = _ := hresult.trans hloaded
  have hwords : (Image.wordsOf [0xF0, 0x25]).take (Memory.room (ofBytes high low)) = [0xF025] := by
    have hroom : 1 ≤ Memory.room (ofBytes high low) :=
      Nat.sub_pos_of_lt (ofBytes high low).toNat_lt
    exact (List.take_of_length_le hroom).trans (by decide)
  have hword : v.bus.memory.get c.start = 0xF025 := by
    have hset : v.bus.memory = fresh.bus.memory.writeSlice c.start [0xF025] := by
      rw [hstart, ← hwords]
      exact hmemory.trans hstored
    rw [hset]
    exact Memory.get_set_self ..
  have hpc : (v.feed input).announced.cpu.regs.pc = c.start := congrArg (·.cpu.regs.pc) hrest
  have hhalt : (v.feed input).announced.Next (.trap 0x25) := by
    refine ⟨congrArg (·.cpu.state) hrest, by rwa [hpc], ?_⟩
    rw [hpc]
    exact (congrArg Instruction.decode hword).trans (by decide)
  obtain ⟨w, hstop, -⟩ := hhalt.halt
  exact ⟨_, v, w, rfl, by rw [run, runFor, hstop]⟩

end Monitor

namespace Command

open Config
open Function (update update_eq_self)

/-- A machine that is ready is one that a configuration asks for. -/
structure Ready.Configured (ready : Ready) (c : Config) : Prop where
  /-- The configuration is this one. -/
  config : ready.config = c
  /-- The machine runs. -/
  running : ready.machine.cpu.state = .running
  /-- It begins at the address in the configuration. -/
  pc : ready.machine.cpu.regs.pc = c.pcStart.getD 0x3000
  /-- A reset takes the machine back there. -/
  reset : ready.machine.pcStart = c.pcStart.getD 0x3000
  /-- Instructions are logged if it says so. -/
  trace : ready.machine.cpu.trace = c.trace.getD false
  /-- The host is as patient as it says. -/
  patience : ready.machine.driver.pollLimit = c.replayPollLimit.getD 10000

/-- The files after a run: a memory goes to the file that is to receive it, if there is one and it
can be created. A run that failed leaves the files alone. -/
def saved (sync : Option String) (files : FileTree) (result : Except ConsoleFault RunState)
    (m : Memory) : FileTree :=
  match sync, result with
  | some name, .ok _ => (files.create name m.image).toOption.getD files
  | _, _ => files

/-- A command line runs an image under the configuration `c`. -/
structure RunsUnder (platform : Platform) (args : List String) (env : Environment)
    (files : FileTree) (image : String) (c : Config) : Prop where
  /-- The machine is the one that starts under `c`, with the image loaded. -/
  ready_iff (journal : Journal) (ready : Ready) :
    prepare platform args env files journal = .ok ready ↔
      ready.config = c ∧ ∃ loaded, (Monitor.start c (.ofInput [])
        (journal.recordAll (load platform files env).2)).loadFile files image =
          (.ok loaded, ready.machine)
  /-- Loading the image has changed nothing that `c` asks for. -/
  configured {journal : Journal} {ready : Ready} :
    prepare platform args env files journal = .ok ready → ready.Configured c
  /-- In the end the memory goes to where `c` says. -/
  saves {ready : Ready} {input : List UInt8} {fuel : Nat} {result : Except ConsoleFault RunState}
    {v : Monitor BufferConsole} : prepare platform args env files .silent = .ok ready →
      (ready.machine.feed input).run fuel = (result, v) →
      (execute platform args env files input fuel).files =
        saved c.memorySync files result v.bus.memory
  /-- Without a machine there is no memory to save. -/
  keeps {t : Transcript} {input : List UInt8} {fuel : Nat} :
    prepare platform args env files .silent = .error t →
      (execute platform args env files input fuel).files = files

/-- An image is loaded into a machine as configured, or not at all. -/
theorem loadImage_eq_ok_iff {c : Config} {image : String} {files : FileTree} {journal : Journal}
    {ready : Ready} : loadImage c image files journal = .ok ready ↔
      ready.config = c ∧ ∃ loaded, (Monitor.start c (.ofInput []) journal).loadFile files image =
        (.ok loaded, ready.machine) := by
  unfold loadImage
  constructor
  · intro h
    split at h
    · cases h
    · next loaded v heq =>
      cases h
      exact ⟨rfl, loaded, heq⟩
  · rintro ⟨rfl, loaded, heq⟩
    rw [heq]

/-- What loading does not touch is as configured. -/
theorem configured_of_loadImage {c : Config} {image : String} {files : FileTree}
    {journal : Journal} {ready : Ready} (h : loadImage c image files journal = .ok ready) :
    ready.Configured c := by
  obtain ⟨hconfig, loaded, hload⟩ := loadImage_eq_ok_iff.mp h
  obtain ⟨memory, journal', hrest⟩ :=
    (Monitor.start c (BufferConsole.ofInput []) journal).loadFile_snd files image
  rw [hload] at hrest
  exact ⟨hconfig, congrArg (·.cpu.state) hrest, congrArg (·.cpu.regs.pc) hrest,
    congrArg (·.pcStart) hrest, congrArg (·.cpu.trace) hrest,
    congrArg (·.driver.pollLimit) hrest⟩

/-- An image that does not load leaves the files alone. -/
theorem files_of_loadImage {c : Config} {image : String} {files : FileTree} {journal : Journal}
    {t : Transcript} (h : loadImage c image files journal = .error t) : t.files = files := by
  unfold loadImage at h
  split at h
  · cases h
    rfl
  · cases h

theorem files_conclude (c : Config) (files : FileTree) (result : Except ConsoleFault RunState)
    (v : Monitor BufferConsole) :
    (conclude c files result v).files = saved c.memorySync files result v.bus.memory := by
  unfold conclude saved
  cases result with
  | error fault => cases c.memorySync <;> rfl
  | ok state =>
    cases c.memorySync with
    | none => rfl
    | some name =>
      simp only [Monitor.sync]
      cases files.create name v.bus.memory.image <;> rfl

/-- The configuration of a run. -/
def configuration (platform : Platform) (options : RunOptions) (env : Environment)
    (files : FileTree) : Config :=
  (load platform files env).1.merge options.layer

section

variable (platform : Platform) (options : RunOptions) (env : Environment) (files : FileTree)

/-- A run has four layers. -/
theorem configuration_eq_pile : configuration platform options env files =
    pile [options.layer, ofEnvironment env, (fileSettings platform files localFile).getD empty,
      (userSettings platform files).getD empty] := by
  rw [configuration, load_fst]
  rfl

/-- What the layers of a run say of one setting, and what becomes of it. -/
theorem prevails_configuration {α : Type} (f : Aspect α) :
    Prevails [f.get options.layer, f.get (ofEnvironment env),
        (fileSettings platform files localFile).bind f.get,
        (userSettings platform files).bind f.get]
      (f.get (configuration platform options env files)) := by
  have h := f.prevails [options.layer, ofEnvironment env,
    (fileSettings platform files localFile).getD empty, (userSettings platform files).getD empty]
  rw [← configuration_eq_pile] at h
  simpa only [List.map_cons, List.map_nil, f.get_getD] using h

variable {options} in
/-- **A run** takes place under the configuration that its layers make. -/
theorem runsUnder {args : List String} (hargs : parse args = .ok (.run options)) :
    RunsUnder platform args env files options.image (configuration platform options env files) := by
  have hprepare (journal : Journal) : prepare platform args env files journal =
      loadImage (configuration platform options env files) options.image files
        (journal.recordAll (load platform files env).2) := by
    unfold prepare
    rw [hargs]
    rfl
  refine ⟨fun journal ready => ?_, fun {journal ready} h => ?_, fun {_ _ _ _ v} hready hrun => ?_,
    fun {t _ _} h => ?_⟩
  · rw [hprepare]
    exact loadImage_eq_ok_iff
  · rw [hprepare] at h
    exact configured_of_loadImage h
  · have hconfig := (configured_of_loadImage ((hprepare _).symm.trans hready)).config
    rw [execute, hready, ← hconfig, ← files_conclude]
    dsimp only
    rw [hrun]
  · rw [execute, h]
    exact files_of_loadImage ((hprepare _).symm.trans h)

end

/-- **Layering.** A command line that runs an image does so under one configuration, in which each
setting has the value of the uppermost source that has one: the command line, the environment, the
file of the current directory, the file of the user. The command line can turn the log on but not
off, and says nothing of addresses and of patience. A variable with a value that makes no sense
counts as if it were not there, and so does a file without settings. Layers may be merged in any
order, and a layer without settings changes nothing on either side. -/
theorem layering (platform : Platform) (options : RunOptions) (env : Environment)
    (files : FileTree) :
    let near := fileSettings platform files localFile
    let user := userSettings platform files
    let c := configuration platform options env files
    (∀ args, parse args = .ok (.run options) →
      RunsUnder platform args env files options.image c) ∧
      Prevails [(env startVariable).bind readStart, near.bind Config.pcStart,
        user.bind Config.pcStart] c.pcStart ∧
      Prevails [if options.trace then some true else none, (env traceVariable).bind readBool,
        near.bind Config.trace, user.bind Config.trace] c.trace ∧
      Prevails [options.syncMemory, env syncVariable, near.bind Config.memorySync,
        user.bind Config.memorySync] c.memorySync ∧
      Prevails [(env pollLimitVariable).bind readPollLimit, near.bind Config.replayPollLimit,
        user.bind Config.replayPollLimit] c.replayPollLimit ∧
      (∀ name text, env name = some text → Refused name text →
        configuration platform options (update env name none) files = c) ∧
      (near = none → c = ((user.getD empty).override env).1.merge options.layer) ∧
      (user = none → c = ((near.getD empty).override env).1.merge options.layer) ∧
      (∀ a b d : Config, (a.merge b).merge d = a.merge (b.merge d)) ∧
      (∀ a : Config, a.merge empty = a ∧ empty.merge a = a) ∧
      ∀ g h : Grouping, g.layers = h.layers → g.settle = h.settle := by
  intro near user c
  have hc : c = pile [options.layer, ofEnvironment env, near.getD empty, user.getD empty] :=
    configuration_eq_pile platform options env files
  refine ⟨fun args => runsUnder platform env files, ?_,
    prevails_configuration platform options env files .trace,
    prevails_configuration platform options env files .memorySync, ?_,
    fun name text htext href => ?_, fun hnear => ?_, fun huser => ?_, merge_assoc,
    fun a => ⟨merge_empty a, empty_merge a⟩, fun g h hlayers => ?_⟩
  · -- the command line says nothing of the address
    exact (prevails_configuration platform options env files .pcStart).of_skip
  · exact (prevails_configuration platform options env files .replayPollLimit).of_skip
  · have henv : update env name (some text) = env := by
      rw [← htext]
      exact update_eq_self name env
    rw [hc, configuration_eq_pile, ← ofEnvironment_of_refused env href, henv]
  · rw [hc, hnear, override_fst]
    simp [pile]
  · rw [hc, huser, override_fst]
    simp [pile]
  · rw [g.settle_eq_pile, h.settle_eq_pile, hlayers]

/-- A run whose four settings come from four layers, next to an address that is refused. It begins
at the address of the near file, where `HALT` is, and its memory goes to the file that the user's
file names. With a malformed near file or without a directory for the user, the other layers
decide. -/
theorem layering_mixed :
    let options : RunOptions := ⟨"a.obj", true, none⟩
    let near := "pc_start = 0x3100\ntrace = false"
    let user := "pc_start = 0x4000\nmemory_sync = \"user.img\""
    let platform (directory : Option String) : Platform :=
      ⟨fun text => List.lookup text
        [(near, { pcStart := some 0x3100, trace := some false }),
          (user, { pcStart := some 0x4000, memorySync := some "user.img" })], directory⟩
    let env : Environment := fun name => List.lookup name
      [(startVariable, "0x10000"), (traceVariable, "off"), (pollLimitVariable, "64")]
    let files (text : String) : FileTree := ⟨["w"], [(["w"], .directory),
      (["w", "a.obj"], .file [0x31, 0x00, 0xF0, 0x25]),
      (["w", "lc3-vmm.toml"], .file text.toUTF8.data.toList),
      (["etc"], .directory), (["etc", "lc3-vmm"], .directory),
      (["etc", "lc3-vmm", "config.toml"], .file user.toUTF8.data.toList)]⟩
    let args := ["--trace", "a.obj"]
    let c : Config := ⟨some 0x3100, some true, some "user.img", some 64⟩
    (∃ ready v, prepare (platform (some "/etc")) args env (files near) .silent = .ok ready ∧
      ready.machine.cpu.regs.pc = 0x3100 ∧ ready.machine.cpu.trace = true ∧
      ready.machine.driver.pollLimit = 64 ∧
      (ready.machine.feed []).run 1 = (.ok .halted, v) ∧
      (execute (platform (some "/etc")) args env (files near) [] 1).files =
        (files near).put ["w", "user.img"] (.file v.bus.memory.image)) ∧
      configuration (platform (some "/etc")) options env (files near) = c ∧
      configuration (platform (some "/etc")) options (update env startVariable none)
        (files near) = c ∧
      configuration (platform (some "/etc")) options env (files "pc_start = 0x10000") =
        ⟨some 0x4000, some true, some "user.img", some 64⟩ ∧
      configuration (platform none) options env (files near) =
        ⟨some 0x3100, some true, none, some 64⟩ ∧
      c.merge (empty.merge options.layer) = (c.merge empty).merge options.layer := by
  intro options near user platform env files args c
  obtain ⟨hrun, hstart, htrace, hsync, hlimit, href, -, -, -, -, hgrouping⟩ :=
    layering (platform (some "/etc")) options env (files near)
  obtain ⟨-, -, -, -, -, -, hnear, -⟩ :=
    layering (platform (some "/etc")) options env (files "pc_start = 0x10000")
  obtain ⟨-, -, -, -, -, -, -, huser, -⟩ := layering (platform none) options env (files near)
  have hnearfile : fileSettings (platform (some "/etc")) (files near) localFile =
      some { pcStart := some 0x3100, trace := some false } := by decide +kernel
  have huserfile : userSettings (platform (some "/etc")) (files near) =
      some { pcStart := some 0x4000, memorySync := some "user.img" } := by decide +kernel
  rw [hnearfile, huserfile] at hstart htrace hsync hlimit
  have hc : configuration (platform (some "/etc")) options env (files near) = c := by
    refine (Config.mk.injEq ..).mpr ⟨?_, ?_, ?_, ?_⟩
    · exact hstart.eq_findSome?.trans (by decide)
    · exact htrace.eq_findSome?.trans (by decide)
    · exact hsync.eq_findSome?.trans (by decide)
    · exact hlimit.eq_findSome?.trans (by decide)
  refine ⟨?_, hc, ?_, ?_, ?_, ?_⟩
  · have hunder := hrun args rfl
    rw [show configuration _ options env (files near) = c from hc] at hunder
    have hopen : (files near).open? "a.obj" = .ok (.file [0x31, 0x00, 0xF0, 0x25]) := by
      decide +kernel
    obtain ⟨loaded, machine, v, hload, hend⟩ := Monitor.run_of_halt c
      (Journal.silent.recordAll (load (platform (some "/etc")) (files near) env).2) []
      (show c.start = ofBytes 0x31 0x00 by decide) (by decide) hopen
    have hready := (hunder.ready_iff .silent ⟨c, machine⟩).mpr ⟨rfl, loaded, hload⟩
    have hconfigured := hunder.configured hready
    refine ⟨_, v, hready, hconfigured.pc, hconfigured.trace, hconfigured.patience, hend, ?_⟩
    have hcreate : (files near).create "user.img" v.bus.memory.image =
        .ok ((files near).put ["w", "user.img"] (.file v.bus.memory.image)) :=
      FileTree.create_of_new (by decide +kernel) (by decide +kernel) (by decide +kernel) _
    rw [hunder.saves hready hend, saved, hcreate]
    rfl
  · exact (href startVariable "0x10000" (by decide) (.start (by decide))).trans hc
  · exact (hnear (by decide +kernel)).trans (by decide +kernel)
  · exact (huser rfl).trans (by decide +kernel)
  · exact hgrouping (.stack (.layer c) (.stack (.layer empty) (.layer options.layer)))
      (.stack (.stack (.layer c) (.layer empty)) (.layer options.layer)) rfl

end Command

end LC3
