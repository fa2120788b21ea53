import LC3.Config.Override
import LC3.FileTree

/-!
# The configuration of a run

The user's file lies under the file of the current directory, which lies under the
environment. What a text says and where the user's file is to be found are questions for the
platform, and any answers will do here.

- `Platform`: what configurations are read with.
- `Config.ofFile`: the settings in a file, if it can be read.
- `Config.load`: all layers.
-/

namespace LC3

/-- What configurations are read with. -/
structure Platform where
  /-- The settings in a text, if it is one that gives settings. -/
  parse : String → Option Config
  /-- The directory of the user's configurations, if there is one. -/
  directory : Option String

namespace Config

/-! ## Files -/

/-- The settings in a file, if there is one that can be read, and what there is to report. -/
def ofFile (platform : Platform) (files : FileTree) (name : String) :
    Option Config × List Event :=
  if files.contains name then
    match files.readText name with
    | .error cause => (none, [.configUnreadable name cause])
    | .ok text =>
      match platform.parse text with
      | some c => (some c, [.configRead name])
      | none => (none, [.configMalformed name])
  else (none, [])

/-- The file of the current directory. -/
def localFile : String := "lc3-vmm.toml"

/-- The user's file. -/
def userFile (platform : Platform) : Option String :=
  platform.directory.map fun directory =>
    FileTree.join (FileTree.join directory "lc3-vmm") "config.toml"

/-! ## Layers -/

/-- The configuration of a run, and what there is to report. -/
def load (platform : Platform) (files : FileTree) (env : Environment) : Config × List Event :=
  let (user, userEvents) := (userFile platform).elim (none, []) (ofFile platform files)
  let (near, nearEvents) := ofFile platform files localFile
  let c := (empty.merge (user.getD empty)).merge (near.getD empty)
  let (c, envEvents) := c.override env
  (c, userEvents ++ nearEvents ++ envEvents ++ [.configured c])

end Config

end LC3
