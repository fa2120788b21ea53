import LC3.Config.Load
import LC3.Toml.Settings

/-!
# The platform of a process

- `Platform.configDirectory`: where configurations lie for an environment and an account.
- `Platform.ofEnvironment`: configurations are TOML documents in that directory.
-/

namespace LC3.Platform

/-- Whether a name says where it begins. -/
def isAbsolute (name : String) : Bool := name.startsWith "/"

/-- The home directory: that of the environment, or else that of the account. -/
def home (env : Environment) (account : Option String) : Option String :=
  ((env "HOME").filter (· != "")).or account

/-- The directory of the user's configurations. `account` is the home directory that the system
knows of. -/
def configDirectory (env : Environment) (account : Option String) : Option String :=
  ((env "XDG_CONFIG_HOME").filter isAbsolute).or
    ((home env account).map (FileTree.join · ".config"))

/-- The platform of a process. -/
def ofEnvironment (env : Environment) (account : Option String) : Platform where
  parse := Toml.configuration
  directory := configDirectory env account

end LC3.Platform
