import RequestRunner.Failure
import RequestRunner.Update

/-!
# Where the configuration is

The configuration is a file in the program's own directory below the user's configuration
directory. A file that is missing is no failure.

## Main definitions

* `Surroundings` — what the program knows about the user's directories.
* `Surroundings.configDirectory`, `Surroundings.configPath` — where things are by default.
* `Config.load` — the settings of a file.
-/

namespace RequestRunner

/-- What the environment tells about the user's directories. -/
structure Surroundings where
  home : Option String
  configHome : Option String

namespace Surroundings

/-- The home directory if the environment names none. -/
def defaultHome : String := "/root"

/-- The user's home directory. -/
def homeDirectory (s : Surroundings) : String :=
  match s.home with
  | some path => if path.isEmpty then defaultHome else path
  | none => defaultHome

/-- The user's configuration directory: the named one, if its path starts at the root. -/
def configDirectory (s : Surroundings) : String :=
  match s.configHome.filter Path.isAbsolute with
  | some path => path
  | none => Path.join s.homeDirectory ".config"

/-- The program's own directory. -/
def ownDirectory (s : Surroundings) : String := Path.join s.configDirectory programName

/-- The file of the configuration. -/
def configPath (s : Surroundings) : String := Path.join s.ownDirectory "config.yaml"

end Surroundings

/-- The settings of a file. -/
def Config.load {m : Type → Type} [Monad m] (files : FileSystem m) (path : String) :
    m (Except Failure Config) := do
  if ← files.isThere path then
    match ← files.readText path with
    | .error reason => return .error (.configUnreadable path reason)
    | .ok text => return (Config.ofYaml text).mapError (.configInvalid path ·)
  else return .ok {}

end RequestRunner
