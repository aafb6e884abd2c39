import RequestRunner.Text.Ascii

/-!
# Configuration

What the user may set, and what holds where nothing is set.

## Main definitions

* `Config` — the settings.
* `LogLevel`, `LogLevel.ofText?` — how much is logged.
* `Config.level` — the level of the settings.
-/

namespace RequestRunner

/-- The settings of the program. -/
structure Config where
  timeoutSecs : Nat := 30
  dataDir : Option String := none
  logLevel : String := "info"
  checkUpdates : Bool := true
  releasesUrl : String :=
    "https://api.github.com/repos/mortensieker/dispatch-http/releases/latest"
  deriving DecidableEq

/-- How much is logged. -/
inductive LogLevel where
  | error
  | warn
  | info
  | debug
  | trace
  deriving DecidableEq

namespace LogLevel

/-- The name of a level. -/
def name : LogLevel → String
  | error => "ERROR"
  | warn => "WARN"
  | info => "INFO"
  | debug => "DEBUG"
  | trace => "TRACE"

/-- The level with a name, in any case, or a number from one to five. -/
def ofText? (text : String) : Option LogLevel :=
  match Text.readNatural? 6 text.toList with
  | some 1 => some error
  | some 2 => some warn
  | some 3 => some info
  | some 4 => some debug
  | some 5 => some trace
  | _ => [error, warn, info, debug, trace].find? fun l => Text.sameIgnoringCase l.name text

end LogLevel

/-- The level of the settings; a level that is none counts as `info`. -/
def Config.level (config : Config) : LogLevel := (LogLevel.ofText? config.logLevel).getD .info

end RequestRunner
