/-!
# What the program is asked to do

An invocation names one action with its arguments and perhaps a configuration file. Arguments that
name no action are refused, or ask for help or the version.

## Main definitions

* `Action`, `Invocation` — what is asked.
* `Usage` — what arguments are that name no action.
-/

namespace RequestRunner

/-- What the program does; without a file, an action is about the stored document. -/
inductive Action where
  | /-- Lists the requests of a document. -/
    list (file : Option String)
  | /-- Runs the request that covers a line, counted from one. -/
    run (file : Option String) (line : Nat) (json showHeaders : Bool)
  | /-- Runs all requests of a document. -/
    runAll (file : Option String) (json showHeaders : Bool)
  | /-- Stores a file as the document. -/
    store (file : String)
  | /-- Tells where the document is stored. -/
    path
  | /-- Asks for a newer release. -/
    checkUpdate
  deriving DecidableEq

/-- An action with the configuration file that was named. -/
structure Invocation where
  config : Option String
  action : Action
  deriving DecidableEq

/-- What arguments are that name no action. -/
inductive Usage where
  | /-- They ask for help. -/
    help
  | /-- They ask for the version. -/
    version
  | /-- There are none. -/
    nothing
  | /-- There is no action. -/
    noAction
  | /-- There is something else in place of an action. -/
    unknownAction
  | /-- There is an argument too much. -/
    unknownArgument
  | /-- An argument is missing. -/
    missingArgument
  | /-- An option has an empty value or none. -/
    emptyValue
  | /-- The value of an option is out of its range. -/
    wrongValue
  | /-- An option that takes no value has one. -/
    extraValue
  | /-- An option stands twice. -/
    repeated
  deriving DecidableEq

/-- What the program's exit tells: to have asked for help or the version is no failure. -/
def Usage.exitCode : Usage → UInt8
  | help | version => 0
  | _ => 2

end RequestRunner
