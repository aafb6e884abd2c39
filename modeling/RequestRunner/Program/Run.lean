import RequestRunner.CommandLine.Reading
import RequestRunner.Program.Ending
import RequestRunner.Storage

/-!
# Running the program

The arguments are read, then the configuration; the data directory is made and the log opened, and
then the action is done. The first of these that fails ends the run.

## Main definitions

* `Equipment` — what the program needs of its surroundings, in some monad.
* `runAt`, `runAll` — run the request at a line, or all requests.
* `perform` — does an action.
* `runProgram` — a whole run.
-/

namespace RequestRunner

/-- What the program needs of its surroundings; `transport` gives up after so many seconds. -/
structure Equipment (m : Type → Type) where
  files : FileSystem m
  transport : Nat → Transport m
  now : m Instant
  surroundings : Surroundings

variable {m : Type → Type} [Monad m]

/-- Runs the request that covers a line, counted from one. -/
def runAt (transport : Transport m) (document : String) (line : Nat) (json showHeaders : Bool) :
    m Ending := do
  match blockAt? (blocks document) (line - 1) with
  | none => return .fails (.noRequest line)
  | some b => return .ofResult json showHeaders (← executeBlock transport b)

/-- The commands for the actor that runs all blocks. -/
def allCommands (bs : List Block) : List Command :=
  bs.mapIdx (fun i b => .execute (.ofNat i) b) ++ [.shutdown]

/-- Runs a job and notes when it was done. -/
def runTimed (transport : Transport m) (now : m Instant) (job : Actor.Job) :
    m (Instant × Report) := do
  let report ← Actor.runJob transport job
  return (← now, report)

/-- Runs all requests of a document, each to its end before the next. -/
def runAll (transport : Transport m) (now : m Instant) (document : String)
    (json showHeaders : Bool) : m Ending := do
  let bs := blocks document
  if bs.isEmpty then return .prints [Ending.noRequests]
  else
    return .ofReports json showHeaders
      (← (Actor.accepted (allCommands bs)).mapM (runTimed transport now))

/-- A file, or the stored document if none is named. -/
def readDocument (files : FileSystem m) (storage : Storage) (file : Option String) :
    m (Except Failure String) := do
  match file with
  | none => return .ok (← storage.load files)
  | some path => return (← files.readText path).mapError (.documentUnreadable path ·)

/-- Goes on with a document if it can be read. -/
def withDocument (files : FileSystem m) (storage : Storage) (file : Option String)
    (action : String → m Ending) : m Ending := do
  match ← readDocument files storage file with
  | .ok document => action document
  | .error failure => return .fails failure

/-- Stores a file as the document. -/
def storeFile (files : FileSystem m) (storage : Storage) (file : String) : m Ending :=
  withDocument files storage (some file) fun document => do
    match ← storage.save files document with
    | .ok () =>
      return .prints
        ["Imported " ++ Text.decimal (blocks document).length ++ " request(s) into " ++
          storage.document]
    | .error failure => return .fails failure

/-- Does an action. -/
def perform (equipment : Equipment m) (config : Config) (storage : Storage) (action : Action) :
    m Ending :=
  let files := equipment.files
  let transport := equipment.transport config.timeoutSecs
  match action with
  | .list file => withDocument files storage file fun document => return .ofBlocks (blocks document)
  | .run file line json showHeaders =>
    withDocument files storage file fun document => runAt transport document line json showHeaders
  | .runAll file json showHeaders =>
    withDocument files storage file fun document =>
      runAll transport equipment.now document json showHeaders
  | .store file => storeFile files storage file
  | .path => return .prints [storage.document]
  | .checkUpdate =>
    if config.checkUpdates then do
      return .ofUpdate (← checkForUpdate transport programVersion config.releasesUrl)
    else return .prints ["Update checks are disabled in config"]

/-- What the caller gets if the log cannot be opened. -/
def withoutLog (refusal : Refusal) : Output :=
  ⟨101, "", "initializing rolling file appender failed: " ++ refusal.message ++ "\n"⟩

/-- Does what was asked with the settings of a configuration. -/
def runConfigured (equipment : Equipment m) (action : Action) (config : Config) : m Output := do
  let storage := Storage.ofConfig equipment.surroundings config
  match ← storage.ensure equipment.files with
  | .error failure => return (Ending.fails failure).output
  | .ok () =>
    match ← storage.openLog equipment.files with
    | .error refusal => return withoutLog refusal
    | .ok () => return (← perform equipment config storage action).output

/-- A whole run. -/
def runProgram (equipment : Equipment m) (arguments : List String) : m Output := do
  match Invocation.ofArguments arguments with
  | .error usage => return usage.output
  | .ok invocation =>
    let path := invocation.config.getD equipment.surroundings.configPath
    match ← Config.load equipment.files path with
    | .error failure => return (Ending.fails failure).output
    | .ok config => runConfigured equipment invocation.action config

end RequestRunner
