import RequestRunner.CommandLine.Action
import RequestRunner.Failure
import RequestRunner.Report.ReportText
import RequestRunner.Update

/-!
# What the program prints

A run of the program prints lines and then ends well or with a failure. What it prints and whether
it fails is here told for each action from what the action got to know.

## Main definitions

* `Ending` — the printed lines and the failure.
* `Ending.ofBlocks`, `Ending.ofResult`, `Ending.ofReports`, `Ending.ofUpdate` — the endings of the
  actions.
* `Output` — exit code and the texts of both channels.
-/

namespace RequestRunner

/-- How a run ends: what it has printed, and what failed if anything did. -/
structure Ending where
  printed : List String
  failure : Option Failure
  deriving DecidableEq

namespace Ending

/-- A run that prints and does not fail. -/
def prints (ls : List String) : Ending := ⟨ls, none⟩

/-- A run that fails without printing. -/
def fails (failure : Failure) : Ending := ⟨[], some failure⟩

/-- The line for a document without requests. -/
def noRequests : String := "No requests found"

/-- A listing has a line for each block. -/
def ofBlocks (bs : List Block) : Ending :=
  prints (if bs.isEmpty then [noRequests] else bs.mapIdx fun i b => b.listing i)

/-- A single result is laid out over several lines. -/
def ofResult (json showHeaders : Bool) (r : ExecutionResult) : Ending :=
  ⟨[if json then r.toJson.pretty else r.text showHeaders], r.error.map .requestFailed⟩

/-- The lines for one report: one of JSON, or a heading above the result. -/
def reportLines (json showHeaders : Bool) (completed : Instant) (r : Report) : List String :=
  if json then [(r.toJson completed).compact]
  else [r.heading completed, r.result.text showHeaders]

/-- Reports are printed in the order in which they came; the run fails if one has an error. -/
def ofReports (json showHeaders : Bool) (reports : List (Instant × Report)) : Ending :=
  let failed := (reports.filter (·.2.result.isError)).length
  ⟨reports.flatMap fun r => reportLines json showHeaders r.1 r.2,
    if failed = 0 then none else some (.requestsFailed failed)⟩

/-- What is known about a newer release. -/
def ofUpdate (info : UpdateInfo) : Ending :=
  prints
    [if info.available then
      "Update available: " ++ info.current ++ " -> " ++ info.latest ++ " (" ++ info.page ++ ")"
    else if info.latest.isEmpty then
      "Could not determine the latest version (current: " ++ info.current ++ ")"
    else "Up to date (" ++ info.current ++ ")"]

end Ending

/-- What the caller of the program gets. -/
structure Output where
  code : UInt8
  stdout : String
  stderr : String
  deriving DecidableEq

/-- The caller gets the printed lines, and the account of a failure on the other channel. -/
def Ending.output (e : Ending) : Output :=
  ⟨if e.failure.isSome then 1 else 0, String.join (e.printed.map (· ++ "\n")),
    e.failure.elim "" Failure.account⟩

/-- The version of the program. -/
def programVersion : String := "0.1.0"

/-- What is shown to who asks for help. -/
def overview : String :=
  Text.joinLines
    ["Run HTTP requests written in a plain-text .http document", "",
      "Usage: " ++ programName ++ " [OPTIONS] <COMMAND>", "",
      "Commands:",
      "  list          List the requests in a document",
      "  run           Run the request covering a line",
      "  run-all       Run every request in the document concurrently",
      "  import        Replace the stored document with a file",
      "  path          Print the stored document path",
      "  check-update  Check for a newer release",
      "  help          Print this message or the help of the given subcommand(s)", "",
      "Options:",
      "  -c, --config <CONFIG>  Config file (defaults to <config dir>/dispatch/config.yaml)",
      "  -h, --help             Print help",
      "  -V, --version          Print version", ""]

/-- What the caller gets whose arguments name no action. -/
def Usage.output (usage : Usage) : Output :=
  match usage with
  | .help => ⟨usage.exitCode, overview, ""⟩
  | .version => ⟨usage.exitCode, programName ++ " " ++ programVersion ++ "\n", ""⟩
  | _ => ⟨usage.exitCode, "", overview⟩

end RequestRunner
