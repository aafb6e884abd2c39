import RequestRunner.Execution.Result
import RequestRunner.Report.StatusClass

/-!
# Showing results

A result as lines of text: the status, the header fields if they are asked for, and the body behind
an empty line. A body that is JSON is laid out anew, any other is shown as it is.

## Main definitions

* `prettyBody` — a body as it is shown.
* `ExecutionResult.text` — a result as it is shown.
-/

namespace RequestRunner

/-- The body laid out anew if it is JSON. -/
def prettyBody (body : String) : String :=
  match Json.parse? body with
  | some v => v.pretty
  | none => body

/-- The result as lines of text. -/
def ExecutionResult.text (showHeaders : Bool) (r : ExecutionResult) : String :=
  let took := "  (" ++ Text.decimal r.durationMillis.toNat ++ " ms)"
  match r.error with
  | some error => "ERROR  " ++ error ++ took
  | none =>
    Text.decimal r.status.toNat ++ " " ++ (StatusClass.ofStatus r.status).label ++ took ++ "\n" ++
      (if showHeaders then String.join (r.headers.entries.map fun e => e.1 ++ ": " ++ e.2 ++ "\n")
        else "") ++
      (if r.body.isEmpty then "" else "\n" ++ prettyBody r.body ++ "\n")

end RequestRunner
