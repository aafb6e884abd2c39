import RequestRunner.Execution.Actor
import RequestRunner.Report.Listing
import RequestRunner.Report.ResultText
import RequestRunner.Time.Instant

/-!
# Showing reports

The report of one of several executions: a heading that tells which block it belongs to and when it
ended, above the result, or one line of JSON.

## Main definitions

* `Report.heading` — the line above the result.
* `Report.toJson` — the JSON form.
-/

namespace RequestRunner.Report

/-- The line above the result, with the line number of the method line counted from one. -/
def heading (completed : Instant) (r : Report) : String :=
  "[" ++ completed.clock ++ "] " ++ r.block.method.name ++ " " ++ r.block.url ++ "  (line " ++
    Text.decimal (r.block.methodLine + 1) ++ ")"

/-- The report as a JSON object. -/
def toJson (completed : Instant) (r : Report) : Json :=
  .object
    [("id", .integer r.id.toNat), ("block", r.block.toJson), ("result", r.result.toJson),
      ("completedAt", .string completed.rfc3339)]

end RequestRunner.Report
