import RequestRunner.Program.Ending
import RequestRunner.Proofs.Report.LineNumbers

/-!
# What endings tell

The exit code of a run tells whether it failed, and a run fails for want of a response only: the
status of a response makes no difference. The lines that are printed of a listing are those of the
blocks.

## Main definitions

* `Reply.isError` — there is no response.

## Main results

* `Ending.code_eq_zero_iff`, `Ending.ofResult_failure_eq_none_iff`,
  `Ending.ofReports_failure` — which runs fail.
* `Ending.stdout_ofReports` — what is printed of reports.
* `Failure.account_noRequest`, `Failure.account_requestsFailed` — how two failures are told.
* `shownRanges_ofBlocks` — the ranges that a listing shows are those of the blocks.
-/

namespace RequestRunner

/-! ### Replies without a response -/

/-- Whether the request ended without a response. -/
def Reply.isError (r : Reply) : Bool :=
  match r.outcome with
  | .ok _ => false
  | .error _ => true

/-- A reply has no error if and only if there is a response, whatever its status. -/
lemma Reply.isError_eq_false_iff {r : Reply} :
    r.isError = false ↔ ∃ response, r.outcome = .ok response := by
  unfold isError
  cases r.outcome <;> simp

/-- Whether there is a response depends on the outcome alone. -/
lemma Reply.isError_congr {r r' : Reply} (h : r.outcome = r'.outcome) : r.isError = r'.isError := by
  rw [isError, isError, h]

/-- A result has an error exactly if there is no response. -/
lemma ExecutionResult.isError_ofReply (r : Reply) : (ofReply r).isError = r.isError := by
  obtain ⟨outcome, elapsed⟩ := r
  rcases outcome with (text | text) | response <;> rfl

/-! ### Exit codes -/

namespace Ending

/-- A run succeeds if and only if its ending tells no failure. -/
lemma code_eq_zero_iff {e : Ending} : e.output.code = 0 ↔ e.failure = none := by
  unfold output
  cases e.failure <;> simp

/-- The run of a single request fails exactly if there is no response. -/
lemma ofResult_failure_eq_none_iff {json showHeaders : Bool} {r : Reply} :
    (ofResult json showHeaders (.ofReply r)).failure = none ↔ r.isError = false := by
  rw [ofResult, ← ExecutionResult.isError_ofReply, ExecutionResult.isError]
  simp

/-- The run of several requests fails exactly if there is no response for one, and tells for how
many. -/
lemma ofReports_failure {json showHeaders : Bool} {reports : List (Instant × Report)} :
    (ofReports json showHeaders reports).failure =
      if reports.countP (·.2.result.isError) = 0 then none
      else some (.requestsFailed (reports.countP (·.2.result.isError))) := by
  rw [ofReports, List.countP_eq_length_filter]

/-- **What is printed of the reports of a run**: of each of them, in order, either one line with its
JSON form or a heading with the result below it.

**Proof sketch.** Induction on the reports. The lines of the first one come in front of those of the
others, and so do their texts. -/
theorem stdout_ofReports (json showHeaders : Bool) (reports : List (Instant × Report)) :
    (ofReports json showHeaders reports).output.stdout = String.join (reports.map fun r =>
      if json then (r.2.toJson r.1).compact ++ "\n"
      else r.2.heading r.1 ++ "\n" ++ r.2.result.text showHeaders ++ "\n") := by
  change String.join ((reports.flatMap fun r => reportLines json showHeaders r.1 r.2).map
    (· ++ "\n")) = _
  induction reports with
  | nil => rfl
  | cons r reports ih =>
    rw [List.flatMap_cons, List.map_append, String.join_append, ih, List.map_cons,
      String.join_cons]
    congr 1
    cases json with
    | true => simp [reportLines, String.join_cons]
    | false => simp [reportLines, String.join_cons, String.append_assoc]

end Ending

/-! ### Accounts of failures -/

namespace Failure

/-- A failure without a cause is told in one line. -/
lemma account_of_cause?_eq_none {f : Failure} (h : f.cause? = none) :
    f.account = "Error: " ++ f.message ++ "\n" := by
  unfold account
  rw [h, String.append_empty]

/-- How it is told that no request is at a line. -/
lemma account_noRequest (line : Nat) :
    (noRequest line).account = "Error: No request at line " ++ Text.decimal line ++ "\n" := by
  have hmessage : (noRequest line).message = "No request at line " ++ Text.decimal line := rfl
  have hstart : "Error: " ++ "No request at line " = "Error: No request at line " := by
    decide +kernel
  rw [account_of_cause?_eq_none rfl, hmessage, ← String.append_assoc, hstart]

/-- How it is told that some requests have no response. -/
lemma account_requestsFailed (count : Nat) :
    (requestsFailed count).account =
      "Error: " ++ Text.decimal count ++ " request(s) failed\n" := by
  have hmessage : (requestsFailed count).message = Text.decimal count ++ " request(s) failed" := rfl
  have hend : " request(s) failed" ++ "\n" = " request(s) failed\n" := by decide +kernel
  rw [account_of_cause?_eq_none rfl, hmessage, ← String.append_assoc, String.append_assoc, hend]

end Failure

/-! ### Listings -/

/-- The lines that are printed for a listing: one for each block. An address has no end of a line in
it, so each block is listed on one line. -/
lemma lines_ofBlocks (document : String) :
    Text.lines (Ending.ofBlocks (blocks document)).output.stdout =
      if blocks document = [] then [Ending.noRequests]
      else (blocks document).mapIdx fun i b => b.listing i := by
  have hstdout : (Ending.ofBlocks (blocks document)).output.stdout =
      String.join ((if (blocks document).isEmpty then [Ending.noRequests]
        else (blocks document).mapIdx fun i b => b.listing i).map (· ++ "\n")) := rfl
  rw [hstdout]
  by_cases hbs : blocks document = []
  · rw [if_pos hbs, if_pos (List.isEmpty_iff.2 hbs)]
    decide +kernel
  · have hline : ∀ l ∈ (blocks document).mapIdx fun i b => b.listing i,
        '\n' ∉ l.toList ∧ l.toList.getLast? ≠ some '\r' := by
      intro l hl
      obtain ⟨i, hi, rfl⟩ := List.mem_mapIdx.1 hl
      exact listing_in_line (List.getElem_mem hi) i
    rw [if_neg hbs, if_neg fun h => hbs (List.isEmpty_iff.1 h)]
    exact Text.lines_join_lf (fun l hl => (hline l hl).1) fun l hl => (hline l hl).2

/-- **A listing shows the ranges of the blocks**, counted from one, in order. The line that tells
that there is no block shows no range. -/
theorem shownRanges_ofBlocks (document : String) :
    (Text.lines (Ending.ofBlocks (blocks document)).output.stdout).filterMap shownRange? =
      (blocks document).map fun b => (b.startLine + 1, b.endLine + 1) := by
  rw [lines_ofBlocks]
  by_cases hbs : blocks document = []
  · rw [if_pos hbs, hbs]
    decide +kernel
  · rw [if_neg hbs, filterMap_shownRange?_listing]

end RequestRunner
