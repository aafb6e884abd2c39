import RequestRunner.Proofs.Program.BatchReports
import RequestRunner.Proofs.Program.SingleRuns

/-!
# Single runs and a run of all requests

If the outcome of a request depends on the request alone, it makes no difference whether the blocks
of a document are run one by one, each at some line of its own, or all at once.

## Main results

* `ranAt_pick`, `flatMap_ranAt_pick` — the requests of the single runs.
* `Batch.Ends.untimed_perm` — the results of the single runs, up to the times they tell.
* `ranAt_shownLine` — a heading leads back to the block of its report.
* `Batch.Ends.agrees_with_single_runs` — all of it.
-/

namespace RequestRunner

open scoped List

variable {document : String} {json showHeaders json' showHeaders' : Bool}
  {reply : UInt64 → Reply} {single : Nat → OutgoingRequest → Reply} {pick : Nat → Nat}
  {sent : List OutgoingRequest} {reports : List (Instant × Report)} {ending : Ending}

/-! ### Headings -/

/-- The heading of a report is printed unless the output is JSON. -/
lemma Batch.Ends.heading_mem (h : Ends reply document false showHeaders sent reports ending) :
    ∀ r ∈ reports, r.2.heading r.1 ∈ ending.printed := by
  intro r hr
  cases h with
  | nothing => exact absurd hr List.not_mem_nil
  | all => exact List.mem_flatMap.2 ⟨r, hr, List.mem_cons_self⟩

/-- **A heading leads back to the block of its report**: the line that it shows lies in this block
and in no other.

**Proof sketch.** The heading shows the method line, counted from one (`shownLine_heading`), and a
method line lies between the first and the last line of its block. Blocks do not overlap, so the
lookup at this line finds the block. -/
theorem ranAt_shownLine {r : Report} (hr : r.block ∈ blocks document) (completed : Instant) :
    let line := shownLine (r.heading completed)
    1 ≤ line ∧ blockAt? (blocks document) (line - 1) = some r.block ∧
      ∀ respond : OutgoingRequest → Reply, ranAt respond document line json showHeaders =
        (.ofResult json showHeaders (.ofReply (respond (.ofBlock r.block))),
          [.ofBlock r.block]) := by
  intro line
  have hline : line = r.block.methodLine + 1 := shownLine_heading completed r
  have hfits := fits_of_mem_blocks hr
  have hstart := hfits.startLine_le
  obtain ⟨hend, -⟩ := hfits.endLine_spec
  have hcovers : r.block.covers (line - 1) := Block.covers_iff.2 (by omega)
  have hfound : blockAt? (blocks document) (line - 1) = some r.block :=
    (separated_blocks document).blockAt?_eq_some_iff.2 ⟨hr, hcovers⟩
  exact ⟨by omega, hfound, fun respond => ranAt_of_blockAt? hfound⟩

/-! ### Single runs at picked lines -/

section

variable (hpick : ∀ i b, (blocks document)[i]? = some b →
  b.startLine + 1 ≤ pick i ∧ pick i ≤ b.endLine + 1)

include hpick

/-- The run at the line that is picked for an index runs the block of this index. -/
lemma ranAt_pick {i : Nat} {b : Block} (hb : (blocks document)[i]? = some b) :
    ranAt (single i) document (pick i) json showHeaders =
      (.ofResult json showHeaders (.ofReply (single i (.ofBlock b))), [.ofBlock b]) :=
  ranAt_of_covers (List.mem_of_getElem? hb) (hpick i b hb).1 (hpick i b hb).2

/-- The runs hand over the requests of the blocks, in order: the run at the line that is picked for
an index hands over that of the block of this index. -/
lemma flatMap_ranAt_pick :
    ((List.range (blocks document).length).flatMap fun i =>
      (ranAt (single i) document (pick i) json showHeaders).2) =
        (blocks document).map .ofBlock := by
  have hran : (List.range (blocks document).length).map (fun i =>
      (ranAt (single i) document (pick i) json showHeaders).2) =
        (blocks document).map fun b => [.ofBlock b] := by
    refine List.ext_getElem (by simp) fun i h₁ h₂ => ?_
    rw [List.length_map] at h₂
    rw [List.getElem_map, List.getElem_map, List.getElem_range,
      ranAt_pick hpick (List.getElem?_eq_getElem h₂)]
  rw [List.flatMap_def, hran, ← List.flatMap_def, List.map_eq_flatMap]

/-- The run at a picked line succeeds if and only if its block's request has a response. -/
lemma code_ranAt_pick_eq_zero_iff {i : Nat} {b : Block} (hb : (blocks document)[i]? = some b) :
    (ranAt (single i) document (pick i) json showHeaders).1.output.code = 0 ↔
      (single i (.ofBlock b)).isError = false := by
  rw [ranAt_pick hpick hb, Ending.code_eq_zero_iff, Ending.ofResult_failure_eq_none_iff]

end

/-! ### Outcomes that depend on the request alone -/

section

variable (h : Batch.Ends reply document json showHeaders sent reports ending)
  (hsame : ∀ i b, (blocks document)[i]? = some b →
    (reply (.ofNat i)).outcome = (single i (.ofBlock b)).outcome)

include h hsame

/-- **Up to the times they tell, reports have the results of single runs** that end alike.

**Proof sketch.** Reports answer the numbered blocks, in some order (`Batch.Ends.reports_perm`), and
without its times an answer depends on the outcome alone, which is that of the single run of the
block. -/
theorem Batch.Ends.untimed_perm :
    reports.map (·.2.untimed) ~ (blocks document).mapIdx fun i b =>
      ⟨.ofNat i, b, (ExecutionResult.ofReply (single i (.ofBlock b))).untimed⟩ := by
  have hreports := h.reports_perm.map Report.untimed
  rw [List.map_map, List.map_map, map_blockJobs] at hreports
  have hresults : ((blocks document).mapIdx fun i b =>
      (Report.untimed ∘ answer reply) ⟨.ofNat i, b⟩) = (blocks document).mapIdx fun i b =>
        ⟨.ofNat i, b, (ExecutionResult.ofReply (single i (.ofBlock b))).untimed⟩ := by
    refine List.mapIdx_eq_mapIdx_iff.2 fun i hi => ?_
    have houtcome := hsame i _ (List.getElem?_eq_getElem hi)
    show Report.mk _ _ (ExecutionResult.ofReply (reply (.ofNat i))).untimed = _
    rw [Actor.untimed_ofReply houtcome]
    rfl
  rw [hresults] at hreports
  exact hreports

/-- A run of all requests fails exactly if one of the single runs does: both fail for a request that
has no response. -/
lemma Batch.Ends.code_ne_zero_iff
    (hpick : ∀ i b, (blocks document)[i]? = some b →
      b.startLine + 1 ≤ pick i ∧ pick i ≤ b.endLine + 1) :
    ending.output.code ≠ 0 ↔ ∃ i < (blocks document).length,
      (ranAt (single i) document (pick i) json' showHeaders').1.output.code ≠ 0 := by
  have hran : ∀ i < (blocks document).length,
      (ranAt (single i) document (pick i) json' showHeaders').1.output.code = 0 ↔
        (reply (.ofNat i)).isError = false := by
    intro i hi
    have hb := List.getElem?_eq_getElem hi
    rw [code_ranAt_pick_eq_zero_iff hpick hb, Reply.isError_congr (hsame i _ hb)]
  rw [Ne, h.code_eq_zero_iff, ← forall₂_congr hran]
  simp only [not_forall, exists_prop, ne_eq]

end

/-! ### Agreement -/

/-- **Single runs and a run of all requests agree** if the outcome of a request depends on the
request alone. Let a line be picked inside each block. The runs at these lines hand over the
requests that a run of all requests does, each as often, whatever the order of its steps; its
reports have the results of the single runs, up to the times they tell, each for the block of its
number. The line that the heading of a report shows leads back to the block of this report. The run
of all requests fails exactly if one of the single runs does.

**Proof sketch.** Both run what the blocks give: the single runs since each picked line lies in its
block alone (`ranAt_pick`), the other since it reports each block once
(`Batch.Ends.reports_perm`). -/
theorem Batch.Ends.agrees_with_single_runs
    (outcome : OutgoingRequest → Outcome) (single : Nat → OutgoingRequest → Reply)
    (pick : Nat → Nat) (json' showHeaders' : Bool)
    (h : Ends reply document json showHeaders sent reports ending)
    (hreply : ∀ i b, (blocks document)[i]? = some b →
      (reply (.ofNat i)).outcome = outcome (.ofBlock b))
    (hsingle : ∀ i request, (single i request).outcome = outcome request)
    (hpick : ∀ i b, (blocks document)[i]? = some b →
      b.startLine + 1 ≤ pick i ∧ pick i ≤ b.endLine + 1) :
    let bs := blocks document
    let ran := fun i => ranAt (single i) document (pick i) json' showHeaders'
    (List.range bs.length).flatMap (fun i => (ran i).2) ~ sent ∧
      (∀ i b, bs[i]? = some b →
        (ran i).1 = .ofResult json' showHeaders' (.ofReply (single i (.ofBlock b)))) ∧
      reports.map (·.2.untimed) ~ bs.mapIdx (fun i b =>
        ⟨.ofNat i, b, (ExecutionResult.ofReply (single i (.ofBlock b))).untimed⟩) ∧
      (∀ r ∈ reports,
        let line := shownLine (r.2.heading r.1)
        (json = false → r.2.heading r.1 ∈ ending.printed) ∧
          1 ≤ line ∧ blockAt? bs (line - 1) = some r.2.block ∧
          ∀ respond : OutgoingRequest → Reply, ranAt respond document line json' showHeaders' =
            (.ofResult json' showHeaders' (.ofReply (respond (.ofBlock r.2.block))),
              [.ofBlock r.2.block])) ∧
      (ending.output.code ≠ 0 ↔ ∃ i < bs.length, (ran i).1.output.code ≠ 0) := by
  intro bs ran
  have hsame : ∀ i b, bs[i]? = some b →
      (reply (.ofNat i)).outcome = (single i (.ofBlock b)).outcome :=
    fun i b hb => (hreply i b hb).trans (hsingle i _).symm
  refine ⟨?_, fun i b hb => ?_, h.untimed_perm hsame, fun r hr => ?_,
    h.code_ne_zero_iff hsame hpick⟩
  · have hran : (List.range bs.length).flatMap (fun i => (ran i).2) = bs.map .ofBlock :=
      flatMap_ranAt_pick hpick
    rw [hran]
    exact h.sent_perm.symm
  · have hran : ran i = (.ofResult json' showHeaders' (.ofReply (single i (.ofBlock b))),
        [.ofBlock b]) :=
      ranAt_pick hpick hb
    rw [hran]
  · refine ⟨fun hjson => ?_, ranAt_shownLine (h.block_mem r hr) r.1⟩
    subst hjson
    exact h.heading_mem r hr

/-- The agreement for a request that stands twice in the document and one that is refused. The lines
that are picked are the method lines of the three blocks. -/
theorem agrees_with_single_runs_of_refused :
    let document := "GET /a\n\nGET /a\n\nPOST /b\n"
    let outcome : OutgoingRequest → Outcome := fun request =>
      if request.method = "GET" then .ok ⟨404, ∅, ""⟩ else .error (.failed "refused")
    let reply : UInt64 → Reply := fun id =>
      ⟨if id < 2 then .ok ⟨404, ∅, ""⟩ else .error (.failed "refused"), 3⟩
    let ran := fun i =>
      ranAt (fun request => ⟨outcome request, .ofNat i⟩) document (2 * i + 1) false false
    let all := ranAll (fun request => ⟨outcome request, 3⟩) (fun _ => ⟨0, 0⟩) document false false
    (blocks document).length = 3 ∧ ∃ reports,
      Batch.Ends reply document false false all.2 reports all.1 ∧
      (List.range (blocks document).length).flatMap (fun i => (ran i).2) ~ all.2 ∧
      (∀ r ∈ reports,
        blockAt? (blocks document) (shownLine (r.2.heading r.1) - 1) = some r.2.block) ∧
      all.1.output.code ≠ 0 ∧ ∃ i < (blocks document).length, (ran i).1.output.code ≠ 0 := by
  intro document outcome reply ran all
  have hchecked : ∀ p ∈ (blocks document).zipIdx,
      (reply (.ofNat p.2)).outcome = outcome (.ofBlock p.1) ∧
      p.1.startLine + 1 ≤ 2 * p.2 + 1 ∧ 2 * p.2 + 1 ≤ p.1.endLine + 1 := by
    decide +kernel
  have hindexed : ∀ i b, (blocks document)[i]? = some b →
      (reply (.ofNat i)).outcome = outcome (.ofBlock b) ∧
      b.startLine + 1 ≤ 2 * i + 1 ∧ 2 * i + 1 ≤ b.endLine + 1 :=
    fun i b hb => hchecked (b, i) (List.mem_zipIdx_iff_getElem?.2 hb)
  have hreply : ∀ i b, (blocks document)[i]? = some b →
      reply (.ofNat i) = ⟨outcome (.ofBlock b), 3⟩ :=
    fun i b hb => congrArg (Reply.mk · 3) (hindexed i b hb).1
  obtain ⟨reports, hends⟩ : ∃ reports,
      Batch.Ends reply document false false all.2 reports all.1 :=
    ends_ranAll hreply _
  obtain ⟨hsent, -, -, hheadings, hfails⟩ := hends.agrees_with_single_runs outcome
    (fun i request => ⟨outcome request, .ofNat i⟩) (fun i => 2 * i + 1) false false
    (fun i b hb => (hindexed i b hb).1) (fun _ _ => rfl) fun i b hb => (hindexed i b hb).2
  have hcode : all.1.output.code ≠ 0 := by decide +kernel
  exact ⟨by decide +kernel, reports, hends, hsent, fun r hr => (hheadings r hr).2.2.1, hcode,
    hfails.1 hcode⟩

end RequestRunner
