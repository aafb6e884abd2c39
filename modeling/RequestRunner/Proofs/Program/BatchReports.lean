import RequestRunner.Proofs.Document.Lookup
import RequestRunner.Proofs.Program.BatchCompletion
import RequestRunner.Proofs.Program.Endings

/-!
# What a run of all requests reports

Each block of the document is numbered, handed over and reported once. How a run ends does not
depend on the order in which its requests end: it fails if a request has no response, and tells how
many have none.

## Main definitions

* `blockJobs` — the blocks with their numbers.
* `Batch.Ends` — how a run may end.
* `ranAll` — how a run of one request after the other ends.

## Main results

* `Batch.Ends.reports_perm`, `Batch.Ends.sent_perm` — what is reported and handed over.
* `Batch.Ends.countP_isError`, `Batch.Ends.failure_eq` — which runs fail.
* `Batch.Ends.stdout_eq` — what a run prints.
* `ends_ranAll` — one request after the other is one of the orders.
* `Batch.ends_report_blocks` — all of it.
-/

namespace RequestRunner

open scoped List

variable {reply : UInt64 → Reply} {document : String} {json showHeaders : Bool}
  {sent : List OutgoingRequest} {reports : List (Instant × Report)} {ending : Ending}
  {bs : List Block}

/-! ### Numbered blocks -/

/-- The blocks with their numbers, from zero on. -/
def blockJobs (bs : List Block) : List Actor.Job := bs.mapIdx fun i b => ⟨.ofNat i, b⟩

/-- What is done to the numbered blocks is done to each block with its number. -/
lemma map_blockJobs {α : Type} (f : Actor.Job → α) (bs : List Block) :
    (blockJobs bs).map f = bs.mapIdx fun i b => f ⟨.ofNat i, b⟩ := by
  rw [blockJobs, List.mapIdx_eq_zipIdx_map, List.map_map, List.mapIdx_eq_zipIdx_map]
  rfl

/-- The actor accepts all blocks: the command to shut down stands behind them. -/
lemma accepted_allCommands (bs : List Block) : Actor.accepted (allCommands bs) = blockJobs bs := by
  have hcommands : allCommands bs = (blockJobs bs).map Actor.Job.command ++ [.shutdown] := by
    rw [allCommands, map_blockJobs]
    rfl
  rw [hcommands, Actor.accepted_append, Actor.accepted_shutdown, List.append_nil]

/-- The commands of a run end with one to shut down. -/
lemma shutdown_mem_allCommands (bs : List Block) : .shutdown ∈ allCommands bs :=
  List.mem_append_right _ (List.mem_singleton_self _)

/-- The requests of the numbered blocks are those of the blocks, in order. -/
lemma map_request_blockJobs (bs : List Block) :
    (blockJobs bs).map Actor.Job.request = bs.map .ofBlock := by
  rw [map_blockJobs]
  exact List.ext_getElem (by simp) (by simp [Actor.Job.request])

/-- The numbers are those from zero on, as machine words. -/
lemma map_id_blockJobs (bs : List Block) :
    (blockJobs bs).map Actor.Job.id = (List.range bs.length).map .ofNat := by
  rw [map_blockJobs]
  exact List.ext_getElem (by simp) (by simp)

/-- A numbered block is the block of some index, with this index for a number. -/
lemma mem_blockJobs {job : Actor.Job} :
    job ∈ blockJobs bs ↔ ∃ i, bs[i]? = some job.block ∧ job.id = .ofNat i := by
  rw [blockJobs, List.mem_mapIdx]
  constructor
  · rintro ⟨i, hi, rfl⟩
    exact ⟨i, List.getElem?_eq_getElem hi, rfl⟩
  · rintro ⟨i, hb, hid⟩
    obtain ⟨hi, hblock⟩ := List.getElem?_eq_some_iff.1 hb
    exact ⟨i, hi, by rw [hblock, ← hid]⟩

/-! ### How a run may end -/

namespace Batch

/-- How a run of all requests may end: the requests that were handed over, the reports in the order
in which they came, and the ending. -/
inductive Ends (reply : UInt64 → Reply) (document : String) (json showHeaders : Bool) :
    List OutgoingRequest → List (Instant × Report) → Ending → Prop where
  | /-- Without a block no actor is started. -/
    nothing (h : blocks document = []) :
      Ends reply document json showHeaders [] [] (.prints [Ending.noRequests])
  | all {s : State} (h : blocks document ≠ [])
      (hs : Reachable reply (allCommands (blocks document)) s) (hd : s.Done) :
      Ends reply document json showHeaders s.actor.sent s.taken
        (.ofReports json showHeaders s.taken)

namespace Ends

variable (h : Ends reply document json showHeaders sent reports ending)

include h

/-- Each block is handed over once, in some order. -/
theorem sent_perm : sent ~ (blocks document).map .ofBlock := by
  cases h with
  | nothing hbs =>
    rw [hbs]
    exact .refl _
  | all _ hs hd =>
    have hsent := hs.inv.sent_perm hd
    rwa [accepted_allCommands, map_request_blockJobs] at hsent

/-- Each block is reported once, with the reply to its number, in some order. -/
theorem reports_perm : reports.map Prod.snd ~ (blockJobs (blocks document)).map (answer reply) := by
  cases h with
  | nothing hbs =>
    rw [hbs]
    exact .refl _
  | all _ hs hd =>
    have hreports := hs.inv.reports_perm hd
    rwa [accepted_allCommands] at hreports

/-- The reports that have an error are as many as the numbers whose request has no response.

**Proof sketch.** Only the results count, so the order of the reports does not. They answer the
numbered blocks, and an answer has an error if the reply to its number has. -/
lemma countP_isError : reports.countP (·.2.result.isError) =
    (List.range (blocks document).length).countP fun i => (reply (.ofNat i)).isError :=
  calc reports.countP (·.2.result.isError)
      = (reports.map Prod.snd).countP (·.result.isError) := by
        rw [List.countP_map]
        rfl
    _ = ((blockJobs (blocks document)).map (answer reply)).countP (·.result.isError) :=
        h.reports_perm.countP_eq _
    _ = ((blockJobs (blocks document)).map Actor.Job.id).countP fun id => (reply id).isError := by
        rw [List.countP_map, List.countP_map]
        refine List.countP_congr fun job _ => ?_
        show (ExecutionResult.ofReply (reply job.id)).isError ↔ (reply job.id).isError
        rw [ExecutionResult.isError_ofReply]
    _ = (List.range (blocks document).length).countP fun i => (reply (.ofNat i)).isError := by
        rw [map_id_blockJobs, List.countP_map]
        rfl

/-- **A run fails if a request has no response**, and tells how many have none. Reports are counted,
but the count is one of the replies, which no order of steps changes. -/
theorem failure_eq :
    let failed := (List.range (blocks document).length).countP fun i => (reply (.ofNat i)).isError
    ending.failure = if failed = 0 then none else some (.requestsFailed failed) := by
  intro failed
  have hcount : reports.countP (·.2.result.isError) = failed := h.countP_isError
  cases h with
  | nothing hbs =>
    rw [List.countP_nil] at hcount
    rw [if_pos hcount.symm]
    rfl
  | all => rw [Ending.ofReports_failure, hcount]

/-- A run succeeds exactly if every request has a response. -/
lemma code_eq_zero_iff : ending.output.code = 0 ↔
    ∀ i < (blocks document).length, (reply (.ofNat i)).isError = false := by
  have hfailed : ending.failure = none ↔
      (List.range (blocks document).length).countP (fun i => (reply (.ofNat i)).isError) = 0 := by
    rw [h.failure_eq]
    split <;> simp [*]
  rw [Ending.code_eq_zero_iff, hfailed, List.countP_eq_zero]
  simp only [List.mem_range, Bool.not_eq_true]

/-- **What a run prints** if there is a block: each report that came, in the order in which they
came, and nothing else. -/
theorem stdout_eq (hbs : blocks document ≠ []) :
    ending.output.stdout = String.join (reports.map fun r =>
      if json then (r.2.toJson r.1).compact ++ "\n"
      else r.2.heading r.1 ++ "\n" ++ r.2.result.text showHeaders ++ "\n") := by
  cases h with
  | nothing hnone => exact absurd hnone hbs
  | @all s => exact Ending.stdout_ofReports json showHeaders s.taken

/-- A report is the answer to the block of some index. -/
lemma exists_eq_answer : ∀ r ∈ reports, ∃ i b, (blocks document)[i]? = some b ∧
    r.2 = answer reply ⟨.ofNat i, b⟩ := by
  intro r hr
  have hmem : r.2 ∈ (blockJobs (blocks document)).map (answer reply) :=
    h.reports_perm.mem_iff.1 (List.mem_map_of_mem hr)
  rw [map_blockJobs] at hmem
  obtain ⟨i, hi, hreport⟩ := List.mem_mapIdx.1 hmem
  exact ⟨i, _, List.getElem?_eq_getElem hi, hreport.symm⟩

/-- A report has a block of the document. -/
lemma block_mem : ∀ r ∈ reports, r.2.block ∈ blocks document := by
  intro r hr
  obtain ⟨i, b, hb, hreport⟩ := h.exists_eq_answer r hr
  rw [hreport]
  exact List.mem_of_getElem? hb

/-- The number of a report tells which block it has, unless there are more blocks than numbers. -/
lemma getElem?_id (hlength : (blocks document).length ≤ UInt64.size) :
    ∀ r ∈ reports, (blocks document)[r.2.id.toNat]? = some r.2.block := by
  intro r hr
  obtain ⟨i, b, hb, hreport⟩ := h.exists_eq_answer r hr
  have hi : i < UInt64.size := Nat.lt_of_lt_of_le (List.getElem?_eq_some_iff.1 hb).1 hlength
  rw [hreport, answer, UInt64.toNat_ofNat_of_lt' hi]
  exact hb

/-- Each number is used once, unless there are more blocks than numbers. A number below the size of
a machine word is not changed by being kept in one. -/
lemma toNat_id_perm (hlength : (blocks document).length ≤ UInt64.size) :
    reports.map (·.2.id.toNat) ~ List.range (blocks document).length := by
  have hroundtrip : ∀ i ∈ List.range (blocks document).length, (UInt64.ofNat i).toNat = i :=
    fun i hi => UInt64.toNat_ofNat_of_lt' (Nat.lt_of_lt_of_le (List.mem_range.1 hi) hlength)
  have hids := h.reports_perm.map fun r => r.id.toNat
  rw [List.map_map, List.map_map] at hids
  calc reports.map (·.2.id.toNat)
      ~ (blockJobs (blocks document)).map fun job => job.id.toNat := hids
    _ = ((blockJobs (blocks document)).map Actor.Job.id).map UInt64.toNat := by
        rw [List.map_map]
        rfl
    _ = (List.range (blocks document).length).map id := by
        rw [map_id_blockJobs, List.map_map]
        exact List.map_congr_left hroundtrip
    _ = List.range (blocks document).length := List.map_id _

end Ends

end Batch

/-! ### One request after the other -/

/-- How a run of one request after the other ends if each request gets a fixed reply and the time
depends on the requests that were handed over, and these requests. -/
def ranAll (respond : OutgoingRequest → Reply) (clock : List OutgoingRequest → Instant)
    (document : String) (json showHeaders : Bool) : Ending × List OutgoingRequest :=
  Id.run ((runAll (.recording respond) (clock <$> get) document json showHeaders).run [])

/-- One job after the other: each is handed over behind those before it, and the reports tell their
replies, in order. By induction on the jobs, for all requests that were handed over before. -/
lemma run_mapM_runTimed (respond : OutgoingRequest → Reply) (clock : List OutgoingRequest → Instant)
    (jobs : List Actor.Job) (sent : List OutgoingRequest) :
    ∃ timed : List (Instant × Report),
      (jobs.mapM (runTimed (.recording respond) (clock <$> get))).run sent =
        pure (timed, sent ++ jobs.map Actor.Job.request) ∧
      timed.map Prod.snd = jobs.map (Actor.jobReport respond) := by
  induction jobs generalizing sent with
  | nil => exact ⟨[], by rw [List.map_nil, List.append_nil]; rfl, rfl⟩
  | cons job jobs ih =>
    obtain ⟨timed, hrun, htimed⟩ := ih (sent ++ [job.request])
    have hjob : (runTimed (.recording respond) (clock <$> get) job).run sent =
        (pure ((clock (sent ++ [job.request]), Actor.jobReport respond job),
          sent ++ [job.request]) : Id _) :=
      rfl
    refine ⟨(clock (sent ++ [job.request]), Actor.jobReport respond job) :: timed, ?_, ?_⟩
    · rw [List.mapM_cons, StateT.run_bind, hjob, pure_bind, StateT.run_bind, hrun, pure_bind,
        StateT.run_pure, List.map_cons, List.append_assoc]
      rfl
    · rw [List.map_cons, List.map_cons, htimed]

/-- A run of one request after the other reports on each block, in order, at the times that the
clock tells. -/
lemma exists_ranAll_eq (respond : OutgoingRequest → Reply) (clock : List OutgoingRequest → Instant)
    (hbs : blocks document ≠ []) :
    ∃ timed : List (Instant × Report),
      ranAll respond clock document json showHeaders =
        (.ofReports json showHeaders timed, (blockJobs (blocks document)).map Actor.Job.request) ∧
      timed.map Prod.snd = (blockJobs (blocks document)).map (Actor.jobReport respond) := by
  obtain ⟨timed, hrun, htimed⟩ := run_mapM_runTimed respond clock (blockJobs (blocks document)) []
  refine ⟨timed, ?_, htimed⟩
  rw [ranAll, runAll, if_neg (by simpa using hbs), accepted_allCommands, StateT.run_bind, hrun,
    List.nil_append]
  rfl

/-- Without a block nothing is handed over. -/
lemma ranAll_of_blocks_eq_nil {respond : OutgoingRequest → Reply}
    {clock : List OutgoingRequest → Instant} (hbs : blocks document = []) :
    ranAll respond clock document json showHeaders = (.prints [Ending.noRequests], []) := by
  rw [ranAll, runAll, hbs]
  rfl

/-- **One request after the other is one of the orders** of a run, if each reply to a number is the
one to the request of its block.

**Proof sketch.** Without a block both hand nothing over. Otherwise the run reports on each block in
order, and an order of steps does so too, with the same times (`Batch.exists_done_in_order`). -/
theorem ends_ranAll {respond : OutgoingRequest → Reply}
    (hreply : ∀ i b, (blocks document)[i]? = some b → reply (.ofNat i) = respond (.ofBlock b))
    (clock : List OutgoingRequest → Instant) :
    ∃ reports, Batch.Ends reply document json showHeaders
      (ranAll respond clock document json showHeaders).2 reports
      (ranAll respond clock document json showHeaders).1 := by
  by_cases hbs : blocks document = []
  · rw [ranAll_of_blocks_eq_nil hbs]
    exact ⟨[], .nothing hbs⟩
  · obtain ⟨timed, hran, htimed⟩ := exists_ranAll_eq respond clock hbs
    have haccepted := accepted_allCommands (blocks document)
    have hjobs : ∀ job ∈ Actor.accepted (allCommands (blocks document)),
        reply job.id = respond job.request := by
      intro job hjob
      rw [haccepted] at hjob
      obtain ⟨i, hb, hid⟩ := mem_blockJobs.1 hjob
      rw [hid]
      exact hreply i job.block hb
    rw [← haccepted] at htimed hran
    obtain ⟨s, hs, hd, rfl, hsent⟩ := Batch.exists_done_in_order
      (shutdown_mem_allCommands (blocks document)) hjobs htimed
    rw [hran, ← hsent]
    exact ⟨s.taken, .all hbs hs hd⟩

/-! ### All requests -/

/-- **A run of all requests reports each block once.** No order of steps goes on for ever, from
every state a run can end, and one request after the other is one of the orders. However the run
ends, each block was handed over once and reported once, with the reply to its number. The numbers
are those from zero on, each used once, and tell which block it is, as long as there are enough of
them: a document of no more characters has no more blocks. What is printed is each report, in the
order in which they came: a line of JSON with its number, its block, its result and its time, or a
heading that tells the time, the request and its line, with the result below it. The run succeeds
exactly if every request has a response, whatever its status, and else tells how many have none.
Without a block it says so and hands nothing over.

**Proof sketch.** The actor of the run is one that had all commands from the start
(`Batch.Inv.whole_reachable`), and it accepts each block (`accepted_allCommands`). So the reports
are those of the blocks in some order, which neither the count of errors nor the set of numbers
depends on. -/
theorem Batch.ends_report_blocks (document : String) (reply : UInt64 → Reply)
    (json showHeaders : Bool) :
    let bs := blocks document
    let failed := (List.range bs.length).countP fun i => (reply (.ofNat i)).isError
    (WellFounded fun s' s => Step reply s s') ∧
      (∀ s, Reachable reply (allCommands bs) s →
        ∃ s', Relation.ReflTransGen (Step reply) s s' ∧ s'.Done) ∧
      (∀ respond : OutgoingRequest → Reply, ∀ clock : List OutgoingRequest → Instant,
        (∀ i b, bs[i]? = some b → reply (.ofNat i) = respond (.ofBlock b)) →
        ∃ reports, Ends reply document json showHeaders
          (ranAll respond clock document json showHeaders).2 reports
          (ranAll respond clock document json showHeaders).1) ∧
      ∀ sent reports ending, Ends reply document json showHeaders sent reports ending →
        sent ~ bs.map .ofBlock ∧
        reports.map Prod.snd ~
          bs.mapIdx (fun i b => ⟨.ofNat i, b, .ofReply (reply (.ofNat i))⟩) ∧
        (document.length ≤ UInt64.size →
          reports.map (·.2.id.toNat) ~ List.range bs.length ∧
          ∀ r ∈ reports, bs[r.2.id.toNat]? = some r.2.block) ∧
        (bs ≠ [] → ending.output.stdout = String.join (reports.map fun r =>
          if json then
            (Json.object
              [("id", .integer r.2.id.toNat), ("block", r.2.block.toJson),
                ("result", r.2.result.toJson), ("completedAt", .string r.1.rfc3339)]).compact ++
              "\n"
          else
            "[" ++ r.1.clock ++ "] " ++ r.2.block.method.name ++ " " ++ r.2.block.url ++
              "  (line " ++ Text.decimal (r.2.block.methodLine + 1) ++ ")" ++ "\n" ++
              r.2.result.text showHeaders ++ "\n")) ∧
        (bs = [] → sent = [] ∧ ending.output = ⟨0, "No requests found\n", ""⟩) ∧
        (ending.output.code = 0 ↔
          ∀ i < bs.length, ∃ response, (reply (.ofNat i)).outcome = .ok response) ∧
        (ending.output.code ≠ 0 → ending.output.code = 1 ∧
          ending.output.stderr = "Error: " ++ Text.decimal failed ++ " request(s) failed\n") := by
  intro bs failed
  refine ⟨wellFounded_step, fun s hs => hs.inv.exists_done (shutdown_mem_allCommands bs),
    fun respond clock hreply => ends_ranAll hreply clock, fun sent reports ending hends => ?_⟩
  have hfailure : ending.failure = if failed = 0 then none else some (.requestsFailed failed) :=
    hends.failure_eq
  refine ⟨hends.sent_perm, ?_, fun hlength => ?_, hends.stdout_eq, fun hbs => ?_, ?_,
    fun hcode => ?_⟩
  · have hreports := hends.reports_perm
    rwa [map_blockJobs] at hreports
  · have hblocks : bs.length ≤ UInt64.size :=
      ((length_blocks_le_lines document).trans (Text.length_lines_le document)).trans hlength
    exact ⟨hends.toNat_id_perm hblocks, hends.getElem?_id hblocks⟩
  · cases hends with
    | nothing => exact ⟨rfl, by decide +kernel⟩
    | all h => exact absurd hbs h
  · rw [hends.code_eq_zero_iff]
    exact forall₂_congr fun _ _ => Reply.isError_eq_false_iff
  · have hfails : ending.failure = some (.requestsFailed failed) := by
      refine hfailure.trans (if_neg fun hzero => hcode ?_)
      rw [Ending.code_eq_zero_iff, hfailure, if_pos hzero]
    rw [← Failure.account_requestsFailed, Ending.output, hfails]
    exact ⟨rfl, rfl⟩

example :
    let respond : OutgoingRequest → Reply := fun request =>
      ⟨if request.method = "GET" then .ok ⟨404, ∅, ""⟩ else .error (.failed "refused"), 1⟩
    let ran := ranAll respond (fun _ => ⟨0, 0⟩) "GET /a\n\nPOST /b\n" true false
    ran.2.map (·.url) = ["/a", "/b"] ∧ ran.1.output.stderr = "Error: 1 request(s) failed\n" := by
  decide +kernel

end RequestRunner
