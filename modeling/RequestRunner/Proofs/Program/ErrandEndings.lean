import RequestRunner.Proofs.Program.Agreement
import RequestRunner.Proofs.Program.Errands

/-!
# How errands end

The network may answer a request as it likes, and a run of all requests may take its steps in any
order. If the outcome of a request depends on the request alone, an errand ends in one way, up to the
times and the order of the reports.

## Main definitions

* `Errand.Ends` — the requests that an errand may hand over, and what it may print.
* `Output.Alike` — two outputs that are the same up to times and the order of reports.

## Main results

* `Errand.ends_carryOut` — to carry out an errand is one of the ways in which it may end.
* `Output.Alike.code_eq` — outputs that are alike have the same exit code.
* `Errand.Ends.alike` — an errand ends in one way, up to times and order.
-/

namespace RequestRunner

open scoped List

/-- How an errand may end if a request may get any reply that `replies` allows: the requests that were
handed over and what the caller gets. -/
inductive Errand.Ends (replies : OutgoingRequest → Reply → Prop) :
    Errand → List OutgoingRequest → Output → Prop where
  | finished (output : Output) : Ends replies (.finished output) [] output
  | run {respond : OutgoingRequest → Reply} (h : ∀ request, replies request (respond request))
      (seconds : Nat) (document : String) (line : Nat) (json showHeaders : Bool) :
      Ends replies (.run seconds document line json showHeaders)
        (ranAt respond document line json showHeaders).2
        (ranAt respond document line json showHeaders).1.output
  | /-- One request after the other. -/
    inOrder {respond : OutgoingRequest → Reply} (h : ∀ request, replies request (respond request))
      (clock : List OutgoingRequest → Instant) (seconds : Nat) (document : String)
      (json showHeaders : Bool) :
      Ends replies (.runAll seconds document json showHeaders)
        (ranAll respond clock document json showHeaders).2
        (ranAll respond clock document json showHeaders).1.output
  | /-- All requests at once, in any order of steps. -/
    atOnce {reply : UInt64 → Reply} {document : String} {json showHeaders : Bool}
      {sent : List OutgoingRequest} {reports : List (Instant × Report)} {ending : Ending}
      (h : Batch.Ends reply document json showHeaders sent reports ending)
      (hr : ∀ i b, (blocks document)[i]? = some b → replies (.ofBlock b) (reply (.ofNat i)))
      (seconds : Nat) :
      Ends replies (.runAll seconds document json showHeaders) sent ending.output
  | checkUpdate {reply : Reply} (feed : String)
      (h : replies (releaseRequest programVersion feed) reply) (seconds : Nat) :
      Ends replies (.checkUpdate seconds feed) [releaseRequest programVersion feed]
        (Ending.ofUpdate (.ofReply programVersion reply)).output

/-- Two outputs are the same up to the times that they tell and the order of reports. -/
inductive Output.Alike : Output → Output → Prop where
  | refl (output : Output) : Alike output output
  | result (json showHeaders : Bool) {r r' : ExecutionResult} (h : r.untimed = r'.untimed) :
      Alike (Ending.ofResult json showHeaders r).output (Ending.ofResult json showHeaders r').output
  | reports (json showHeaders : Bool) {rs rs' : List (Instant × Report)}
      (h : rs.map (·.2.untimed) ~ rs'.map (·.2.untimed)) :
      Alike (Ending.ofReports json showHeaders rs).output
        (Ending.ofReports json showHeaders rs').output

variable {replies : OutgoingRequest → Reply → Prop} {errand : Errand}
  {sent sent' : List OutgoingRequest} {output output' : Output}

/-- To make an output of an answer hands nothing more over. -/
lemma run_return {α : Type} (x : StateT (List OutgoingRequest) Id α) (f : α → Output)
    (sent : List OutgoingRequest) :
    (do return f (← x) : StateT (List OutgoingRequest) Id Output).run sent =
      (f (x.run sent).1, (x.run sent).2) :=
  rfl

/-- **To carry out an errand** is one of the ways in which it may end.

**Proof sketch.** One case for each errand. What is recorded is what was handed over, and the output
is made of the ending. -/
theorem Errand.ends_carryOut {respond : OutgoingRequest → Reply}
    (h : ∀ request, replies request (respond request)) (clock : List OutgoingRequest → Instant)
    (errand : Errand) :
    let ran := (errand.carryOut (fun _ => .recording respond) (clock <$> get)).run []
    errand.Ends replies ran.2 ran.1 := by
  cases errand with
  | finished output => exact .finished output
  | run seconds document line json showHeaders =>
    rw [carryOut, run_return]
    exact .run h seconds document line json showHeaders
  | runAll seconds document json showHeaders =>
    rw [carryOut, run_return]
    exact .inOrder h clock seconds document json showHeaders
  | checkUpdate seconds feed => exact .checkUpdate feed (h _) seconds

/-! ### Outputs that are alike -/

/-- **Outputs that are alike have the same exit code**, and tell of a failure in the same words.

**Proof sketch.** Whether a result has an error does not depend on its time, and how many have does
not depend on the order of the reports either. -/
theorem Output.Alike.code_eq (h : output.Alike output') :
    output.code = output'.code ∧ output.stderr = output'.stderr := by
  cases h with
  | refl => exact ⟨rfl, rfl⟩
  | @result json showHeaders r r' h =>
    have herror : r.error = r'.error :=
      show r.untimed.error = r'.untimed.error from congrArg ExecutionResult.error h
    simp [Ending.output, Ending.ofResult, herror]
  | @reports json showHeaders rs rs' h =>
    have hcount : ∀ rs : List (Instant × Report), rs.countP (·.2.result.isError) =
        (rs.map (·.2.untimed)).countP (·.result.isError) := fun rs => by
      rw [List.countP_map]
      rfl
    have hfailure : (Ending.ofReports json showHeaders rs).failure =
        (Ending.ofReports json showHeaders rs').failure := by
      rw [Ending.ofReports_failure, Ending.ofReports_failure, hcount rs, hcount rs', h.countP_eq]
    simp only [Ending.output, hfailure, and_self]

/-! ### Outcomes that depend on the request alone -/

variable {outcome : OutgoingRequest → Outcome} {seconds : Nat} {document : String}
  {json showHeaders : Bool}

/-- Up to times and order, the reports on all blocks are fixed by the outcomes.

**Proof sketch.** One request after the other gives the reports in order, and at once they come in
some order (`Batch.Ends.untimed_perm`). Without their times both are those that the outcomes give.
-/
lemma Errand.Ends.runAll_cases
    (h : Errand.Ends (fun request reply => reply.outcome = outcome request)
      (.runAll seconds document json showHeaders) sent output) :
    sent ~ (blocks document).map .ofBlock ∧
      ((blocks document = [] ∧ output = (Ending.prints [Ending.noRequests]).output) ∨
        blocks document ≠ [] ∧ ∃ reports, output = (Ending.ofReports json showHeaders reports).output ∧
          reports.map (·.2.untimed) ~ (blocks document).mapIdx fun i b =>
            ⟨.ofNat i, b, (ExecutionResult.ofReply ⟨outcome (.ofBlock b), 0⟩).untimed⟩) := by
  cases h with
  | @inOrder respond h clock =>
    by_cases hbs : blocks document = []
    · rw [ranAll_of_blocks_eq_nil hbs, hbs]
      exact ⟨.refl _, .inl ⟨rfl, rfl⟩⟩
    · obtain ⟨timed, hran, htimed⟩ := @exists_ranAll_eq document json showHeaders respond
        clock hbs
      rw [hran, map_request_blockJobs]
      refine ⟨.refl _, .inr ⟨hbs, timed, rfl, ?_⟩⟩
      -- in order the reports are known one by one, so they are equal up to their times
      have huntimed := congrArg (List.map Report.untimed) htimed
      rw [List.map_map, List.map_map, map_blockJobs] at huntimed
      refine .of_eq (huntimed.trans (List.mapIdx_eq_mapIdx_iff.2 fun i hi => ?_))
      have hresult : (ExecutionResult.ofReply (respond (.ofBlock (blocks document)[i]))).untimed =
          (ExecutionResult.ofReply ⟨outcome (.ofBlock (blocks document)[i]), 0⟩).untimed :=
        Actor.untimed_ofReply (h _)
      exact congrArg (Report.mk _ _) hresult
  | @atOnce reply _ _ _ _ reports ending h hr =>
    refine ⟨h.sent_perm, ?_⟩
    have huntimed := @Batch.Ends.untimed_perm document json showHeaders reply
      (fun _ request => ⟨outcome request, 0⟩) _ _ _ h hr
    cases h with
    | nothing hbs => exact .inl ⟨hbs, rfl⟩
    | all hbs => exact .inr ⟨hbs, _, rfl, huntimed⟩

/-- **An errand ends in one way**, up to times and the order of requests and reports, if the outcome
of a request depends on the request alone.

**Proof sketch.** One case for each errand. One that is finished has its output; a single run finds
the same block and its result is the same but for the time; a run of all requests has the same
reports up to order (`Errand.Ends.runAll_cases`); and a check for updates tells the same of the same
outcome. -/
theorem Errand.Ends.alike
    (h : Errand.Ends (fun request reply => reply.outcome = outcome request) errand sent output)
    (h' : Errand.Ends (fun request reply => reply.outcome = outcome request) errand sent' output') :
    sent ~ sent' ∧ output.Alike output' := by
  cases errand with
  | finished =>
    cases h
    cases h'
    exact ⟨.refl _, .refl _⟩
  | run seconds document line json showHeaders =>
    cases h with | run hreply =>
    cases h' with | run hreply' =>
    cases hb : blockAt? (blocks document) (line - 1) with
    | none =>
      rw [ranAt_of_blockAt?_eq_none hb, ranAt_of_blockAt?_eq_none hb]
      exact ⟨.refl _, .refl _⟩
    | some b =>
      rw [ranAt_of_blockAt? hb, ranAt_of_blockAt? hb]
      exact ⟨.refl _, .result json showHeaders
        (Actor.untimed_ofReply ((hreply _).trans (hreply' _).symm))⟩
  | runAll seconds document json showHeaders =>
    obtain ⟨hsent, hreports⟩ := h.runAll_cases
    obtain ⟨hsent', hreports'⟩ := h'.runAll_cases
    refine ⟨hsent.trans hsent'.symm, ?_⟩
    rcases hreports with ⟨hbs, rfl⟩ | ⟨hbs, reports, rfl, hperm⟩ <;>
      rcases hreports' with ⟨hbs', rfl⟩ | ⟨hbs', reports', rfl, hperm'⟩
    · exact .refl _
    · exact absurd hbs hbs'
    · exact absurd hbs' hbs
    · exact .reports json showHeaders (hperm.trans hperm'.symm)
  | checkUpdate seconds feed =>
    cases h with | @checkUpdate reply _ hreply =>
    cases h' with | @checkUpdate reply' _ hreply' =>
    have hinfo : UpdateInfo.ofReply programVersion reply = .ofReply programVersion reply' := by
      rw [UpdateInfo.ofReply, UpdateInfo.ofReply, hreply.trans hreply'.symm]
    rw [hinfo]
    exact ⟨.refl _, .refl _⟩

end RequestRunner
