import Mathlib.Data.List.Perm.Subperm
import Mathlib.Logic.Relation
import RequestRunner.Execution.Actor

/-!
# Schedules of an actor

In whatever order its tasks take their steps, an actor neither loses a command nor answers it
twice: each command that it took is a task or a report, and each request that it handed over belongs
to such a task or to a report. What stands behind the first shutdown stays in the queue.

## Main definitions

* `Actor.Reachable` — the states that some order of steps leads to.
* `Actor.Answers` — what a transport may make of a job.
* `Actor.Inv` — what every step keeps.

## Main results

* `Actor.Step.inv`, `Actor.Reachable.inv` — one step and all steps.
* `Actor.Inv.received_prefix_accepted`, `Actor.Inv.behind_suffix_queue`, `Actor.Inv.sent_subperm` —
  what the invariant says of a state on the way.
* `Actor.Inv.reports_perm`, `Actor.Inv.sent_perm_accepted` — what it says at the end.
-/

namespace RequestRunner

open scoped List

namespace Actor

/-! ### Jobs -/

/-- The command that a job was taken from. -/
def Job.command (job : Job) : Command := .execute job.id job.block

/-- The request that the task of a job hands over. -/
def Job.request (job : Job) : OutgoingRequest := .ofBlock job.block

/-- The request of a task that has handed it over. -/
def Task.request? (t : Task) : Option OutgoingRequest :=
  match t.stage with
  | .started => none
  | .waiting | .replied _ => some t.job.request

end Actor

/-- The job that a report answers. -/
def Report.job (r : Report) : Actor.Job := ⟨r.id, r.block⟩

namespace Actor

variable {replies : OutgoingRequest → Reply → Prop} {queue : List Command} {s s' : State}

/-- The result is that of executing the block of the job, through any transport that gives to the
request of the job a reply which `replies` allows. -/
def Answers (replies : OutgoingRequest → Reply → Prop) (job : Job) (result : ExecutionResult) :
    Prop :=
  ∃ r, replies job.request r ∧
    ∀ transport : Transport Id, transport job.request = pure r →
      executeBlock transport job.block = pure result

/-- What answers a job is the result that is made of a reply to its request. A transport that gives
this reply shows it in one direction; in the other, every transport that does executes the block
alike. -/
lemma answers_iff {job : Job} {result : ExecutionResult} :
    Answers replies job result ↔ ∃ r, replies job.request r ∧ result = .ofReply r := by
  constructor
  · rintro ⟨r, hr, hresult⟩
    have hexecute : (pure (.ofReply r) : Id ExecutionResult) = pure result :=
      hresult (fun _ => pure r) rfl
    exact ⟨r, hr, hexecute.symm⟩
  · rintro ⟨r, hr, rfl⟩
    refine ⟨r, hr, fun transport htransport => ?_⟩
    have hexecute : executeBlock transport job.block =
        (do return .ofReply (← transport job.request)) := rfl
    rw [hexecute, htransport, pure_bind]

/-- Some order of steps leads an actor with the given queue to the state. -/
def Reachable (replies : OutgoingRequest → Reply → Prop) (queue : List Command) (s : State) : Prop :=
  Relation.ReflTransGen (Step replies) (.initial queue) s

/-! ### Accepted commands -/

/-- The accepted commands are those before the first shutdown. -/
lemma map_command_accepted (queue : List Command) :
    (accepted queue).map Job.command = queue.takeWhile (· != .shutdown) := by
  induction queue with
  | nil => rfl
  | cons command queue ih =>
    cases command with
    | execute id block => simp [accepted, Job.command, ih]
    | shutdown => rfl

/-- Nothing is accepted behind a shutdown. -/
lemma accepted_shutdown (queue : List Command) : accepted (.shutdown :: queue) = [] := rfl

/-- Commands before the first shutdown are all accepted. -/
lemma accepted_append (jobs : List Job) (queue : List Command) :
    accepted (jobs.map Job.command ++ queue) = jobs ++ accepted queue := by
  induction jobs with
  | nil => rfl
  | cons job jobs ih => rw [List.map_cons, List.cons_append, Job.command, accepted, ih]; rfl

/-- Commands without a shutdown are all accepted. -/
lemma accepted_map_command (jobs : List Job) : accepted (jobs.map Job.command) = jobs := by
  have h := accepted_append jobs []
  rwa [List.append_nil, show accepted [] = [] from rfl, List.append_nil] at h

/-- The first shutdown is not among commands that were accepted. -/
lemma dropWhile_append (jobs : List Job) (queue : List Command) :
    (jobs.map Job.command ++ queue).dropWhile (· != .shutdown) =
      queue.dropWhile (· != .shutdown) := by
  refine List.dropWhile_append_of_pos fun command hcommand => ?_
  obtain ⟨job, -, rfl⟩ := List.mem_map.1 hcommand
  rfl

/-! ### What every step keeps -/

/-- What holds in every state that an actor with the given queue comes to. -/
structure Inv (replies : OutgoingRequest → Reply → Prop) (queue : List Command) (s : State) :
    Prop where
  received_perm : s.received ~ s.tasks.map Task.job ++ s.reports.map Report.job
  sent_perm : s.sent ~ s.tasks.filterMap Task.request? ++ s.reports.map (·.job.request)
  replied_answers : ∀ t ∈ s.tasks, ∀ result, t.stage = .replied result →
    Answers replies t.job result
  reports_answer : ∀ r ∈ s.reports, Answers replies r.job r.result
  queue_of_taking : s.taking = true → queue = s.received.map Job.command ++ s.queue
  queue_of_stopped : s.taking = false →
    queue = s.received.map Job.command ++ .shutdown :: s.queue ∨
      queue = s.received.map Job.command ∧ s.queue = []

/-- Before the first step nothing is received, sent or reported, and the queue is the whole one. -/
lemma inv_initial : Inv replies queue (.initial queue) where
  received_perm := .nil
  sent_perm := .nil
  replied_answers _ ht := absurd ht List.not_mem_nil
  reports_answer _ hr := absurd hr List.not_mem_nil
  queue_of_taking _ := rfl
  queue_of_stopped h := absurd h (by simp [State.initial])

/-- An element is moved from the middle of one list to the end of the other. -/
lemma perm_move {α : Type} (before behind rest : List α) (a : α) :
    (before ++ a :: behind) ++ rest ~ (before ++ behind) ++ (rest ++ [a]) :=
  calc (before ++ a :: behind) ++ rest ~ a :: (before ++ behind) ++ rest :=
        List.perm_middle.append_right rest
    _ ~ (before ++ behind) ++ rest ++ [a] := (List.perm_append_singleton a _).symm
    _ = (before ++ behind) ++ (rest ++ [a]) := List.append_assoc _ _ _

/-- An element is added at the end of one list and in the middle of the other. -/
lemma perm_add {α : Type} {l before behind rest : List α} (a : α)
    (h : l ~ (before ++ behind) ++ rest) : l ++ [a] ~ (before ++ a :: behind) ++ rest :=
  calc l ++ [a] ~ (before ++ behind) ++ rest ++ [a] := h.append_right [a]
    _ = (before ++ behind) ++ (rest ++ [a]) := List.append_assoc _ _ _
    _ ~ (before ++ a :: behind) ++ rest := (perm_move before behind rest a).symm

/-- The job of a task among others. -/
lemma map_job_middle {before behind : List Task} {job : Job} {stage : Stage} :
    (before ++ ⟨job, stage⟩ :: behind).map Task.job =
      before.map Task.job ++ job :: behind.map Task.job := by
  rw [List.map_append, List.map_cons]

/-- A task that has not handed over its request adds none to those of the others. -/
lemma filterMap_request?_started {before behind : List Task} {job : Job} :
    (before ++ ⟨job, .started⟩ :: behind).filterMap Task.request? =
      before.filterMap Task.request? ++ behind.filterMap Task.request? := by
  have hnone : Task.request? ⟨job, .started⟩ = none := rfl
  rw [List.filterMap_append, List.filterMap_cons_none hnone]

/-- A task that has handed over its request adds it to those of the others. -/
lemma filterMap_request?_handed {before behind : List Task} {job : Job} {stage : Stage}
    (h : stage ≠ .started) :
    (before ++ ⟨job, stage⟩ :: behind).filterMap Task.request? =
      before.filterMap Task.request? ++ job.request :: behind.filterMap Task.request? := by
  have hsome : Task.request? ⟨job, stage⟩ = some job.request := by
    cases stage with
    | started => exact absurd rfl h
    | waiting | replied => rfl
  rw [List.filterMap_append, List.filterMap_cons_some hsome]

/-- **One step**, whichever it is, keeps the invariant.

**Proof sketch.** By the kind of the step. Taking a command adds a task and a received job; handing
over and replying change the stage of one task; reporting turns a task into a report; the other
steps touch neither. -/
theorem Step.inv (h : Step replies s s') (hi : Inv replies queue s) : Inv replies queue s' := by
  obtain ⟨hreceived, hsent, hreplied, hreports, htaking, hstopped⟩ := hi
  cases h with
  | @take id block rest hs hq =>
    refine ⟨?_, hsent, List.forall_mem_cons.2 ⟨fun _ h => Stage.noConfusion h, hreplied⟩, hreports,
      fun _ => ?_, fun h => absurd (hs.symm.trans h) Bool.noConfusion⟩
    · exact @perm_add Job _ [] _ _ ⟨id, block⟩ hreceived
    · rw [htaking hs, hq, List.map_append, List.append_assoc]
      rfl
  | @shutdown rest hs hq =>
    refine ⟨hreceived, hsent, hreplied, hreports, fun h => absurd h Bool.noConfusion, fun _ => ?_⟩
    rw [htaking hs, hq]
    exact .inl rfl
  | close hs hq =>
    refine ⟨hreceived, hsent, hreplied, hreports, fun h => absurd h Bool.noConfusion, fun _ => ?_⟩
    rw [htaking hs, hq, List.append_nil]
    exact .inr ⟨rfl, rfl⟩
  | @send job before behind ht =>
    rw [ht] at hreceived hsent hreplied
    rw [List.forall_mem_append, List.forall_mem_cons] at hreplied
    obtain ⟨hbefore, -, hbehind⟩ := hreplied
    refine ⟨?_, ?_, ?_, hreports, htaking, hstopped⟩
    · rwa [map_job_middle] at hreceived ⊢
    · rw [filterMap_request?_started] at hsent
      rw [filterMap_request?_handed Stage.noConfusion]
      exact perm_add job.request hsent
    · exact List.forall_mem_append.2
        ⟨hbefore, List.forall_mem_cons.2 ⟨fun _ h => Stage.noConfusion h, hbehind⟩⟩
  | @reply job before behind r ht hr =>
    rw [ht] at hreceived hsent hreplied
    rw [List.forall_mem_append, List.forall_mem_cons] at hreplied
    obtain ⟨hbefore, -, hbehind⟩ := hreplied
    have hanswers : ∀ result, Stage.replied (.ofReply r) = .replied result →
        Answers replies job result := by
      rintro result ⟨⟩
      exact answers_iff.2 ⟨r, hr, rfl⟩
    refine ⟨?_, ?_, ?_, hreports, htaking, hstopped⟩
    · rwa [map_job_middle] at hreceived ⊢
    · rw [filterMap_request?_handed Stage.noConfusion] at hsent ⊢
      exact hsent
    · exact List.forall_mem_append.2 ⟨hbefore, List.forall_mem_cons.2 ⟨hanswers, hbehind⟩⟩
  | @report job result before behind ht =>
    rw [ht] at hreceived hsent hreplied
    rw [List.forall_mem_append, List.forall_mem_cons] at hreplied
    obtain ⟨hbefore, hanswers, hbehind⟩ := hreplied
    refine ⟨?_, ?_, List.forall_mem_append.2 ⟨hbefore, hbehind⟩, ?_, htaking, hstopped⟩
    · rw [map_job_middle] at hreceived
      rw [List.map_append, List.map_append]
      exact hreceived.trans (perm_move _ _ _ job)
    · rw [filterMap_request?_handed Stage.noConfusion] at hsent
      rw [List.filterMap_append, List.map_append]
      exact hsent.trans (perm_move _ _ _ job.request)
    · exact List.forall_mem_append.2
        ⟨hreports, List.forall_mem_singleton.2 (hanswers result rfl)⟩
  | reap hf => exact ⟨hreceived, hsent, hreplied, hreports, htaking, hstopped⟩

/-- **All steps**: the invariant holds in every state that an actor comes to, by induction on the
steps. -/
theorem Reachable.inv (h : Reachable replies queue s) : Inv replies queue s := by
  induction h with
  | refl => exact inv_initial
  | tail _ hstep ih => exact hstep.inv ih

/-! ### What the invariant says -/

/-- Received commands are the first of the accepted ones.

**Proof sketch.** While the actor takes commands, the queue is what was received and what is left;
afterwards a shutdown stands between the two, or nothing is left. In each case the accepted commands
start with those received. -/
lemma Inv.received_prefix_accepted (h : Inv replies queue s) : s.received <+: accepted queue := by
  cases hs : s.taking with
  | true =>
    rw [h.queue_of_taking hs, accepted_append]
    exact List.prefix_append _ _
  | false =>
    rcases h.queue_of_stopped hs with hq | ⟨hq, -⟩
    · rw [hq, accepted_append]
      exact List.prefix_append _ _
    · have hall : accepted queue = s.received := by rw [hq, accepted_map_command]
      exact hall ▸ List.prefix_rfl

/-- An actor that takes no commands any more has received all the accepted ones. -/
lemma Inv.received_eq_accepted (h : Inv replies queue s) (hs : s.taking = false) :
    s.received = accepted queue := by
  rcases h.queue_of_stopped hs with hq | ⟨hq, -⟩
  · rw [hq, accepted_append, accepted_shutdown, List.append_nil]
  · rw [hq, accepted_map_command]

/-- What stands behind the first shutdown stays in the queue. While commands are taken, the shutdown
is in what is left; afterwards what is left is just what stands behind it. -/
lemma Inv.behind_suffix_queue (h : Inv replies queue s) :
    (queue.dropWhile (· != .shutdown)).tail <:+ s.queue := by
  cases hs : s.taking with
  | true =>
    rw [h.queue_of_taking hs, dropWhile_append]
    exact (List.tail_suffix _).trans (List.dropWhile_suffix _)
  | false =>
    rcases h.queue_of_stopped hs with hq | ⟨hq, -⟩
    · rw [hq, dropWhile_append]
      exact List.suffix_rfl
    · rw [hq, ← List.append_nil (s.received.map _), dropWhile_append]
      exact List.nil_suffix

/-- The requests that were handed over are among those of all tasks. -/
lemma filterMap_request?_sublist (tasks : List Task) :
    tasks.filterMap Task.request? <+ tasks.map (·.job.request) := by
  induction tasks with
  | nil => exact .slnil
  | cons t tasks ih =>
    obtain ⟨job, _ | _ | result⟩ := t
    · exact ih.cons _
    · exact ih.cons_cons _
    · exact ih.cons_cons _

/-- What was handed over belongs to received commands, one request to each. -/
lemma Inv.sent_subperm (h : Inv replies queue s) : s.sent <+~ s.received.map Job.request := by
  have hreceived := h.received_perm.map Job.request
  rw [List.map_append, List.map_map, List.map_map] at hreceived
  have hsub := (filterMap_request?_sublist s.tasks).append_right
    (s.reports.map (·.job.request))
  exact (h.sent_perm.subperm.trans hsub.subperm).trans hreceived.symm.subperm

/-- At the end the reports answer the accepted commands, one report each. -/
lemma Inv.reports_perm (h : Inv replies queue s) (hd : s.Done) :
    s.reports.map Report.job ~ accepted queue := by
  obtain ⟨hs, htasks, -⟩ := hd
  have hreceived := h.received_perm
  rw [htasks, h.received_eq_accepted hs] at hreceived
  exact hreceived.symm

/-- At the end the requests are those of the accepted commands, one request each. -/
lemma Inv.sent_perm_accepted (h : Inv replies queue s) (hd : s.Done) :
    s.sent ~ (accepted queue).map Job.request := by
  have hreports := (h.reports_perm hd).map Job.request
  rw [List.map_map] at hreports
  have hsent := h.sent_perm
  rw [hd.2.1] at hsent
  exact hsent.trans hreports

/-- What the answer to a job determines of its report is, at the end, the same in all orders. With
`view` the number and the block, or the report without its time, this is conservation and agreement
of all orders. -/
lemma Inv.map_reports_perm {α : Type} {view : Report → α} {answer : Job → α}
    (h : Inv replies queue s) (hd : s.Done)
    (hview : ∀ r, Answers replies r.job r.result → view r = answer r.job) :
    s.reports.map view ~ (accepted queue).map answer := by
  have hmap : s.reports.map view = (s.reports.map Report.job).map answer := by
    rw [List.map_map]
    exact List.map_congr_left fun r hr => hview r (h.reports_answer r hr)
  rw [hmap]
  exact (h.reports_perm hd).map answer

end Actor

end RequestRunner
