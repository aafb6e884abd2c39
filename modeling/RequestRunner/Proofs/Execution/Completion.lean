import RequestRunner.Proofs.Execution.Schedules

/-!
# What an actor has done in the end

No order of steps goes on for ever, and an actor whose transport replies can always take a step
until it is done. To end each task before the next command is taken is one of the orders, and all
others report the same up to the times they tell.

## Main definitions

* `Actor.tasksWork`, `Actor.State.work` — a bound on the steps that are left.
* `Actor.jobReport` — the report of a job for fixed replies.
* `Report.untimed` — a report without the time it tells.

## Main results

* `Actor.Step.work_lt`, `Actor.wellFounded_step` — every step leaves fewer.
* `Actor.exists_step`, `Actor.exists_done` — an actor that is not done can go on, and can end.
* `Actor.run_recording`, `Actor.run_reachable` — `Actor.run` is one of the orders.
* `Actor.reachable_conserves` — conservation in every order of steps.
-/

namespace RequestRunner

open scoped List

namespace Actor

variable {replies : OutgoingRequest → Reply → Prop} {reply : OutgoingRequest → Reply}
  {queue : List Command} {s s' : State}

/-! ### Steps that are left -/

/-- The steps that a task has left, with the one that reaps it. -/
def Stage.work : Stage → Nat
  | .started => 4
  | .waiting => 3
  | .replied _ => 2

/-- A task that has not sent its request has four steps left. -/
@[simp] lemma Stage.work_started : Stage.started.work = 4 := rfl

/-- A task that waits for its reply has three. -/
@[simp] lemma Stage.work_waiting : Stage.waiting.work = 3 := rfl

/-- A task that has its reply has two: to report and to be reaped. -/
@[simp] lemma Stage.work_replied {result : ExecutionResult} : (Stage.replied result).work = 2 := rfl

/-- The steps that some tasks have left. -/
def tasksWork : List Task → Nat
  | [] => 0
  | t :: tasks => t.stage.work + tasksWork tasks

/-- A bound on the steps that an actor has left: a command takes five, the end of taking one. -/
def State.work (s : State) : Nat :=
  (if s.taking then 5 * s.queue.length + 1 else 0) + tasksWork s.tasks + s.finished

/-- Of the tasks one may be looked at first: the steps that are left do not depend on their order.
-/
lemma tasksWork_middle {before behind : List Task} {job : Job} {stage : Stage} :
    tasksWork (before ++ ⟨job, stage⟩ :: behind) = stage.work + tasksWork (before ++ behind) := by
  induction before with
  | nil => rfl
  | cons t before ih =>
    rw [List.cons_append, List.cons_append, tasksWork, tasksWork, ih]
    omega

/-- **Every step leaves fewer steps.**

**Proof sketch.** By the kinds of steps. Taking a command gives up five for the four of its task, a
task gives up one with each of its steps, and so do the end of taking and reaping. -/
theorem Step.work_lt (h : Step replies s s') : s'.work < s.work := by
  cases h with
  | take hs hq =>
    simp only [State.work, hs, hq, if_true, tasksWork, List.length_cons, Stage.work_started]
    omega
  | shutdown hs hq =>
    simp only [State.work, hs, if_true, Bool.false_eq_true, if_false]
    omega
  | close hs hq =>
    simp only [State.work, hs, if_true, Bool.false_eq_true, if_false]
    omega
  | send ht =>
    simp only [State.work, ht, tasksWork_middle, Stage.work_started, Stage.work_waiting]
    omega
  | reply ht hr =>
    simp only [State.work, ht, tasksWork_middle, Stage.work_waiting, Stage.work_replied]
    omega
  | report ht =>
    simp only [State.work, ht, tasksWork_middle, Stage.work_replied]
    omega
  | reap hf =>
    simp only [State.work, hf]
    omega

/-- **No order of steps goes on for ever.** -/
theorem wellFounded_step : WellFounded fun s' s => Step replies s s' :=
  Subrelation.wf (fun h => h.work_lt) (measure State.work).wf

/-- **An actor that is not done can take a step** if its transport replies to all requests.

**Proof sketch.** While it takes commands there is one, or the queue has ended. Afterwards the first
of its tasks can go on, whatever its stage, or without tasks one that has finished is reaped. -/
theorem exists_step (hreplies : ∀ request, ∃ r, replies request r) (hd : ¬ s.Done) :
    ∃ s', Step replies s s' := by
  cases hs : s.taking with
  | true =>
    cases hq : s.queue with
    | nil => exact ⟨_, .close hs hq⟩
    | cons command rest =>
      cases command with
      | execute id block => exact ⟨_, .take hs hq⟩
      | shutdown => exact ⟨_, .shutdown hs hq⟩
  | false =>
    cases ht : s.tasks with
    | nil =>
      obtain ⟨n, hf⟩ := Nat.exists_eq_succ_of_ne_zero fun hf => hd ⟨hs, ht, hf⟩
      exact ⟨_, .reap hf⟩
    | cons t behind =>
      obtain ⟨job, stage⟩ := t
      have ht' : s.tasks = [] ++ ⟨job, stage⟩ :: behind := ht
      cases stage with
      | started => exact ⟨_, .send ht'⟩
      | waiting =>
        obtain ⟨r, hr⟩ := hreplies job.request
        exact ⟨_, .reply ht' hr⟩
      | replied result => exact ⟨_, .report ht'⟩

/-- **From every state an actor can end**, if its transport replies to all requests.

**Proof sketch.** By induction on the steps that are left (`wellFounded_step`): a state that is not
done can take one of them. -/
theorem exists_done (hreplies : ∀ request, ∃ r, replies request r) (s : State) :
    ∃ s', Relation.ReflTransGen (Step replies) s s' ∧ s'.Done := by
  have hwf : WellFounded fun s' s => Step replies s s' := wellFounded_step
  induction s using hwf.induction with
  | _ s ih =>
    by_cases hd : s.Done
    · exact ⟨s, .refl, hd⟩
    · obtain ⟨s₁, hstep⟩ := exists_step hreplies hd
      obtain ⟨s', hsteps, hd'⟩ := ih s₁ hstep
      exact ⟨s', .head hstep hsteps, hd'⟩

/-! ### One task after the other -/

/-- The report of a job for fixed replies. -/
def jobReport (reply : OutgoingRequest → Reply) (job : Job) : Report :=
  ⟨job.id, job.block, .ofReply (reply job.request)⟩

/-- Jobs that are run one after the other report each its reply, and hand over each its request. -/
lemma run_mapM_runJob (jobs : List Job) (sent : List OutgoingRequest) :
    (jobs.mapM (runJob (.recording reply))).run sent =
      pure (jobs.map (jobReport reply), sent ++ jobs.map Job.request) := by
  have hjob : ∀ (job : Job) (sent : List OutgoingRequest),
      (runJob (.recording reply) job).run sent =
        pure (jobReport reply job, sent ++ [job.request]) :=
    fun _ _ => rfl
  induction jobs generalizing sent with
  | nil => rw [List.mapM_nil, StateT.run_pure, List.map_nil, List.map_nil, List.append_nil]
  | cons job jobs ih =>
    rw [List.mapM_cons, StateT.run_bind, hjob, pure_bind, StateT.run_bind, ih, pure_bind,
      StateT.run_pure, List.map_cons, List.map_cons, List.append_assoc]
    rfl

/-- Running the commands one after the other reports each accepted command and hands over its
request, in order. -/
theorem run_recording (reply : OutgoingRequest → Reply) (queue : List Command) :
    Id.run ((run (.recording reply) queue).run []) =
      ((accepted queue).map (jobReport reply), (accepted queue).map Job.request) := by
  rw [run, run_mapM_runJob]
  rfl

/-- From a state without tasks an actor can take the accepted commands one after the other, each
task reporting and being reaped before the next command.

**Proof sketch.** Induction on the queue. A command takes five steps: it is taken, sends its
request, gets its reply, reports, and is reaped, which leaves a state without tasks and the rest of
the queue. A shutdown or the end of the queue ends it. -/
lemma exists_done_in_order (hreply : ∀ request, replies request (reply request))
    (queue : List Command) (received : List Job) (sent : List OutgoingRequest)
    (reports : List Report) :
    ∃ rest, Relation.ReflTransGen (Step replies) ⟨queue, true, [], 0, received, sent, reports⟩
      ⟨rest, false, [], 0, received ++ accepted queue, sent ++ (accepted queue).map Job.request,
        reports ++ (accepted queue).map (jobReport reply)⟩ := by
  induction queue generalizing received sent reports with
  | nil =>
    refine ⟨[], ?_⟩
    simp only [accepted, List.append_nil, List.map_nil]
    exact .single (.close rfl rfl)
  | cons command queue ih =>
    cases command with
    | shutdown =>
      refine ⟨queue, ?_⟩
      simp only [accepted, List.append_nil, List.map_nil]
      exact .single (.shutdown rfl rfl)
    | execute id block =>
      obtain ⟨rest, hrest⟩ := ih (received ++ [⟨id, block⟩]) (sent ++ [.ofBlock block])
        (reports ++ [jobReport reply ⟨id, block⟩])
      refine ⟨rest, ?_⟩
      simp only [List.append_assoc] at hrest
      have hfirst : ∀ t : Task, [t] = [] ++ t :: [] := fun _ => rfl
      refine .head (.take rfl rfl) (.head (.send (hfirst _)) ?_)
      refine .head (.reply (hfirst _) (hreply _)) (.head (.report (hfirst _)) ?_)
      exact .head (.reap rfl) hrest

/-- **One task after the other is one of the orders.** What running the commands in a row gives is
what some run of the actor ends with. -/
theorem run_reachable (hreply : ∀ request, replies request (reply request))
    (queue : List Command) :
    ∃ s, Reachable replies queue s ∧ s.Done ∧
      (s.reports, s.sent) = Id.run ((run (.recording reply) queue).run []) := by
  obtain ⟨rest, hrest⟩ := exists_done_in_order hreply queue [] [] []
  exact ⟨_, hrest, ⟨rfl, rfl, rfl⟩, (run_recording reply queue).symm⟩

/-! ### Replies that depend on the request alone -/

end Actor

/-- The result without the time that it took. -/
def ExecutionResult.untimed (result : ExecutionResult) : ExecutionResult :=
  { result with durationMillis := 0 }

/-- The report without the time that its request took. -/
def Report.untimed (r : Report) : Report := { r with result := r.result.untimed }

namespace Actor

/-- Up to the time it took, a result depends on the outcome of the request alone. -/
lemma untimed_ofReply {r r' : Reply} (h : r.outcome = r'.outcome) :
    (ExecutionResult.ofReply r).untimed = (ExecutionResult.ofReply r').untimed := by
  obtain ⟨outcome, elapsed⟩ := r
  obtain ⟨outcome', elapsed'⟩ := r'
  obtain rfl : outcome = outcome' := h
  rcases outcome with (text | text) | response <;> rfl

/-- Up to the time, an answer is the one for fixed replies with the same outcomes. -/
lemma untimed_eq_of_answers
    (houtcome : ∀ request r, replies request r → r.outcome = (reply request).outcome) {r : Report}
    (h : Answers replies r.job r.result) : r.untimed = (jobReport reply r.job).untimed := by
  obtain ⟨r', hr', hresult⟩ := answers_iff.1 h
  rw [Report.untimed, hresult, untimed_ofReply (houtcome _ _ hr')]
  rfl

/-- If outcomes depend on the request alone, all orders report what one task after the other does,
up to the times. -/
lemma Inv.untimed_reports_perm (h : Inv replies queue s) (hd : s.Done)
    (houtcome : ∀ request r, replies request r → r.outcome = (reply request).outcome) :
    s.reports.map Report.untimed ~
      (Id.run ((run (.recording reply) queue).run [])).1.map Report.untimed := by
  have hview : ∀ r : Report, Answers replies r.job r.result →
      r.untimed = (Report.untimed ∘ jobReport reply) r.job :=
    fun r hr => untimed_eq_of_answers houtcome hr
  have hreports := h.map_reports_perm hd hview
  rwa [run_recording, List.map_map]

/-- **Conservation in every order of steps.** Let an actor come, in any order of its tasks' steps,
to some state. The commands that it received are those of the tasks in flight and those that were
reported, each once, and they come before the first shutdown of the queue; what stands behind that
shutdown is still in the queue. Every report answers its own command with the result of executing
its block, and every request that was handed over belongs to a received command of its own.

If the actor is done, the reports answer exactly the commands before the first shutdown, or all if
there is none, and exactly their requests were handed over. It can come to be done from every state
if its transport replies to all requests. If the outcome of a request depends on the request alone,
the reports are in all orders the same, up to the times they tell: those of running the commands one
after the other.

**Proof sketch.** Every state that the actor comes to has the invariant (`Reachable.inv`), and at
the end it leaves only the answers open (`Inv.map_reports_perm`). -/
theorem reachable_conserves (replies : OutgoingRequest → Reply → Prop) (queue : List Command) :
    (accepted queue).map Job.command = queue.takeWhile (· != .shutdown) ∧
      (∀ s, Reachable replies queue s →
        s.received ~ s.tasks.map Task.job ++ s.reports.map Report.job ∧
        (∀ r ∈ s.reports, Answers replies r.job r.result) ∧
        s.received <+: accepted queue ∧
        (queue.dropWhile (· != .shutdown)).tail <:+ s.queue ∧
        s.sent <+~ s.received.map Job.request ∧
        (s.Done → s.tasks = [] ∧ s.reports.map Report.job ~ accepted queue ∧
          s.sent ~ (accepted queue).map Job.request) ∧
        ((∀ request, ∃ r, replies request r) →
          ∃ s', Relation.ReflTransGen (Step replies) s s' ∧ s'.Done)) ∧
      ∀ outcome : OutgoingRequest → Outcome,
        (∀ request r, replies request r → r.outcome = outcome request) →
        (∀ s s', Reachable replies queue s → s.Done → Reachable replies queue s' → s'.Done →
          s.reports.map Report.untimed ~ s'.reports.map Report.untimed) ∧
        ∀ s, Reachable replies queue s → s.Done →
          s.reports.map Report.untimed ~
            (Id.run ((run (.recording fun request => ⟨outcome request, 0⟩) queue).run [])).1.map
              Report.untimed := by
  refine ⟨map_command_accepted queue, fun s hs => ?_, fun outcome houtcome => ?_⟩
  · exact ⟨hs.inv.received_perm, hs.inv.reports_answer, hs.inv.received_prefix_accepted,
      hs.inv.behind_suffix_queue, hs.inv.sent_subperm,
      fun hd => ⟨hd.2.1, hs.inv.reports_perm hd, hs.inv.sent_perm_accepted hd⟩,
      fun hreplies => exists_done hreplies s⟩
  · have hrun : ∀ s, Reachable replies queue s → s.Done → s.reports.map Report.untimed ~
        (Id.run ((run (.recording fun request => ⟨outcome request, 0⟩) queue).run [])).1.map
          Report.untimed :=
      fun s hs hd => hs.inv.untimed_reports_perm hd houtcome
    exact ⟨fun s s' hs hd hs' hd' => (hrun s hs hd).trans (hrun s' hs' hd').symm, hrun⟩

end Actor

end RequestRunner
