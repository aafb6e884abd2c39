import RequestRunner.Proofs.Program.BatchOrders

/-!
# Runs of all requests come to their end

No order of steps goes on for ever, and a run whose commands end with one to shut down can always
take a step until it is done. To run all requests one after the other is one of the orders.

## Main definitions

* `Batch.State.work` — a bound on the steps that are left.

## Main results

* `Batch.Step.work_lt`, `Batch.wellFounded_step` — every step leaves fewer.
* `Batch.Inv.exists_step`, `Batch.Inv.exists_done` — a run that is not done can go on, and can end.
* `Actor.Reachable.batch` — every order of an actor's steps is one of a run.
* `Batch.exists_done_in_order` — one request after the other is one of the orders.
-/

namespace RequestRunner

variable {reply : UInt64 → Reply} {commands : List Command}

/-! ### Steps that the actor has left -/

namespace Actor

variable {replies : OutgoingRequest → Reply → Prop} {queue : List Command} {s : State}

/-- What holds of all elements holds of one in the middle and of those around it. -/
lemma forall_mem_middle {α : Type} {p : α → Prop} {before behind : List α} {a : α} :
    (∀ t ∈ before ++ a :: behind, p t) ↔ p a ∧ ∀ t ∈ before ++ behind, p t := by
  rw [List.forall_mem_append, List.forall_mem_cons, List.forall_mem_append]
  exact and_left_comm

/-- An actor that will be told to shut down has a command as long as it takes any. The command to
shut down is behind all that were taken, so it is still to come. -/
lemma Inv.queue_ne_nil (h : Inv replies queue s) (hq : .shutdown ∈ queue) (hs : s.taking = true) :
    s.queue ≠ [] := by
  intro hnil
  rw [h.queue_of_taking hs, hnil, List.append_nil, List.mem_map] at hq
  obtain ⟨job, -, hjob⟩ := hq
  exact Command.noConfusion hjob

/-- An actor that is not done and has a command as long as it takes any can take a step in which
each reply is the one that is fixed for its command.

**Proof sketch.** Some step there is. It is the one to be shown, unless it is a reply; then the
reply that is fixed may come instead, as any may. -/
lemma exists_step_follows (hf : s.Follows reply) (hd : ¬ s.Done)
    (hq : s.taking = true → s.queue ≠ []) :
    ∃ s', Step (fun _ _ => True) s s' ∧ s'.Follows reply ∧
      (s.queue = [] → s'.taking = s.taking) := by
  have hstep : ∃ s', Step (fun _ _ => True) s s' :=
    exists_step (fun request => ⟨⟨.error (.failed request.url), 0⟩, trivial⟩) hd
  obtain ⟨s', hstep⟩ := hstep
  cases hstep with
  | take hs hqueue =>
    exact ⟨_, .take hs hqueue, List.forall_mem_cons.2 ⟨fun _ h => Stage.noConfusion h, hf⟩,
      fun _ => rfl⟩
  | shutdown hs hqueue =>
    refine ⟨_, .shutdown hs hqueue, hf, fun hnil => ?_⟩
    rw [hqueue] at hnil
    cases hnil
  | close hs hqueue => exact absurd hqueue (hq hs)
  | send ht =>
    rw [State.Follows, ht, forall_mem_middle] at hf
    exact ⟨_, .send ht, forall_mem_middle.2 ⟨fun _ h => Stage.noConfusion h, hf.2⟩, fun _ => rfl⟩
  | @reply job before behind r ht hr =>
    -- the step may be one with any reply, but there is also one with the reply that is fixed
    rw [State.Follows, ht, forall_mem_middle] at hf
    have hfixed : Task.Follows reply ⟨job, .replied (.ofReply (reply job.id))⟩ := by
      rintro result ⟨⟩
      rfl
    exact ⟨_, .reply ht trivial, forall_mem_middle.2 ⟨hfixed, hf.2⟩, fun _ => rfl⟩
  | report ht =>
    rw [State.Follows, ht, forall_mem_middle] at hf
    exact ⟨_, .report ht, hf.2, fun _ => rfl⟩
  | reap hfinished => exact ⟨_, .reap hfinished, hf, fun _ => rfl⟩

end Actor

namespace Batch

variable {s s' : State}

/-! ### Steps that a run has left -/

/-- A bound on the steps that a run has left: to take a report for every step of the actor that may
add one, and for a command one step more than the actor needs. -/
def State.work (s : State) : Nat :=
  11 * s.unsent.length + 2 * s.actor.work + (s.actor.reports.length - s.taken.length)

/-- Every step leaves fewer steps.

**Proof sketch.** By the kind of the step. To send a command costs its own eleven and gives the
actor at most five steps more, which count ten; a step of the actor costs two and adds one report at
most; and to take a report costs one. -/
theorem Step.work_lt (h : Step reply s s') : s'.work < s.work := by
  cases h with
  | @send command rest hu =>
    -- five steps more for the actor count ten, and the command counted eleven
    have hmore : Actor.State.work { s.actor with queue := s.actor.queue ++ [command] } ≤
        s.actor.work + 5 := by
      simp only [Actor.State.work, List.length_append, List.length_singleton]
      split <;> omega
    simp only [Actor.State.work] at hmore
    simp only [State.work, Actor.State.work, hu, List.length_cons]
    omega
  | @act a ha hf hopen =>
    have hlt := ha.work_lt
    -- a report that is added is one more to take, but the actor's step counted two
    have hreports : a.reports.length ≤ s.actor.reports.length + 1 := by
      rcases ha.reports_cases with hsame | ⟨t, ht, result, hstage, hmore⟩
      · rw [hsame]
        exact Nat.le_succ _
      · rw [hmore, List.length_append]
        exact Nat.le_refl _
    simp only [State.work]
    omega
  | @take report later completed hu hr =>
    have hlength := congrArg List.length hr
    rw [List.length_append, List.length_map, List.length_cons] at hlength
    simp only [State.work, List.length_append, List.length_singleton]
    omega

/-- **No order of steps goes on for ever.** -/
theorem wellFounded_step : WellFounded fun s' s => Step reply s s' :=
  Subrelation.wf (fun h => h.work_lt) (measure State.work).wf

/-- A run that is not done can take a step if its commands end with one to shut down.

**Proof sketch.** A command that is not sent can be sent. After the last one the actor has a command
as long as it takes any, and can go on until it is done; then a report that is left can be taken. -/
theorem Inv.exists_step (h : Inv reply commands s) (hc : .shutdown ∈ commands) (hd : ¬ s.Done) :
    ∃ s', Step reply s s' := by
  cases hu : s.unsent with
  | cons command rest => exact ⟨_, .send hu⟩
  | nil =>
    by_cases hactor : s.actor.Done
    · -- the actor is done, so a report must be left to be taken
      obtain ⟨later, hlater⟩ := h.taken_prefix
      cases later with
      | nil => exact absurd ⟨hu, hactor, by rwa [List.append_nil] at hlater⟩ hd
      | cons report later => exact ⟨_, .take ⟨0, 0⟩ hu hlater.symm⟩
    · -- all commands are sent, among them the one to shut down
      have hq : s.actor.taking = true → s.actor.queue ≠ [] := by
        intro hs hnil
        refine h.whole_reachable.inv.queue_ne_nil hc hs ?_
        rw [State.whole, hu, hnil]
        rfl
      obtain ⟨a, ha, hf, hopen⟩ := Actor.exists_step_follows h.follows hactor hq
      exact ⟨_, .act ha hf hopen⟩

/-- **From every state a run can end** if its commands end with one to shut down. By induction on
the steps that are left: a run that is not done can take one. -/
theorem Inv.exists_done (h : Inv reply commands s) (hc : .shutdown ∈ commands) :
    ∃ s', Relation.ReflTransGen (Step reply) s s' ∧ s'.Done := by
  have hwf : WellFounded fun s' s => Step reply s s' := wellFounded_step
  induction s using hwf.induction with
  | _ s ih =>
    by_cases hd : s.Done
    · exact ⟨s, .refl, hd⟩
    · obtain ⟨s₁, hstep⟩ := h.exists_step hc hd
      obtain ⟨s', hsteps, hd'⟩ := ih s₁ hstep (hstep.inv h)
      exact ⟨s', .head hstep hsteps, hd'⟩

/-! ### One request after the other -/

/-- All commands can be sent before the actor takes a step, one after the other. -/
lemma reachable_sent (rest queue : List Command) :
    Relation.ReflTransGen (Step reply) ⟨rest, .initial queue, []⟩
      ⟨[], .initial (queue ++ rest), []⟩ := by
  induction rest generalizing queue with
  | nil =>
    rw [List.append_nil]
  | cons command rest ih =>
    have hrest := ih (queue ++ [command])
    rw [List.append_assoc, List.singleton_append] at hrest
    exact .head (.send rfl) hrest

/-- After the last command is sent, reports can be taken one behind the other. -/
lemma reachable_taken {a : Actor.State} (more taken : List (Instant × Report))
    (h : a.reports = (taken ++ more).map Prod.snd) :
    Relation.ReflTransGen (Step reply) ⟨[], a, taken⟩ ⟨[], a, taken ++ more⟩ := by
  induction more generalizing taken with
  | nil =>
    rw [List.append_nil]
  | cons first more ih =>
    have hrest : taken ++ first :: more = taken ++ [first] ++ more := by
      rw [List.append_assoc, List.singleton_append]
    have hfirst : a.reports = taken.map Prod.snd ++ first.2 :: more.map Prod.snd := by
      rw [h, List.map_append, List.map_cons]
    rw [hrest] at h ⊢
    exact .head (.take first.1 rfl hfirst) (ih _ h)

end Batch

/-- **Every order of an actor's steps is one of a run**, if a command to shut down is among the
commands and the replies that are fixed for them are those to their requests.

**Proof sketch.** All commands are sent first, and then the run takes the steps that the actor
takes. A reply that comes is the one to a request of a command that was accepted, so it is the one
that is fixed; and the actor never stops for want of a command. -/
theorem Actor.Reachable.batch {respond : OutgoingRequest → Reply} {a : State}
    (h : Reachable (fun request r => r = respond request) commands a)
    (hc : .shutdown ∈ commands)
    (hreply : ∀ job ∈ accepted commands, reply job.id = respond job.request) :
    Batch.Reachable reply commands ⟨[], a, []⟩ := by
  induction h with
  | refl => exact Batch.reachable_sent commands []
  | @tail a a' hsteps hstep ih =>
    have hinv : Inv (fun request r => r = respond request) commands a := Reachable.inv hsteps
    have hinv' := hstep.inv hinv
    -- whatever was replied so far is what is fixed for the job
    have hfollows : a'.Follows reply := by
      intro t ht result hstage
      obtain ⟨r, hr, hresult⟩ := answers_iff.1 (hinv'.replied_answers t ht result hstage)
      have hreceived : t.job ∈ a'.received :=
        hinv'.received_perm.mem_iff.2 (List.mem_append_left _ (List.mem_map_of_mem ht))
      have haccepted : t.job ∈ accepted commands :=
        hinv'.received_prefix_accepted.subset hreceived
      rw [hresult, hr, hreply t.job haccepted]
    refine ih.tail (.act (hstep.mono fun _ _ _ => trivial) hfollows fun hnil => ?_)
    cases hstep with
    | shutdown hs hq =>
      rw [hq] at hnil
      cases hnil
    | close hs hq => exact absurd hq (hinv.queue_ne_nil hc hs)
    | _ => rfl

/-- **One request after the other is one of the orders** of a run.

**Proof sketch.** An actor that does one job after the other takes steps as any actor
(`Actor.run_reachable`), which are steps of a run (`Actor.Reachable.batch`). When it is done, the
reports are taken one behind the other, at the times that are told. -/
theorem Batch.exists_done_in_order {respond : OutgoingRequest → Reply}
    {timed : List (Instant × Report)} (hc : .shutdown ∈ commands)
    (hreply : ∀ job ∈ Actor.accepted commands, reply job.id = respond job.request)
    (htimed : timed.map Prod.snd = (Actor.accepted commands).map (Actor.jobReport respond)) :
    ∃ s, Reachable reply commands s ∧ s.Done ∧ s.taken = timed ∧
      s.actor.sent = (Actor.accepted commands).map Actor.Job.request := by
  have horder : ∃ a, Actor.Reachable (fun request r => r = respond request) commands a ∧ a.Done ∧
      (a.reports, a.sent) = Id.run ((Actor.run (.recording respond) commands).run []) :=
    @Actor.run_reachable (fun request r => r = respond request) respond (fun _ => rfl) commands
  obtain ⟨a, ha, hd, hrun⟩ := horder
  rw [Actor.run_recording] at hrun
  obtain ⟨hreports, hsent⟩ := Prod.mk.inj hrun
  have htaken : a.reports = ([] ++ timed).map Prod.snd := by
    rw [List.nil_append, htimed, hreports]
  exact ⟨⟨[], a, timed⟩, (ha.batch hc hreply).trans (reachable_taken timed [] htaken),
    ⟨rfl, hd, htaken.symm⟩, rfl, hsent⟩

end RequestRunner
