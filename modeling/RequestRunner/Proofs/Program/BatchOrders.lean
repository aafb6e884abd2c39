import RequestRunner.Program.Batch
import RequestRunner.Proofs.Execution.Completion

/-!
# Orders of a run of all requests

Whatever the order in which commands are sent, tasks overlap and reports are taken, the run loses
none of them: its actor is one that had all commands from the start, and every report has the reply
that is fixed for its command.

## Main definitions

* `Batch.Reachable` — the states that some order of steps leads to.
* `Batch.State.whole` — the actor with the commands that are still to come.
* `Batch.Inv` — what every step keeps.

## Main results

* `Batch.Step.inv`, `Batch.Reachable.inv` — one step and all steps.
* `Batch.Inv.reports_perm`, `Batch.Inv.sent_perm` — what was reported and sent in the end.
-/

namespace RequestRunner

open scoped List

variable {reply : UInt64 → Reply} {commands : List Command}

/-! ### Steps of the actor -/

namespace Actor

variable {replies replies' : OutgoingRequest → Reply → Prop} {s s' : State}

/-- What a transport may reply, one that may reply more may reply too. -/
lemma Step.mono (h : Step replies s s')
    (hle : ∀ request r, replies request r → replies' request r) : Step replies' s s' := by
  cases h with
  | take hs hq => exact .take hs hq
  | shutdown hs hq => exact .shutdown hs hq
  | close hs hq => exact .close hs hq
  | send ht => exact .send ht
  | reply ht hr => exact .reply ht (hle _ _ hr)
  | report ht => exact .report ht
  | reap hf => exact .reap hf

/-- An actor that does not stop for want of a command takes the same step with more commands behind
those it has. What it takes stands in front of them. -/
lemma Step.append_queue (h : Step replies s s') (hopen : s.queue = [] → s'.taking = s.taking)
    (more : List Command) :
    Step replies { s with queue := s.queue ++ more } { s' with queue := s'.queue ++ more } := by
  cases h with
  | @take id block queue hs hq =>
    exact .take hs (show s.queue ++ more = .execute id block :: (queue ++ more) by rw [hq]; rfl)
  | @shutdown queue hs hq =>
    exact .shutdown hs (show s.queue ++ more = .shutdown :: (queue ++ more) by rw [hq]; rfl)
  | close hs hq => exact absurd ((hopen hq).trans hs) Bool.noConfusion
  | send ht => exact .send ht
  | reply ht hr => exact .reply ht hr
  | report ht => exact .report ht
  | reap hf => exact .reap hf

/-- A step leaves the reports as they are or adds the result of a task that has a reply. -/
lemma Step.reports_cases (h : Step replies s s') :
    s'.reports = s.reports ∨
      ∃ t ∈ s.tasks, ∃ result, t.stage = .replied result ∧
        s'.reports = s.reports ++ [⟨t.job.id, t.job.block, result⟩] := by
  cases h with
  | @report job result before behind ht =>
    have hmem : ⟨job, .replied result⟩ ∈ s.tasks := by
      rw [ht]
      exact List.mem_append_right _ List.mem_cons_self
    exact .inr ⟨_, hmem, result, rfl, rfl⟩
  | _ => exact .inl rfl

end Actor

namespace Batch

variable {s s' : State}

/-- Some order of steps leads a run with the given commands to the state. -/
def Reachable (reply : UInt64 → Reply) (commands : List Command) (s : State) : Prop :=
  Relation.ReflTransGen (Step reply) (.initial commands) s

/-- The actor with the commands that are still to come. -/
def State.whole (s : State) : Actor.State :=
  { s.actor with queue := s.actor.queue ++ s.unsent }

/-! ### What every step keeps -/

/-- What holds in every state that a run with the given commands comes to. -/
structure Inv (reply : UInt64 → Reply) (commands : List Command) (s : State) : Prop where
  whole_reachable : Actor.Reachable (fun _ _ => True) commands s.whole
  follows : s.actor.Follows reply
  reports_follow : ∀ r ∈ s.actor.reports, r.result = .ofReply (reply r.id)
  taken_prefix : s.taken.map Prod.snd <+: s.actor.reports

/-- At the start an actor has all commands to come, and nothing was reported or taken. -/
lemma inv_initial : Inv reply commands (.initial commands) where
  whole_reachable := .refl
  follows _ ht := absurd ht List.not_mem_nil
  reports_follow _ hr := absurd hr List.not_mem_nil
  taken_prefix := List.nil_prefix

/-- **One step**, whichever it is, keeps the invariant.

**Proof sketch.** By the kind of the step. To send a command makes no difference to the actor that
has all of them; a step of the actor is one of it too, and it reports only what a task has; to take
a report touches nothing but the list of those taken. -/
theorem Step.inv (h : Step reply s s') (hi : Inv reply commands s) : Inv reply commands s' := by
  obtain ⟨hwhole, hfollows, hreports, htaken⟩ := hi
  cases h with
  | @send command rest hu =>
    refine ⟨?_, hfollows, hreports, htaken⟩
    -- sent or still to come, the commands are the same
    have hqueue : s.actor.queue ++ [command] ++ rest = s.actor.queue ++ s.unsent := by
      rw [hu, List.append_assoc, List.singleton_append]
    rw [State.whole] at hwhole ⊢
    rwa [hqueue]
  | @act a ha hf hopen =>
    -- the step is one of the actor with all commands, as it does not stop for want of one
    have hactor : Actor.Reachable (fun _ _ => True) commands (State.whole { s with actor := a }) :=
      hwhole.tail (ha.append_queue hopen s.unsent)
    rcases ha.reports_cases with hsame | ⟨t, ht, result, hstage, hmore⟩
    · rw [← hsame] at hreports htaken
      exact ⟨hactor, hf, hreports, htaken⟩
    · refine ⟨hactor, hf, ?_, ?_⟩
      · rw [hmore]
        exact List.forall_mem_append.2
          ⟨hreports, List.forall_mem_singleton.2 (hfollows t ht result hstage)⟩
      · rw [hmore]
        exact htaken.trans (List.prefix_append _ _)
  | @take report later completed hu hr =>
    refine ⟨hwhole, hfollows, hreports, later, ?_⟩
    rw [hr, List.map_append, List.append_assoc]
    rfl

/-- **All steps**: the invariant holds in every state that a run comes to. -/
theorem Reachable.inv (h : Reachable reply commands s) : Inv reply commands s := by
  induction h with
  | refl => exact inv_initial
  | tail _ hstep ih => exact hstep.inv ih

/-! ### What was reported and sent in the end -/

/-- At the end of a run the actor with all commands is done: none is still to come. -/
lemma State.Done.whole_done (hd : s.Done) : s.whole.Done := hd.2.1

/-- The report of a command whose reply is fixed. -/
def answer (reply : UInt64 → Reply) (job : Actor.Job) : Report :=
  ⟨job.id, job.block, .ofReply (reply job.id)⟩

/-- At the end the reports that were taken answer the accepted commands, one report each, with the
replies that are fixed for them.

**Proof sketch.** A report is the answer to its own job, since it has the reply that is fixed for
its number. The jobs of the reports are those of the accepted commands, as for any actor that is
done. -/
lemma Inv.reports_perm (h : Inv reply commands s) (hd : s.Done) :
    s.taken.map Prod.snd ~ (Actor.accepted commands).map (answer reply) := by
  have hreports : s.actor.reports.map Report.job ~ Actor.accepted commands :=
    h.whole_reachable.inv.reports_perm hd.whole_done
  have hanswer : ∀ r ∈ s.actor.reports, answer reply r.job = r := by
    intro r hr
    rw [answer, Report.job, ← h.reports_follow r hr]
  have hback : (s.actor.reports.map Report.job).map (answer reply) = s.actor.reports := by
    rw [List.map_map]
    exact (List.map_congr_left hanswer).trans (List.map_id' _)
  calc s.taken.map Prod.snd = (s.actor.reports.map Report.job).map (answer reply) :=
        hd.2.2.trans hback.symm
    _ ~ (Actor.accepted commands).map (answer reply) := hreports.map _

/-- At the end the requests are those of the accepted commands, one request each. -/
lemma Inv.sent_perm (h : Inv reply commands s) (hd : s.Done) :
    s.actor.sent ~ (Actor.accepted commands).map Actor.Job.request :=
  h.whole_reachable.inv.sent_perm_accepted hd.whole_done

end Batch

end RequestRunner
