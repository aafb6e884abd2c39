import RequestRunner.Program.Run

/-!
# All requests at once

To run all requests of a document the program starts an actor, sends it the commands through one
channel and then takes its reports from another, while the tasks of the actor overlap in any order.
The channel of commands stays open until the end, so that only a command to shut down ends the
taking of commands. The channel of reports closes when the actor is done; the program ends when it
has taken all reports and the channel is closed.

`runAll` does the same with each task ended before the next command is taken.

## Main definitions

* `Actor.State.Follows` — the replies that tasks have are those fixed for their commands.
* `Batch.State`, `Batch.Step` — the program with its actor, and the steps between their states, in
  every order that the two and the tasks may take.
* `Batch.State.Done` — the program has taken the last report.
-/

namespace RequestRunner

namespace Actor

/-- A task that has a reply has the one that is fixed for its command. -/
def Task.Follows (reply : UInt64 → Reply) (t : Task) : Prop :=
  ∀ result, t.stage = .replied result → result = .ofReply (reply t.job.id)

/-- All tasks have the replies that are fixed for their commands. -/
def State.Follows (reply : UInt64 → Reply) (s : State) : Prop := ∀ t ∈ s.tasks, t.Follows reply

end Actor

namespace Batch

/-- The state of a run: the commands that are not sent yet, the actor with the commands that are,
and the reports that were taken from its channel, each with the time that it tells. -/
structure State where
  unsent : List Command
  actor : Actor.State
  taken : List (Instant × Report)

/-- The state before the first step. -/
def State.initial (commands : List Command) : State := ⟨commands, .initial [], []⟩

/-- The last report was taken and the channel of reports is closed. -/
def State.Done (s : State) : Prop :=
  s.unsent = [] ∧ s.actor.Done ∧ s.taken.map Prod.snd = s.actor.reports

/-- The steps of a run in which the request of each command gets the reply that is fixed for the
command's number. -/
inductive Step (reply : UInt64 → Reply) : State → State → Prop where
  | send {s : State} {command : Command} {rest : List Command}
      (hu : s.unsent = command :: rest) :
      Step reply s
        { s with
          unsent := rest
          actor := { s.actor with queue := s.actor.queue ++ [command] } }
  | /-- The actor goes on; it does not stop for want of a command, since more may come. -/
    act {s : State} {a : Actor.State} (ha : Actor.Step (fun _ _ => True) s.actor a)
      (hf : a.Follows reply) (hopen : s.actor.queue = [] → a.taking = s.actor.taking) :
      Step reply s { s with actor := a }
  | take {s : State} {report : Report} {later : List Report} (completed : Instant)
      (hu : s.unsent = []) (hr : s.actor.reports = s.taken.map Prod.snd ++ report :: later) :
      Step reply s { s with taken := s.taken ++ [(completed, report)] }

end Batch

end RequestRunner
