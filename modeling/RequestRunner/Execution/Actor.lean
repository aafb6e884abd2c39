import RequestRunner.Execution.Executor

/-!
# Concurrent executions

An actor takes commands from a queue. Each command to execute starts a task, which hands the
block's request to the transport, waits for the reply and reports; the tasks overlap in any order.
The first command to shut down, or the end of the queue, ends the taking of commands, and the actor
ends when every task has reported.

## Main definitions

* `Command`, `Report` — what the actor takes and what it gives.
* `Actor.State`, `Actor.Step` — the states of an actor and the steps between them, in every order
  that the tasks may take.
* `Actor.accepted` — the commands to execute before the first shutdown.
* `Actor.run` — the reports when each task ends before the next command is taken.
-/

namespace RequestRunner

/-- A command to the actor; `id` comes back in the report. -/
inductive Command where
  | execute (id : UInt64) (block : Block)
  | shutdown
  deriving DecidableEq

/-- The result of one command to execute. -/
structure Report where
  id : UInt64
  block : Block
  result : ExecutionResult
  deriving DecidableEq

namespace Actor

/-- A command to execute that was taken. -/
structure Job where
  id : UInt64
  block : Block
  deriving DecidableEq

/-- How far a task has come. -/
inductive Stage where
  | /-- The request has not been handed over. -/
    started
  | /-- The transport has the request. -/
    waiting
  | /-- The transport has replied. -/
    replied (result : ExecutionResult)
  deriving DecidableEq

/-- A task that has not reported. -/
structure Task where
  job : Job
  stage : Stage
  deriving DecidableEq

/-- The state of an actor: the commands it may still take, whether it takes any, its tasks, how many
tasks have reported without being reaped, what was sent and what was reported. -/
structure State where
  queue : List Command
  taking : Bool
  tasks : List Task
  finished : Nat
  received : List Job
  sent : List OutgoingRequest
  reports : List Report
  deriving DecidableEq

/-- The state before the first step. -/
def State.initial (queue : List Command) : State := ⟨queue, true, [], 0, [], [], []⟩

/-- The actor has taken its last command and every task has reported. -/
def State.Done (s : State) : Prop := s.taking = false ∧ s.tasks = [] ∧ s.finished = 0

/-- The steps of an actor whose transport may reply to a request with any reply that `replies`
allows. -/
inductive Step (replies : OutgoingRequest → Reply → Prop) : State → State → Prop where
  | take {s : State} {id : UInt64} {block : Block} {queue : List Command}
      (hs : s.taking = true) (hq : s.queue = .execute id block :: queue) :
      Step replies s
        { s with
          queue := queue
          tasks := ⟨⟨id, block⟩, .started⟩ :: s.tasks
          received := s.received ++ [⟨id, block⟩] }
  | shutdown {s : State} {queue : List Command} (hs : s.taking = true)
      (hq : s.queue = .shutdown :: queue) :
      Step replies s { s with queue := queue, taking := false }
  | close {s : State} (hs : s.taking = true) (hq : s.queue = []) :
      Step replies s { s with taking := false }
  | send {s : State} {job : Job} {before behind : List Task}
      (ht : s.tasks = before ++ ⟨job, .started⟩ :: behind) :
      Step replies s
        { s with
          tasks := before ++ ⟨job, .waiting⟩ :: behind
          sent := s.sent ++ [.ofBlock job.block] }
  | reply {s : State} {job : Job} {before behind : List Task} {r : Reply}
      (ht : s.tasks = before ++ ⟨job, .waiting⟩ :: behind) (hr : replies (.ofBlock job.block) r) :
      Step replies s { s with tasks := before ++ ⟨job, .replied (.ofReply r)⟩ :: behind }
  | report {s : State} {job : Job} {result : ExecutionResult} {before behind : List Task}
      (ht : s.tasks = before ++ ⟨job, .replied result⟩ :: behind) :
      Step replies s
        { s with
          tasks := before ++ behind
          finished := s.finished + 1
          reports := s.reports ++ [⟨job.id, job.block, result⟩] }
  | reap {s : State} {n : Nat} (hf : s.finished = n + 1) :
      Step replies s { s with finished := n }

/-- The commands to execute before the first shutdown. -/
def accepted : List Command → List Job
  | .execute id block :: rest => ⟨id, block⟩ :: accepted rest
  | _ => []

variable {m : Type → Type} [Monad m]

/-- The report of one job. -/
def runJob (transport : Transport m) (job : Job) : m Report := do
  return ⟨job.id, job.block, ← executeBlock transport job.block⟩

/-- The reports of a queue of commands when each task ends before the next command is taken. -/
def run (transport : Transport m) (queue : List Command) : m (List Report) :=
  (accepted queue).mapM (runJob transport)

end Actor

end RequestRunner
