import Mathlib.Tactic.Lemma
import RequestRunner.Program.Run

/-!
# Errands

A run first reads and writes its files, and then it either is over or has requests left to hand over:
an errand, for which it needs no file any more.

## Main definitions

* `Errand` — what is left to do of a run.
* `openStorage` — the configuration is read, the data directory made and the log opened.
* `Config.errand`, `prepare` — what an action and a run come to.
* `Errand.carryOut` — does what is left.

## Main results

* `runProgram_eq_prepare_bind` — a run prepares an errand and carries it out.
-/

namespace RequestRunner

/-- What is left to do of a run when its files have been read and written; `seconds` is how long a
request may take. -/
inductive Errand where
  | /-- Nothing is left. -/
    finished (output : Output)
  | run (seconds : Nat) (document : String) (line : Nat) (json showHeaders : Bool)
  | runAll (seconds : Nat) (document : String) (json showHeaders : Bool)
  | checkUpdate (seconds : Nat) (feed : String)

variable {m : Type → Type} [Monad m]

/-- What comes before every action: the configuration, or what the caller gets. -/
def openStorage (files : FileSystem m) (surroundings : Surroundings) (config : Option String) :
    m (Except Output Config) := do
  match ← Config.load files (config.getD surroundings.configPath) with
  | .error failure => return .error (Ending.fails failure).output
  | .ok config =>
    let storage := Storage.ofConfig surroundings config
    match ← storage.ensure files with
    | .error failure => return .error (Ending.fails failure).output
    | .ok () =>
      match ← storage.openLog files with
      | .error refusal => return .error (withoutLog refusal)
      | .ok () => return .ok config

/-- The errand about a document, if it can be read. -/
def Errand.about (errand : String → Errand) : Except Failure String → Errand
  | .ok document => errand document
  | .error failure => .finished (Ending.fails failure).output

/-- What an action comes to. -/
def Config.errand (config : Config) (files : FileSystem m) (storage : Storage) : Action → m Errand
  | .list file => do
    return .about (fun document => .finished (Ending.ofBlocks (blocks document)).output)
      (← readDocument files storage file)
  | .run file line json showHeaders => do
    return .about (fun document => .run config.timeoutSecs document line json showHeaders)
      (← readDocument files storage file)
  | .runAll file json showHeaders => do
    return .about (fun document => .runAll config.timeoutSecs document json showHeaders)
      (← readDocument files storage file)
  | .store file => do return .finished (← storeFile files storage file).output
  | .path => return .finished (Ending.prints [storage.document]).output
  | .checkUpdate =>
    if config.checkUpdates then return .checkUpdate config.timeoutSecs config.releasesUrl
    else return .finished (Ending.prints ["Update checks are disabled in config"]).output

/-- What a run comes to. -/
def prepare (files : FileSystem m) (surroundings : Surroundings) (arguments : List String) :
    m Errand := do
  match Invocation.ofArguments arguments with
  | .error usage => return .finished usage.output
  | .ok invocation =>
    match ← openStorage files surroundings invocation.config with
    | .error output => return .finished output
    | .ok config => config.errand files (Storage.ofConfig surroundings config) invocation.action

/-- Does what is left to do. -/
def Errand.carryOut (transport : Nat → Transport m) (now : m Instant) : Errand → m Output
  | .finished output => return output
  | .run seconds document line json showHeaders => do
    return (← RequestRunner.runAt (transport seconds) document line json showHeaders).output
  | .runAll seconds document json showHeaders => do
    return (← RequestRunner.runAll (transport seconds) now document json showHeaders).output
  | .checkUpdate seconds feed => do
    return (Ending.ofUpdate (← checkForUpdate (transport seconds) programVersion feed)).output

variable [LawfulMonad m] {files : FileSystem m} {storage : Storage}

/-- To go on with a document that can be read is to carry out the errand about it. -/
lemma withDocument_eq_about_bind {transport : Nat → Transport m} {now : m Instant}
    {file : Option String} {action : String → m Ending} {errand : String → Errand}
    (h : ∀ document, (do return (← action document).output) =
      (errand document).carryOut transport now) :
    (do return (← withDocument files storage file action).output) =
      (do return Errand.about errand (← readDocument files storage file)) >>=
        Errand.carryOut transport now := by
  simp only [withDocument, bind_assoc, pure_bind]
  refine bind_congr fun read => ?_
  cases read with
  | ok document => exact h document
  | error failure =>
    rw [pure_bind]
    rfl

/-- To perform an action is to prepare its errand and to carry this out. One case for each action,
of which only those about a document read one first. -/
lemma perform_eq_errand_bind (equipment : Equipment m) (config : Config) (action : Action) :
    (do return (← perform equipment config storage action).output) =
      config.errand equipment.files storage action >>=
        Errand.carryOut equipment.transport equipment.now := by
  cases action with
  | list file => exact withDocument_eq_about_bind fun document => by rw [pure_bind]; rfl
  | run file line json showHeaders => exact withDocument_eq_about_bind fun document => rfl
  | runAll file json showHeaders => exact withDocument_eq_about_bind fun document => rfl
  | store file =>
    rw [Config.errand, bind_assoc]
    refine bind_congr fun ending => ?_
    rw [pure_bind]
    rfl
  | path =>
    rw [Config.errand, perform, pure_bind, pure_bind]
    rfl
  | checkUpdate =>
    simp only [perform, Config.errand]
    split
    · rw [pure_bind, bind_assoc]
      refine bind_congr fun info => ?_
      rw [pure_bind]
    · rw [pure_bind, pure_bind]
      rfl

/-- **A run prepares an errand and carries it out**: all its files are read and written before the
first request is handed over.

**Proof sketch.** The steps before the action are the same on both sides, and each of them that
fails ends both in the same way. What is left is the action (`perform_eq_errand_bind`). -/
theorem runProgram_eq_prepare_bind (equipment : Equipment m) (arguments : List String) :
    runProgram equipment arguments =
      prepare equipment.files equipment.surroundings arguments >>=
        Errand.carryOut equipment.transport equipment.now := by
  rw [runProgram, prepare]
  cases Invocation.ofArguments arguments with
  | error usage =>
    rw [pure_bind]
    rfl
  | ok invocation =>
    simp only [openStorage, bind_assoc]
    refine bind_congr fun loaded => ?_
    cases loaded with
    | error failure =>
      simp only [pure_bind]
      rfl
    | ok config =>
      simp only [runConfigured, bind_assoc]
      refine bind_congr fun made => ?_
      cases made with
      | error failure =>
        simp only [pure_bind]
        rfl
      | ok =>
        simp only [bind_assoc]
        refine bind_congr fun opened => ?_
        cases opened with
        | error refusal =>
          simp only [pure_bind]
          rfl
        | ok =>
          simp only [pure_bind]
          exact perform_eq_errand_bind equipment config invocation.action

end RequestRunner
