import RequestRunner.Files.FileTree
import RequestRunner.Proofs.Program.Errands

/-!
# The same run in another monad

What a run does with its files is told by what its operations on files are, in whatever monad, and so is
what it does with its transport and its clock. In a monad that has both a tree of files and a network,
a run changes the tree as it would without a network, and then uses the network as it would without a
tree.

## Main definitions

* `IsLift` — doing in one monad what can be done in another.
* `Equipment.onTree` — a tree of files, with transport and clock from another monad.

## Main results

* `prepare_lift`, `Errand.carryOut_lift` — both parts of a run in another monad.
* `run_runProgram` — a run on a tree.
-/

namespace RequestRunner

/-- `lift` does in `n` what can be done in `m`, one thing after the other. -/
structure IsLift (m n : Type → Type) [Monad m] [Monad n] (lift : {α : Type} → m α → n α) : Prop where
  pure_eq : ∀ {α : Type} (a : α), lift (pure a) = pure a
  bind_eq : ∀ {α β : Type} (x : m α) (f : α → m β), lift (x >>= f) = lift x >>= fun a => lift (f a)

section

variable {m n : Type → Type} [Monad m] [Monad n] {lift : {α : Type} → m α → n α} (h : IsLift m n lift)
  (files : FileSystem m) (s : Storage)

include h

/-! ### Files -/

/-- Whether a directory is at a path is asked in another monad as it is in its own. -/
lemma isDirectory_lift (path : String) :
    (files.lift lift).isDirectory path = lift (files.isDirectory path) := by
  simp only [FileSystem.isDirectory, h.bind_eq, h.pure_eq]
  rfl

/-- Whether anything is at a path is asked in another monad as it is in its own. -/
lemma isThere_lift (path : String) : (files.lift lift).isThere path = lift (files.isThere path) := by
  simp only [FileSystem.isThere, h.bind_eq, h.pure_eq]
  rfl

/-- A text is read in another monad as it is in its own. -/
lemma readText_lift (path : String) : (files.lift lift).readText path = lift (files.readText path) := by
  simp only [FileSystem.readText, h.bind_eq, h.pure_eq]
  rfl

/-- A directory is made or kept in another monad as it is in its own. -/
lemma makeOrKeep_lift (path : String) :
    (files.lift lift).makeOrKeep path = lift (files.makeOrKeep path) := by
  simp only [FileSystem.makeOrKeep, h.bind_eq, isDirectory_lift h]
  refine bind_congr fun made => ?_
  cases made with
  | ok => exact (h.pure_eq _).symm
  | error refusal =>
    simp only [h.bind_eq]
    refine bind_congr fun there => ?_
    cases there <;> exact (h.pure_eq _).symm

/-- The first of some directories is made in another monad as it is in its own. By induction on the
paths, as those above may be made first. -/
lemma makeFirst_lift (paths : List String) :
    (files.lift lift).makeFirst paths = lift (files.makeFirst paths) := by
  induction paths with
  | nil => exact (h.pure_eq _).symm
  | cons path above ih =>
    simp only [FileSystem.makeFirst, h.bind_eq, isDirectory_lift h, makeOrKeep_lift h, ih]
    refine bind_congr fun made => ?_
    split
    · exact (h.pure_eq _).symm
    · simp only [h.bind_eq]
      refine bind_congr fun made => ?_
      cases made with
      | ok => rfl
      | error => exact (h.pure_eq _).symm
    · simp only [h.bind_eq]
      refine bind_congr fun there => ?_
      cases there <;> exact (h.pure_eq _).symm

/-- Directories are made in another monad as they are in their own. -/
lemma makeDirectories_lift (path : String) :
    (files.lift lift).makeDirectories path = lift (files.makeDirectories path) :=
  makeFirst_lift h files _

/-! ### The storage -/

/-- The data directory is made sure of in another monad as it is in its own. -/
lemma ensure_lift : s.ensure (files.lift lift) = lift (s.ensure files) := by
  simp only [Storage.ensure, h.bind_eq, isThere_lift h, makeDirectories_lift h]
  refine bind_congr fun there => ?_
  cases there
  · simp [h.bind_eq, h.pure_eq]
  · simp [h.pure_eq]

/-- The log is opened in another monad as it is in its own. -/
lemma openLog_lift : s.openLog (files.lift lift) = lift (s.openLog files) := by
  simp only [Storage.openLog, h.bind_eq, makeDirectories_lift h]
  refine bind_congr fun opened => ?_
  cases opened with
  | ok => exact (h.pure_eq _).symm
  | error refusal =>
    simp only [h.bind_eq]
    refine bind_congr fun made => ?_
    cases made with
    | ok => rfl
    | error => exact (h.pure_eq _).symm

/-- The document is loaded in another monad as it is in its own. -/
lemma load_lift : s.load (files.lift lift) = lift (s.load files) := by
  simp only [Storage.load, h.bind_eq, readText_lift h]
  refine bind_congr fun text => ?_
  cases text <;> exact (h.pure_eq _).symm

/-- A text is saved in another monad as it is in its own. -/
lemma save_lift (text : String) : s.save (files.lift lift) text = lift (s.save files text) := by
  simp only [Storage.save, h.bind_eq, ensure_lift h]
  refine bind_congr fun made => ?_
  cases made with
  | error => exact (h.pure_eq _).symm
  | ok =>
    simp only [h.bind_eq, h.pure_eq]
    rfl

/-! ### The files of a run -/

/-- The configuration is loaded in another monad as it is in its own. -/
lemma configLoad_lift (path : String) :
    Config.load (files.lift lift) path = lift (Config.load files path) := by
  simp only [Config.load, h.bind_eq, isThere_lift h, readText_lift h]
  refine bind_congr fun there => ?_
  cases there
  · simp [h.pure_eq]
  · simp only [if_true, h.bind_eq]
    refine bind_congr fun text => ?_
    cases text <;> exact (h.pure_eq _).symm

/-- What comes before every action is done in another monad as it is in its own. -/
lemma openStorage_lift (surroundings : Surroundings) (config : Option String) :
    openStorage (files.lift lift) surroundings config =
      lift (openStorage files surroundings config) := by
  simp only [openStorage, h.bind_eq, configLoad_lift h]
  refine bind_congr fun loaded => ?_
  cases loaded with
  | error => exact (h.pure_eq _).symm
  | ok config =>
    simp only [h.bind_eq, ensure_lift h]
    refine bind_congr fun made => ?_
    cases made with
    | error => exact (h.pure_eq _).symm
    | ok =>
      simp only [h.bind_eq, openLog_lift h]
      refine bind_congr fun opened => ?_
      cases opened <;> exact (h.pure_eq _).symm

/-- The document of an action is read in another monad as it is in its own, be it the stored one or
that of a file. -/
lemma readDocument_lift (file : Option String) :
    readDocument (files.lift lift) s file = lift (readDocument files s file) := by
  cases file <;> simp only [readDocument, h.bind_eq, h.pure_eq, load_lift h, readText_lift h]

/-- A file is stored in another monad as it is in its own. -/
lemma storeFile_lift (file : String) :
    storeFile (files.lift lift) s file = lift (storeFile files s file) := by
  simp only [storeFile, withDocument, h.bind_eq, readDocument_lift h, save_lift h]
  refine bind_congr fun read => ?_
  cases read with
  | error => exact (h.pure_eq _).symm
  | ok document =>
    simp only [h.bind_eq]
    refine bind_congr fun saved => ?_
    cases saved <;> exact (h.pure_eq _).symm

/-- The errand of an action is prepared in another monad as it is in its own. -/
lemma errand_lift (config : Config) (action : Action) :
    config.errand (files.lift lift) s action = lift (config.errand files s action) := by
  cases action with
  | list | run | runAll => simp only [Config.errand, h.bind_eq, h.pure_eq, readDocument_lift h]
  | store => simp only [Config.errand, h.bind_eq, h.pure_eq, storeFile_lift h]
  | path => exact (h.pure_eq _).symm
  | checkUpdate =>
    simp only [Config.errand]
    split <;> exact (h.pure_eq _).symm

/-- **The files of a run** are read and written in another monad as they are in their own.

**Proof sketch.** Each operation is a row of others, of which those of the file system are lifted as
such. So the lemma for each goes through its row by `bind_eq`, and those for its parts are used by
name. -/
theorem prepare_lift (surroundings : Surroundings) (arguments : List String) :
    prepare (files.lift lift) surroundings arguments =
      lift (prepare files surroundings arguments) := by
  simp only [prepare]
  cases Invocation.ofArguments arguments with
  | error => exact (h.pure_eq _).symm
  | ok invocation =>
    simp only [h.bind_eq, openStorage_lift h]
    refine bind_congr fun opened => ?_
    cases opened with
    | error => exact (h.pure_eq _).symm
    | ok config => exact errand_lift h files _ config invocation.action

/-! ### The requests of a run -/

/-- What is done for each element of a list is done for each in another monad. By induction on the
list. -/
lemma mapM_lift [LawfulMonad m] [LawfulMonad n] {α β : Type} (f : α → m β) (l : List α) :
    l.mapM (fun a => lift (f a)) = lift (l.mapM f) := by
  induction l with
  | nil => exact (h.pure_eq _).symm
  | cons a l ih => simp only [List.mapM_cons, h.bind_eq, h.pure_eq, ih]

/-- A block is executed in another monad as it is in its own. -/
lemma executeBlock_lift (transport : Transport m) (b : Block) :
    executeBlock (fun request => lift (transport request)) b = lift (executeBlock transport b) := by
  simp only [executeBlock, dispatch, h.bind_eq, h.pure_eq]

/-- A job is run, and its end timed, in another monad as it is in its own. -/
lemma runTimed_lift (transport : Transport m) (now : m Instant) (job : Actor.Job) :
    runTimed (fun request => lift (transport request)) (lift now) job =
      lift (runTimed transport now job) := by
  simp only [runTimed, Actor.runJob, executeBlock_lift h, h.bind_eq, h.pure_eq]

/-- A run at a line is the same in another monad. -/
lemma runAt_lift (transport : Transport m) (document : String) (line : Nat) (json showHeaders : Bool) :
    runAt (fun request => lift (transport request)) document line json showHeaders =
      lift (runAt transport document line json showHeaders) := by
  simp only [runAt]
  split
  · exact (h.pure_eq _).symm
  · simp only [executeBlock_lift h, h.bind_eq, h.pure_eq]

/-- A run of all requests, one after the other, is the same in another monad. -/
lemma runAll_lift [LawfulMonad m] [LawfulMonad n] (transport : Transport m) (now : m Instant)
    (document : String) (json showHeaders : Bool) :
    runAll (fun request => lift (transport request)) (lift now) document json showHeaders =
      lift (runAll transport now document json showHeaders) := by
  have hjobs := mapM_lift h (runTimed transport now)
  simp only [← runTimed_lift h] at hjobs
  simp only [runAll]
  split
  · exact (h.pure_eq _).symm
  · rw [hjobs, h.bind_eq]
    simp only [h.pure_eq]

/-- The feed is asked in another monad as it is in its own. -/
lemma checkForUpdate_lift (transport : Transport m) (current feed : String) :
    checkForUpdate (fun request => lift (transport request)) current feed =
      lift (checkForUpdate transport current feed) := by
  simp only [checkForUpdate]
  split
  · exact (h.pure_eq _).symm
  · simp only [h.bind_eq, h.pure_eq]

/-- **The errand of a run** is carried out in another monad as it is in its own. -/
theorem Errand.carryOut_lift [LawfulMonad m] [LawfulMonad n] (transport : Nat → Transport m)
    (now : m Instant) (errand : Errand) :
    errand.carryOut (fun seconds request => lift (transport seconds request)) (lift now) =
      lift (errand.carryOut transport now) := by
  cases errand with
  | finished output => exact (h.pure_eq _).symm
  | run => simp only [carryOut, runAt_lift h, h.bind_eq, h.pure_eq]
  | runAll => simp only [carryOut, runAll_lift h, h.bind_eq, h.pure_eq]
  | checkUpdate => simp only [carryOut, checkForUpdate_lift h, h.bind_eq, h.pure_eq]

end

/-! ### Runs on a tree -/

variable {n : Type → Type} [Monad n] [LawfulMonad n]

/-- A tree of files for paths that start in `current`, with transport and clock from another monad. -/
def Equipment.onTree (current : Location) (surroundings : Surroundings)
    (transport : Nat → Transport n) (now : n Instant) : Equipment (StateT FileTree n) where
  files := (FileTree.files current).lift fun x t => pure (x.run t)
  transport seconds request := StateT.lift (transport seconds request)
  now := StateT.lift now
  surroundings := surroundings

/-- Programs for a tree, beside the other monad. What they do on the tree they do without it. -/
lemma isLift_tree :
    IsLift (StateM FileTree) (StateT FileTree n) fun x t => pure (x.run t) where
  pure_eq _ := rfl
  bind_eq x f := by
    funext t
    show pure _ = (pure (x.run t) >>= fun p => pure ((f p.1).run p.2) : n _)
    rw [pure_bind]
    rfl

/-- Programs for the other monad, beside the tree. They leave the tree as it is. -/
lemma isLift_network : IsLift n (StateT FileTree n) StateT.lift where
  pure_eq a := by
    funext t
    exact pure_bind _ _
  bind_eq x f := by
    funext t
    show (x >>= f) >>= (fun a => pure (a, t)) =
      (x >>= fun a => pure (a, t)) >>= fun p => f p.1 >>= fun a => pure (a, p.2)
    rw [bind_assoc, bind_assoc]
    refine bind_congr fun a => ?_
    rw [pure_bind]

/-- **A run on a tree** first changes the tree, in a way that does not depend on the network, and
then uses the network, in a way that depends on the tree only through the errand.

**Proof sketch.** A run prepares its errand and carries it out (`runProgram_eq_prepare_bind`). The
first part is one on the tree alone (`prepare_lift` along `isLift_tree`), the second one of the
other monad alone (`Errand.carryOut_lift` along `isLift_network`). -/
theorem run_runProgram (current : Location) (surroundings : Surroundings)
    (transport : Nat → Transport n) (now : n Instant) (arguments : List String) (t : FileTree) :
    let prepared := (prepare (FileTree.files current) surroundings arguments).run t
    (runProgram (.onTree current surroundings transport now) arguments).run t =
      (·, prepared.2) <$> prepared.1.carryOut transport now := by
  intro prepared
  have hprepare : prepare (Equipment.onTree current surroundings transport now).files surroundings
      arguments = fun t => pure ((prepare (FileTree.files current) surroundings arguments).run t) :=
    prepare_lift isLift_tree _ surroundings arguments
  have hcarry : ∀ errand : Errand, errand.carryOut
      (Equipment.onTree current surroundings transport now).transport
      (Equipment.onTree current surroundings transport now).now =
        StateT.lift (errand.carryOut transport now) :=
    Errand.carryOut_lift isLift_network transport now
  rw [runProgram_eq_prepare_bind, StateT.run_bind]
  calc (prepare (Equipment.onTree current surroundings transport now).files surroundings
          arguments).run t >>= _
      = pure prepared >>= _ := congrArg (· >>= _) (congrFun hprepare t)
    _ = (prepared.1.carryOut transport now >>= fun output => pure (output, prepared.2)) := by
        rw [pure_bind, hcarry]
        rfl
    _ = (·, prepared.2) <$> prepared.1.carryOut transport now := bind_pure_comp _ _

end RequestRunner
