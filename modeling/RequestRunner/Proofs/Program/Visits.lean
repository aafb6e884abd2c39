import RequestRunner.Proofs.Program.ErrandEndings
import RequestRunner.Proofs.Program.Lifting
import RequestRunner.Proofs.Program.Preparation

/-!
# What a run leaves behind

A run is called somewhere with some arguments, finds a tree of files and leaves one. What it leaves as
the stored document is the file that it was to store, if it succeeded in that, and else what it found.

## Main definitions

* `Visit` — what is seen of a run.
* `visited` — a run of the program with fixed replies.
* `Visit.Goes` — how a run may go on a tree.
* `Visit.imported?` — what a run has stored.

## Main results

* `goes_visited` — a run of the program goes as runs may go.
* `Visit.Goes.left_eq_of_configOf_eq_none` — a run without a configuration.
* `Visit.Goes.action_cases`, `Visit.Goes.store_cases` — a run with an action, and one that is to store
  a file.
* `Visit.Goes.stored?_left` — what any run leaves as the stored document.
* `Visit.Goes.list_cases` — a run that lists the stored document.
* `Visit.Goes.alike_withFile` — a file with the text of the stored document can stand in its place.
-/

namespace RequestRunner

open FileTree
open scoped List

/-- What is seen of a run: where it was called and with which arguments, the requests that it handed
over, what the caller got, and the tree that was left. -/
structure Visit where
  current : Location
  arguments : List String
  sent : List OutgoingRequest
  output : Output
  left : FileTree

/-- How a run may go on a tree if a request may get any reply that `replies` allows. -/
def Visit.Goes (surroundings : Surroundings) (replies : OutgoingRequest → Reply → Prop) (t : FileTree)
    (v : Visit) : Prop :=
  let prepared := (prepare (files v.current) surroundings v.arguments).run t
  v.left = prepared.2 ∧ prepared.1.Ends replies v.sent v.output

/-- What a run has stored: if it was to store a file and succeeded, the bytes of this file. They are
told by the tree that was left, since the file may be the log, which the run itself has made. -/
def Visit.imported? (v : Visit) : Option (List UInt8) :=
  match Invocation.ofArguments v.arguments with
  | .ok ⟨_, .store file⟩ => if v.output.code = 0 then (v.left.read v.current file).toOption else none
  | _ => none

variable {surroundings : Surroundings} {replies : OutgoingRequest → Reply → Prop} {t : FileTree}
  {v v' : Visit} {config : Config} {path : Option String} {action : Action} {file : String}
  {bytes : List UInt8}

/-- A run of the program on a tree if each request gets a fixed reply and the time depends on the
requests that were handed over. -/
def visited (current : Location) (surroundings : Surroundings) (respond : OutgoingRequest → Reply)
    (clock : List OutgoingRequest → Instant) (arguments : List String) (t : FileTree) : Visit :=
  let ran := Id.run (((runProgram (.onTree current surroundings (fun _ => .recording respond)
    (clock <$> get)) arguments).run t).run [])
  ⟨current, arguments, ran.2, ran.1.1, ran.1.2⟩

/-- **A run of the program** goes as runs may go. -/
theorem goes_visited {respond : OutgoingRequest → Reply}
    (h : ∀ request, replies request (respond request)) (current : Location)
    (surroundings : Surroundings) (clock : List OutgoingRequest → Instant) (arguments : List String)
    (t : FileTree) :
    (visited current surroundings respond clock arguments t).Goes surroundings replies t := by
  rw [visited, run_runProgram]
  exact ⟨rfl, Errand.ends_carryOut h clock _⟩

/-! ### What was stored -/

/-- A run that was to store a file and succeeded has stored the bytes of the file. -/
lemma Visit.imported?_of_store (h : Invocation.ofArguments v.arguments = .ok ⟨path, .store file⟩)
    (hcode : v.output.code = 0) (hread : v.left.read v.current file = .ok bytes) :
    v.imported? = some bytes := by
  simp only [imported?, h, if_pos hcode, hread, Except.toOption]

/-- Only a run that succeeds has stored something. -/
lemma Visit.imported?_of_code_ne_zero (h : v.output.code ≠ 0) : v.imported? = none := by
  unfold imported?
  split
  · exact if_neg h
  · rfl

/-- Only a run that is to store a file has stored something. -/
lemma Visit.imported?_of_ne_store
    (h : ∀ path file, Invocation.ofArguments v.arguments ≠ .ok ⟨path, .store file⟩) :
    v.imported? = none := by
  unfold imported?
  split
  · rename_i harguments
    exact absurd harguments (h _ _)
  · rfl

/-! ### Single runs -/

/-- An errand that is finished hands nothing over and has its output. -/
lemma Errand.Ends.of_finished {output printed : Output} {sent : List OutgoingRequest}
    (h : Errand.Ends replies (.finished output) sent printed) : sent = [] ∧ printed = output := by
  cases h
  exact ⟨rfl, rfl⟩

namespace Visit.Goes

variable (h : v.Goes surroundings replies t)

include h

/-- What a run does with its files, and its errand. -/
lemma exists_prepare_eq : ∃ errand,
    (prepare (files v.current) surroundings v.arguments).run t = (errand, v.left) ∧
      errand.Ends replies v.sent v.output :=
  ⟨_, Prod.ext rfl h.1.symm, h.2⟩

/-- **A run without a configuration** leaves all files as they are and hands nothing over. Either
its arguments name no action, or the configuration cannot be read.

**Proof sketch.** In both cases what the run does with its files is known (`prepare_of_error`,
`prepare_cases`): nothing, and its errand is finished. -/
theorem left_eq_of_configOf_eq_none
    (hconfig : configOf v.current surroundings t v.arguments = none) : v.left = t ∧ v.sent = [] := by
  obtain ⟨errand, hprepare, hends⟩ := h.exists_prepare_eq
  cases harguments : Invocation.ofArguments v.arguments with
  | error usage =>
    rw [prepare_of_error harguments] at hprepare
    obtain ⟨rfl, hleft⟩ := Prod.mk.inj hprepare
    exact ⟨hleft.symm, hends.of_finished.1⟩
  | ok invocation =>
    rcases prepare_cases harguments hprepare with ⟨-, ⟨output, rfl, -⟩, hleft⟩ | ⟨config, hsome, -⟩
    · exact ⟨hleft, hends.of_finished.1⟩
    · rw [hconfig] at hsome
      cases hsome

variable (hconfig : ∀ c, configOf v.current surroundings t v.arguments = some c → c = config)

section

include hconfig

/-- **A run with an action** either fails before the action, which it does not if it has a
configuration and the log can be read, or it has made the log and does the action.

**Proof sketch.** This is what a run does with its files (`prepare_cases`), said of what is seen of
it. A run that fails before the action is finished, so its output is known and it has handed nothing
over. -/
theorem action_cases {invocation : Invocation}
    (harguments : Invocation.ofArguments v.arguments = .ok invocation) :
    let storage := Storage.ofConfig surroundings config
    (v.output.code ≠ 0 ∧ Grows (· = Path.place v.current storage.log) t v.left ∧
        (configOf v.current surroundings t v.arguments = some config →
          ¬ storage.Opened v.current t)) ∨
      ∃ errand t₁, Grows (· = Path.place v.current storage.log) t t₁ ∧
        storage.Opened v.current t₁ ∧
        (config.errand (files v.current) storage invocation.action).run t₁ = (errand, v.left) ∧
        errand.Ends replies v.sent v.output := by
  intro storage
  obtain ⟨errand, hprepare, hends⟩ := h.exists_prepare_eq
  rcases prepare_cases harguments hprepare with ⟨hnone, ⟨output, rfl, hcode⟩, hleft⟩ | ⟨c, hc, t₁, hrest⟩
  · rw [hends.of_finished.2, hleft, hnone]
    exact .inl ⟨hcode, .refl, fun hsome => by cases hsome⟩
  · obtain rfl := hconfig c hc
    rcases hrest with ⟨hgrows, ⟨⟨output, rfl, hcode⟩, hlog, hleft⟩ | ⟨hlog, hrun⟩⟩
    · rw [hends.of_finished.2, hleft]
      exact .inl ⟨hcode, hgrows, fun _ => hlog⟩
    · exact .inr ⟨errand, t₁, hgrows, hlog, hrun, hends⟩

/-- A run that is not to store a file only adds to the files.

**Proof sketch.** Without an action nothing is done. Otherwise the log is made, and an action that
stores no file changes none (`Storage.Opened.run_errand_of_ne_store`). -/
lemma grows (haction : ∀ path file, Invocation.ofArguments v.arguments ≠ .ok ⟨path, .store file⟩) :
    Grows (· = Path.place v.current (Storage.ofConfig surroundings config).log) t v.left := by
  cases harguments : Invocation.ofArguments v.arguments with
  | error usage =>
    rw [(h.left_eq_of_configOf_eq_none (by rw [configOf, harguments])).1]
    exact .refl
  | ok invocation =>
    rcases h.action_cases hconfig harguments with
      ⟨-, hgrows, -⟩ | ⟨errand, t₁, hgrows, hlog, hrun, -⟩
    · exact hgrows
    · have hkept := @Storage.Opened.run_errand_of_ne_store _ _ _ config invocation.action hlog
        fun file hstore => haction invocation.config file (by rw [harguments, ← hstore])
      rw [hrun] at hkept
      obtain rfl : v.left = t₁ := hkept
      exact hgrows

/-- **A run that is to store a file** either fails and only adds to the files, or it tells how many
requests the file has and leaves its text as the stored document.

**Proof sketch.** The action stores the file in the tree that the log was made in
(`storeFile_cases`). The file may be the stored document itself, or the log; in each case it has the
text afterwards. If it was there before the run, it still had the same bytes when it was read. -/
theorem store_cases (harguments : Invocation.ofArguments v.arguments = .ok ⟨path, .store file⟩) :
    let storage := Storage.ofConfig surroundings config
    (v.output.code ≠ 0 ∧ Grows (· = Path.place v.current storage.log) t v.left) ∨
      ∃ text, v.output = (Ending.prints [storage.imported text]).output ∧
        v.left.read v.current file = .ok (Text.encode text.toList) ∧
        storage.stored? v.current v.left = some (Text.encode text.toList) ∧
        storage.Opened v.current v.left ∧
        ∀ bytes, t.read v.current file = .ok bytes → bytes = Text.encode text.toList := by
  intro storage
  rcases h.action_cases hconfig harguments with
    ⟨hcode, hgrows, -⟩ | ⟨errand, t₁, hgrows, hlog, hrun, hends⟩
  · exact .inl ⟨hcode, hgrows⟩
  · obtain ⟨ending, t₂, hstore, hrest⟩ := exists_of_run_bind hrun
    obtain ⟨rfl, rfl⟩ := Prod.mk.inj hrest
    rw [hends.of_finished.2]
    rcases storeFile_cases hstore with ⟨hfailure, hkept⟩ | ⟨text, hread, rfl, hreplaces, hsize⟩
    · exact .inl ⟨fun hcode => hfailure (Ending.code_eq_zero_iff.1 hcode), hgrows.trans (hkept _)⟩
    · refine .inr ⟨text, rfl, ?_, ?_, hlog.replaces hreplaces, fun bytes hbytes => ?_⟩
      · -- the file may be the stored document itself, which then holds the same text
        have hafter := hreplaces.read_eq hread
        rwa [ite_self] at hafter
      · rw [Storage.stored?, if_pos hsize, hreplaces.file?_eq, if_pos rfl]
      · exact Except.ok.inj ((hgrows.read hbytes).symm.trans hread)

/-- **What a run leaves as the stored document** is the file that it has stored, if it has stored
one, and else what it found.

**Proof sketch.** A run that is to store a file and fails only adds to the files, as all other runs
do (`grows`), and what only adds to the files leaves the stored document alone. -/
theorem stored?_left : let storage := Storage.ofConfig surroundings config
    storage.stored? v.current v.left = v.imported?.or (storage.stored? v.current t) := by
  intro storage
  by_cases hstore : ∃ path file, Invocation.ofArguments v.arguments = .ok ⟨path, .store file⟩
  · obtain ⟨path, file, harguments⟩ := hstore
    rcases h.store_cases hconfig harguments with
      ⟨hcode, hgrows⟩ | ⟨text, houtput, hread, hstored, -⟩
    · rw [imported?_of_code_ne_zero hcode, Option.none_or, Storage.stored?_eq_of_grows hgrows]
    · rw [imported?_of_store harguments (by rw [houtput]; rfl) hread, hstored, Option.some_or]
  · have haction : ∀ path file, Invocation.ofArguments v.arguments ≠ .ok ⟨path, .store file⟩ :=
      fun path file harguments => hstore ⟨path, file, harguments⟩
    rw [imported?_of_ne_store haction, Option.none_or,
      Storage.stored?_eq_of_grows (h.grows hconfig haction)]

end

/-- **A run that lists the stored document** does so unless the log can neither be read nor made.
The text that it lists is the one that it found, since the log is all that it makes. -/
theorem list_cases (harguments : Invocation.ofArguments v.arguments = .ok ⟨path, .list none⟩)
    (hsome : configOf v.current surroundings t v.arguments = some config) :
    let storage := Storage.ofConfig surroundings config
    (v.output.code ≠ 0 ∧ ¬ storage.Opened v.current t) ∨
      v.output = (Ending.ofBlocks (blocks (storage.storedText v.current t))).output := by
  intro storage
  have hconfig : ∀ c, configOf v.current surroundings t v.arguments = some c → c = config :=
    fun c hc => Option.some.inj (hc.symm.trans hsome)
  rcases h.action_cases hconfig harguments with
    ⟨hcode, -, hlog⟩ | ⟨errand, t₁, hgrows, hlog, hrun, hends⟩
  · exact .inl ⟨hcode, hlog hsome⟩
  · have herrand := run_bind_of_run (f := fun found => pure (Errand.about
      (fun document => .finished (Ending.ofBlocks (blocks document)).output) found))
      (hlog.run_readDocument none)
    obtain ⟨rfl, -⟩ := Prod.mk.inj (hrun.symm.trans herrand)
    rw [hends.of_finished.2, Storage.storedText_eq_of_grows hgrows]
    exact .inr rfl

end Visit.Goes

/-- **A file with the text of the stored document can stand in its place** if the outcome of a request
depends on the request alone: both runs leave the same files and hand over the same requests, and their
outputs are the same up to times and the order of reports.

**Proof sketch.** Both runs prepare the same errand in the same tree (`run_prepare_withFile`), and
an errand ends in one way (`Errand.Ends.alike`). -/
theorem Visit.Goes.alike_withFile {outcome : OutgoingRequest → Outcome}
    (h : v.Goes surroundings (fun request reply => reply.outcome = outcome request) t)
    (h' : v'.Goes surroundings (fun request reply => reply.outcome = outcome request) t)
    (hcurrent : v'.current = v.current) (haction : action.ReadsStored)
    (harguments : Invocation.ofArguments v.arguments = .ok ⟨path, action⟩)
    (harguments' : Invocation.ofArguments v'.arguments = .ok ⟨path, action.withFile file⟩)
    (hfile : ∀ config, configOf v.current surroundings t v.arguments = some config →
      FileSystem.textOf (t.read v.current file) =
        .ok ((Storage.ofConfig surroundings config).storedText v.current t)) :
    v.left = v'.left ∧ v.sent ~ v'.sent ∧ v.output.Alike v'.output := by
  obtain ⟨errand, hprepare, hends⟩ := h.exists_prepare_eq
  obtain ⟨errand', hprepare', hends'⟩ := h'.exists_prepare_eq
  rw [hcurrent, run_prepare_withFile haction harguments harguments' hfile, hprepare] at hprepare'
  obtain ⟨rfl, hleft⟩ := Prod.mk.inj hprepare'
  exact ⟨hleft, hends.alike hends'⟩

end RequestRunner
