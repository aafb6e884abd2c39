import RequestRunner.Proofs.Files.StoredDocument
import RequestRunner.Proofs.Program.Errands

/-!
# What a run does with its files

A run reads its configuration, makes its data directory and opens its log, and then reads a document or
stores one. Only a file that is stored changes the stored document, and whether an action is about the
stored document or about a file with its text makes no difference.

## Main definitions

* `configOf` — the settings that a run reads.
* `Storage.documentOf` — the text that an action is about.
* `Action.ReadsStored`, `Action.withFile` — the stored document, or a file in its place.

## Main results

* `openStorage_cases`, `storeFile_cases` — what comes before an action, and storing a file.
* `Storage.Opened.run_errand_of_ne_store` — other actions change no file.
* `run_prepare_withFile` — a file with the text of the stored document can stand in its place.
-/

namespace RequestRunner

open FileTree

variable {current : Location} {surroundings : Surroundings} {s : Storage} {t t' : FileTree}
  {config : Config} {action : Action} {path : Option String} {file text : String}
  {arguments arguments' : List String}

/-! ### Reading -/

/-- To read the configuration changes nothing. -/
lemma run_configLoad : ∃ loaded, (Config.load (files current) file).run t = (loaded, t) := by
  have hthere : ((files current).isThere file).run t = ((t.kind? current file).isSome, t) := rfl
  have hread : ((files current).readText file).run t =
      (FileSystem.textOf (t.read current file), t) := rfl
  rw [Config.load, run_bind_of_run hthere]
  cases (t.kind? current file).isSome
  · exact ⟨_, rfl⟩
  · simp only [if_true, run_bind_of_run hread]
    cases FileSystem.textOf (t.read current file) <;> exact ⟨_, rfl⟩

/-- The settings that a run reads, if its arguments name an action and the configuration is one. -/
def configOf (current : Location) (surroundings : Surroundings) (t : FileTree)
    (arguments : List String) : Option Config :=
  match Invocation.ofArguments arguments with
  | .error _ => none
  | .ok invocation =>
    ((Config.load (files current) (invocation.config.getD surroundings.configPath)).run t).1.toOption

/-- With arguments that name an action, the settings are those of the configuration that they name,
or else of the usual one. -/
lemma configOf_of_ok {invocation : Invocation}
    (h : Invocation.ofArguments arguments = .ok invocation) :
    configOf current surroundings t arguments = ((Config.load (files current)
      (invocation.config.getD surroundings.configPath)).run t).1.toOption := by
  rw [configOf, h]

/-- The text that an action is about: that of the file which it names, or of the stored document. -/
def Storage.documentOf (current : Location) (s : Storage) (t : FileTree) :
    Option String → Except Failure String
  | none => .ok (s.storedText current t)
  | some file =>
    (FileSystem.textOf (t.read current file)).mapError (Failure.documentUnreadable file)

/-- To read a document changes nothing. -/
lemma Storage.Opened.run_readDocument (h : s.Opened current t) (named : Option String) :
    (readDocument (files current) s named).run t = (s.documentOf current t named, t) := by
  cases named with
  | none => exact run_bind_of_run h.run_load
  | some file => rfl

/-! ### Before an action -/

/-- **What comes before an action** makes directories and the log. If it fails, so does the run; it
does not fail if the log can be read.

**Proof sketch.** The three steps one after the other, each with the case that it fails. To make
sure of the data directory only makes the tree grow, and so does it to open the log; and if the log
can be read, the data directory is there (`Storage.Opened.run_ensure`) and the log can be opened
again (`Storage.Opened.run_openLog`). -/
theorem openStorage_cases {opened : Except Output Config}
    (h : (openStorage (files current) surroundings path).run t = (opened, t')) :
    let loaded := ((Config.load (files current) (path.getD surroundings.configPath)).run t).1
    (∃ failure, loaded = .error failure ∧ opened = .error (Ending.fails failure).output ∧ t' = t) ∨
      ∃ config, loaded = .ok config ∧
        let storage := Storage.ofConfig surroundings config
        Grows (· = Path.place current storage.log) t t' ∧
          ((∃ output, opened = .error output ∧ output.code ≠ 0) ∧ ¬ storage.Opened current t ∨
            opened = .ok config ∧ storage.Opened current t') := by
  intro loaded
  obtain ⟨found, hload⟩ := @run_configLoad current t (path.getD surroundings.configPath)
  have hloaded : loaded = found := congrArg Prod.fst hload
  rw [hloaded]
  rw [openStorage, run_bind_of_run hload] at h
  cases found with
  | error failure =>
    obtain ⟨rfl, rfl⟩ := Prod.mk.inj h
    exact .inl ⟨failure, rfl, rfl, rfl⟩
  | ok config =>
    obtain ⟨made, t₁, hmade, h⟩ := exists_of_run_bind h
    have hgrows : Grows (· = Path.place current (Storage.ofConfig surroundings config).log) t t₁ :=
      Storage.adds_ensure.grows hmade
    refine .inr ⟨config, rfl, ?_⟩
    cases made with
    | error failure =>
      obtain ⟨rfl, rfl⟩ := Prod.mk.inj h
      refine ⟨hgrows, .inl ⟨⟨_, rfl, show (1 : UInt8) ≠ 0 by decide⟩, fun hlog => ?_⟩⟩
      -- with a log that can be read, the data directory is there
      rw [hlog.run_ensure] at hmade
      cases hmade
    | ok =>
      obtain ⟨logged, t₂, hlogged, h⟩ := exists_of_run_bind h
      have hgrown := hgrows.trans (Storage.adds_openLog.grows hlogged)
      cases logged with
      | error refusal =>
        obtain ⟨rfl, rfl⟩ := Prod.mk.inj h
        refine ⟨hgrown, .inl ⟨⟨_, rfl, show (101 : UInt8) ≠ 0 by decide⟩, fun hlog => ?_⟩⟩
        -- and the log can be opened again
        obtain ⟨t₃, hopened⟩ := (hlog.grows hgrows).run_openLog
        rw [hopened] at hlogged
        cases hlogged
      | ok =>
        obtain ⟨rfl, rfl⟩ := Prod.mk.inj h
        exact ⟨hgrown, .inr ⟨rfl, Storage.opened_of_run_openLog hlogged⟩⟩

/-! ### Actions -/

/-- What a run prints that has stored a text. -/
def Storage.imported (s : Storage) (text : String) : String :=
  "Imported " ++ Text.decimal (blocks text).length ++ " request(s) into " ++ s.document

/-- The output of a run that has stored a text: one line, and success. -/
lemma Storage.output_imported : (Ending.prints [s.imported text]).output =
    ⟨0, "Imported " ++ Text.decimal (blocks text).length ++ " request(s) into " ++ s.document ++ "\n",
      ""⟩ := by
  show Output.mk 0 ("" ++ (s.imported text ++ "\n")) "" = _
  rw [String.empty_append]
  rfl

/-- **Storing a file** either fails and changes no file, or the stored document is the text of the
file.

**Proof sketch.** If the file is no text, nothing is written. If it is one and cannot be saved, only
directories were made (`Storage.grows_of_run_save`); else the document was replaced
(`Storage.replaces_of_run_save`). -/
theorem storeFile_cases {ending : Ending}
    (h : (storeFile (files current) s file).run t = (ending, t')) :
    (ending.failure ≠ none ∧ ∀ new, Grows new t t') ∨
      ∃ text, t.read current file = .ok (Text.encode text.toList) ∧
        ending = .prints [s.imported text] ∧
        Replaces (Path.place current s.document) (Text.encode text.toList) t t' ∧
        s.document.utf8ByteSize ≤ longestPath := by
  have hread : (readDocument (files current) s (some file)).run t =
      ((FileSystem.textOf (t.read current file)).mapError (Failure.documentUnreadable file), t) := rfl
  rw [storeFile, withDocument, run_bind_of_run hread] at h
  cases htext : FileSystem.textOf (t.read current file) with
  | error reason =>
    rw [htext] at h
    obtain ⟨rfl, rfl⟩ := Prod.mk.inj h
    exact .inl ⟨Option.some_ne_none _, fun _ => .refl⟩
  | ok text =>
    rw [htext] at h
    obtain ⟨saved, t₁, hsaved, h⟩ := exists_of_run_bind h
    cases saved with
    | error failure =>
      obtain ⟨rfl, rfl⟩ := Prod.mk.inj h
      exact .inl ⟨Option.some_ne_none _, fun _ => Storage.grows_of_run_save hsaved⟩
    | ok =>
      obtain ⟨rfl, rfl⟩ := Prod.mk.inj h
      obtain ⟨hreplaces, hsize⟩ := Storage.replaces_of_run_save hsaved
      exact .inr ⟨text, textOf_eq_ok_iff.1 htext, rfl, hreplaces, hsize⟩

/-- **All actions but to store a file** change no file.

**Proof sketch.** One case for each action. Those about a document read it, which changes nothing
once the log has been opened; the others do not look at a file. -/
theorem Storage.Opened.run_errand_of_ne_store (h : s.Opened current t)
    (haction : ∀ file, action ≠ .store file) :
    ((config.errand (files current) s action).run t).2 = t := by
  cases action with
  | list named | run named | runAll named =>
    exact congrArg Prod.snd (run_bind_of_run (h.run_readDocument named))
  | store file => exact absurd rfl (haction file)
  | path => rfl
  | checkUpdate =>
    rw [Config.errand]
    split <;> rfl

/-- The action is about the stored document. -/
def Action.ReadsStored : Action → Prop
  | .list file | .run file _ _ _ | .runAll file _ _ => file = none
  | .store _ | .path | .checkUpdate => False

/-- The action with a file in place of the stored document. -/
def Action.withFile (file : String) : Action → Action
  | .list _ => .list (some file)
  | .run _ line json showHeaders => .run (some file) line json showHeaders
  | .runAll _ json showHeaders => .runAll (some file) json showHeaders
  | action => action

/-- A file with the text of the stored document can stand in its place: what is read is the same,
and all that follows depends on this alone. -/
lemma Storage.Opened.run_errand_withFile (h : s.Opened current t) (haction : action.ReadsStored)
    (hfile : FileSystem.textOf (t.read current file) = .ok (s.storedText current t)) :
    (config.errand (files current) s (action.withFile file)).run t =
      (config.errand (files current) s action).run t := by
  have hsame : s.documentOf current t (some file) = s.documentOf current t none := by
    show (FileSystem.textOf (t.read current file)).mapError _ = _
    rw [hfile]
    rfl
  have hread : (readDocument (files current) s (some file)).run t =
      (readDocument (files current) s none).run t := by
    rw [h.run_readDocument, h.run_readDocument, hsame]
  have hbind : ∀ next : Except Failure String → StateM FileTree Errand,
      (readDocument (files current) s (some file) >>= next).run t =
        (readDocument (files current) s none >>= next).run t :=
    fun next => congrArg (fun found : Except Failure String × FileTree => (next found.1).run found.2)
      hread
  cases action with
  | list | run | runAll =>
    obtain rfl := haction
    exact hbind _
  | store | path | checkUpdate => cases haction

/-! ### Whole runs -/

/-- A run whose arguments name no action is finished at once. -/
lemma prepare_of_error {usage : Usage} (h : Invocation.ofArguments arguments = .error usage) :
    (prepare (files current) surroundings arguments).run t = (.finished usage.output, t) := by
  rw [prepare, h]
  rfl

/-- **What a run does with its files**: nothing without a configuration; else it makes the log, and
if that does not fail, the action follows.

**Proof sketch.** By what came before the action (`openStorage_cases`): the configuration is
missing, or making directories and the log has failed, or the action is done in the tree that was
left. -/
theorem prepare_cases {invocation : Invocation} {errand : Errand}
    (harguments : Invocation.ofArguments arguments = .ok invocation)
    (h : (prepare (files current) surroundings arguments).run t = (errand, t')) :
    (configOf current surroundings t arguments = none ∧
        (∃ output, errand = .finished output ∧ output.code ≠ 0) ∧ t' = t) ∨
      ∃ config, configOf current surroundings t arguments = some config ∧
        let storage := Storage.ofConfig surroundings config
        ∃ t₁, Grows (· = Path.place current storage.log) t t₁ ∧
          ((∃ output, errand = .finished output ∧ output.code ≠ 0) ∧
              ¬ storage.Opened current t ∧ t' = t₁ ∨
            storage.Opened current t₁ ∧
              (config.errand (files current) storage invocation.action).run t₁ = (errand, t')) := by
  rw [configOf_of_ok harguments]
  rw [prepare, harguments] at h
  obtain ⟨opened, t₁, hopened, hrest⟩ := exists_of_run_bind h
  rcases openStorage_cases hopened with ⟨failure, hloaded, rfl, rfl⟩ | ⟨config, hloaded, hgrows, hcase⟩
  · obtain ⟨rfl, rfl⟩ := Prod.mk.inj hrest
    exact .inl ⟨by rw [hloaded]; rfl, ⟨_, rfl, show (1 : UInt8) ≠ 0 by decide⟩, rfl⟩
  · refine .inr ⟨config, by rw [hloaded]; rfl, t₁, hgrows, ?_⟩
    rcases hcase with ⟨⟨output, rfl, hcode⟩, hlog⟩ | ⟨rfl, hlog⟩
    · obtain ⟨rfl, rfl⟩ := Prod.mk.inj hrest
      exact .inl ⟨⟨output, rfl, hcode⟩, hlog, rfl⟩
    · exact .inr ⟨hlog, hrest⟩

/-- **A file with the text of the stored document can stand in its place**: all that the run does
with its files, and the errand that is left, are the same.

**Proof sketch.** What comes before the action is the same, and it leaves the stored document and
the file as they are. In the tree that it leaves the file can stand in the place of the stored
document (`Storage.Opened.run_errand_withFile`). -/
theorem run_prepare_withFile (haction : action.ReadsStored)
    (h : Invocation.ofArguments arguments = .ok ⟨path, action⟩)
    (h' : Invocation.ofArguments arguments' = .ok ⟨path, action.withFile file⟩)
    (hfile : ∀ config, configOf current surroundings t arguments = some config →
      FileSystem.textOf (t.read current file) =
        .ok ((Storage.ofConfig surroundings config).storedText current t)) :
    (prepare (files current) surroundings arguments').run t =
      (prepare (files current) surroundings arguments).run t := by
  rw [configOf_of_ok h] at hfile
  rw [prepare, prepare, h, h']
  obtain ⟨opened, t₁, hopened⟩ :
      ∃ opened t₁, (openStorage (files current) surroundings path).run t = (opened, t₁) := ⟨_, _, rfl⟩
  refine (run_bind_of_run hopened).trans (.trans ?_ (run_bind_of_run hopened).symm)
  rcases openStorage_cases hopened with ⟨failure, -, rfl, -⟩ | ⟨config, hloaded, hgrows, hcase⟩
  · rfl
  · rcases hcase with ⟨⟨output, rfl, -⟩, -⟩ | ⟨rfl, hlog⟩
    · rfl
    · -- the file was there before the log was made
      refine hlog.run_errand_withFile haction ?_
      have htext := hfile config (by rw [hloaded]; rfl)
      rw [textOf_eq_ok_iff] at htext ⊢
      rw [Storage.storedText_eq_of_grows hgrows]
      exact hgrows.read htext

end RequestRunner
