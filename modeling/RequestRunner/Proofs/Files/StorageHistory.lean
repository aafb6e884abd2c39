import RequestRunner.Proofs.Files.StoredDocument

/-!
# Histories of a storage

A storage is used again and again, and others change the tree in between: they write files, make
directories or clear the data directory away. Each event is told with the answer that was given.
What was saved is loaded until it is saved again or changed from outside, in every history, since all
other events leave what can be read at the path of the document as it is.

## Main definitions

* `Storage.Event`, `Storage.Event.Sets`, `Storage.Event.LeavesFiles` — what happens to a tree.
* `Storage.Step`, `Storage.History` — the trees before and after one event, and after several.
* `Storage.IsLoaded` — the text that is to be loaded.

## Main results

* `Storage.Step.read_document`, `Storage.History.read_document` — the document while it is not set.
* `Storage.histories_keep_document` — loading and saving in every history.
-/

namespace RequestRunner.Storage

open FileTree

/-- What happens to a tree, with the answer that was given: a use of the storage, or a change from
outside by someone who may be in another directory. -/
inductive Event where
  | loaded (text : String)
  | saved (text : String) (result : Except Failure Unit)
  | ensured (result : Except Failure Unit)
  | written (base : Location) (path : String) (bytes : List UInt8)
  | directoryMade (base : Location) (path : String)
  | cleared

/-- The event saves the document, or is a change to it from outside: to write at its place, or to
clear the data directory away. -/
def Event.Sets (current : Location) (s : Storage) : Event → Prop
  | .saved _ (.ok ()) => True
  | .written base path _ => Path.place base path = Path.place current s.document
  | .cleared => True
  | _ => False

/-- The event is one of those that are to leave all files as they are: to load, to make sure of the
data directory, or to save in vain. -/
def Event.LeavesFiles : Event → Prop
  | .loaded _ => True
  | .ensured _ => True
  | .saved _ (.error _) => True
  | _ => False

/-- The tree before and the tree after an event. -/
inductive Step (current : Location) (s : Storage) : Event → FileTree → FileTree → Prop where
  | load {t t' : FileTree} {text : String} (h : (s.load (files current)).run t = (text, t')) :
      Step current s (.loaded text) t t'
  | save {t t' : FileTree} {text : String} {result : Except Failure Unit}
      (h : (s.save (files current) text).run t = (result, t')) :
      Step current s (.saved text result) t t'
  | ensure {t t' : FileTree} {result : Except Failure Unit}
      (h : (s.ensure (files current)).run t = (result, t')) : Step current s (.ensured result) t t'
  | write {t t' : FileTree} {base : Location} {path : String} {bytes : List UInt8}
      (h : t.update base path (fun _ => bytes) = .ok t') :
      Step current s (.written base path bytes) t t'
  | makeDirectory {t t' : FileTree} {base : Location} {path : String}
      (h : t.makeDirectory base path = .ok t') : Step current s (.directoryMade base path) t t'
  | clear {t : FileTree} : Step current s .cleared t (t.remove current s.directory)

/-- The tree before and the tree after some events, in order. -/
inductive History (current : Location) (s : Storage) : FileTree → List Event → FileTree → Prop where
  | nil {t : FileTree} : History current s t [] t
  | cons {t t' t'' : FileTree} {e : Event} {events : List Event} (h : Step current s e t t')
      (hs : History current s t' events t'') : History current s t (e :: events) t''

/-- The text of the document if its path leads to a file with a text, and else the empty one. -/
def IsLoaded (current : Location) (s : Storage) (t : FileTree) (text : String) : Prop :=
  (∀ p cs, t.locate current s.document = .ok p → t.file? p = some (Text.encode cs) →
    text = String.ofList cs) ∧
  ((∀ p cs, t.locate current s.document = .ok p → t.file? p ≠ some (Text.encode cs)) → text = "")

variable {current : Location} {s : Storage} {t t' t'' : FileTree} {e : Event} {text : String}
  {events events' : List Event} {bytes : List UInt8}

/-! ### Single events -/

/-- What is read at the path of the document is the file that the path leads to. -/
lemma read_document_iff : t.read current s.document = .ok bytes ↔
    ∃ p, t.locate current s.document = .ok p ∧ t.file? p = some bytes := by
  rw [read_eq_ok_iff]
  simp [endsInSlash_document]

/-- **To load gives the text of the document** and changes nothing.

**Proof sketch.** To load reads the file that the path of the document leads to, and takes it for a
text if its bytes are those of one (`textOf_eq_ok_iff`). So a text is found exactly where one is
stored. -/
theorem Step.of_loaded (h : Step current s (.loaded text) t t') :
    t' = t ∧ s.IsLoaded current t text := by
  cases h with
  | load h =>
    rw [run_load] at h
    obtain ⟨htext, rfl⟩ := Prod.mk.inj h
    refine ⟨rfl, fun p cs hp hfile => ?_, fun hnone => ?_⟩
    · have hread : t.read current s.document = .ok (Text.encode (String.ofList cs).toList) := by
        rw [String.toList_ofList]
        exact read_document_iff.2 ⟨p, hp, hfile⟩
      rw [← htext, textOf_eq_ok_iff.2 hread]
      rfl
    · rw [← htext]
      cases hloaded : FileSystem.textOf (t.read current s.document) with
      | error => rfl
      | ok found =>
        obtain ⟨p, hp, hfile⟩ := read_document_iff.1 (textOf_eq_ok_iff.1 hloaded)
        exact absurd hfile (hnone p _ hp)

/-- **Only a change to a file changes one.** One case for each event, of which only three are left
by the assumption: to load changes nothing, and the others only make the tree grow, with no new
file. -/
theorem Step.file?_eq (h : Step current s e t t') (he : e.LeavesFiles) (p : Location) :
    t'.file? p = t.file? p := by
  cases h with
  | load h =>
    rw [run_load] at h
    rw [← (Prod.mk.inj h).2]
  | @save _ _ _ result h =>
    cases result with
    | ok => exact he.elim
    | error =>
      have hgrows : Grows (fun _ => False) t t' := grows_of_run_save h
      exact hgrows.file?_eq p id
  | ensure h =>
    have hgrows : Grows (fun _ => False) t t' := adds_ensure.grows h
    exact hgrows.file?_eq p id
  | write => exact he.elim
  | makeDirectory => exact he.elim
  | clear => exact he.elim

/-- What can be read as the document can be read after each event that does not set it.

**Proof sketch.** One case for each event. To load changes nothing; to save in vain, to make sure of
the data directory and to make another one only make the tree grow; to write elsewhere replaces a
file at another place; and the other events set the document. -/
lemma Step.read_document (h : Step current s e t t') (he : ¬ e.Sets current s)
    (hread : t.read current s.document = .ok bytes) : t'.read current s.document = .ok bytes := by
  cases h with
  | load h =>
    rw [run_load] at h
    rwa [← (Prod.mk.inj h).2]
  | @save _ _ _ result h =>
    cases result with
    | ok => exact absurd trivial he
    | error =>
      have hgrows : Grows (fun _ => False) t t' := grows_of_run_save h
      exact hgrows.read hread
  | ensure h =>
    have hgrows : Grows (fun _ => False) t t' := adds_ensure.grows h
    exact hgrows.read hread
  | @write _ _ base path written h =>
    obtain ⟨-, -, hreplaces⟩ := replaces_of_update h
    have hne : Path.place current s.document ≠ Path.place base path := fun hsame => he hsame.symm
    have hkept := hreplaces.read_eq hread
    rwa [if_neg hne] at hkept
  | makeDirectory h =>
    have hgrows : Grows (fun _ => False) t t' := makeDirectory_grows h
    exact hgrows.read hread
  | clear => exact absurd trivial he

/-! ### Several events -/

/-- A history of events can be cut anywhere, at the tree that was there in between. -/
lemma History.exists_append (h : History current s t (events ++ events') t'') :
    ∃ t', History current s t events t' ∧ History current s t' events' t'' := by
  induction events generalizing t with
  | nil => exact ⟨t, .nil, h⟩
  | cons e events ih =>
    cases h with
    | cons hstep hs =>
      obtain ⟨t', hfirst, hsecond⟩ := ih hs
      exact ⟨t', .cons hstep hfirst, hsecond⟩

/-- What can be read as the document can be read as long as it is not set, by induction on the
history. -/
lemma History.read_document (h : History current s t events t')
    (hevents : ∀ e ∈ events, ¬ e.Sets current s)
    (hread : t.read current s.document = .ok bytes) : t'.read current s.document = .ok bytes := by
  induction h with
  | nil => exact hread
  | cons hstep _ ih =>
    rw [List.forall_mem_cons] at hevents
    exact ih hevents.2 (hstep.read_document hevents.1 hread)

/-- **Loading and saving in every history.** Each use of the storage has an answer. Whatever happened
before, to load gives the text of the document if its path leads to a file with a text, and else the
empty one, and it changes nothing. To load, to make sure of the data directory and to save in vain
leaves each file with what it holds, and makes none. A text that was saved is loaded as long as no
other one is saved and the document is not changed from outside, whatever else happens.

**Proof sketch.** A text that was saved can be read (`read_of_run_save`), and this is kept by each
event that does not set the document (`Step.read_document`): such an event makes the tree grow, or
replaces a file at another place. -/
theorem histories_keep_document (current : Location) (s : Storage) :
    (∀ t, (∃ text t', Step current s (.loaded text) t t') ∧
      (∀ text, ∃ result t', Step current s (.saved text result) t t') ∧
      ∃ result t', Step current s (.ensured result) t t') ∧
    (∀ text t t', Step current s (.loaded text) t t' → t' = t ∧ s.IsLoaded current t text) ∧
    (∀ e t t', Step current s e t t' → e.LeavesFiles → ∀ p, t'.file? p = t.file? p) ∧
    ∀ start before text between text' after stop,
      History current s start
        (before ++ .saved text (.ok ()) :: (between ++ .loaded text' :: after)) stop →
      (∀ e ∈ between, ¬ e.Sets current s) → text' = text := by
  refine ⟨fun t => ⟨⟨_, _, .load rfl⟩, fun text => ⟨_, _, .save rfl⟩, _, _, .ensure rfl⟩,
    fun text t t' h => h.of_loaded, fun e t t' h => h.file?_eq, ?_⟩
  intro start before text between text' after stop h hbetween
  obtain ⟨t₁, -, h⟩ := h.exists_append
  cases h with
  | @cons _ t₂ _ _ _ hsaved h =>
    obtain ⟨t₃, hkept, h⟩ := h.exists_append
    cases h with
    | @cons _ t₄ _ _ _ hloaded _ =>
      have hread : t₂.read current s.document = .ok (Text.encode text.toList) := by
        cases hsaved with
        | save hrun => exact read_of_run_save hrun
      obtain ⟨p, hp, hfile⟩ := read_document_iff.1 (hkept.read_document hbetween hread)
      rw [hloaded.of_loaded.2.1 p _ hp hfile, String.ofList_toList]

/-- The first text is saved where nothing is yet, another file is written next to it, and the text is
loaded. -/
theorem histories_keep_document_of_other_file :
    let s : Storage := ⟨"/a/b"⟩
    let saved := (s.save (files []) "GET /").run FileTree.empty
    saved.1 = .ok () ∧ ∃ t, saved.2.update ["a"] "b/other" (fun _ => [255]) = .ok t ∧
      ((s.load (files [])).run t).1 = "GET /" := by
  intro s saved
  have hsaved : saved.1 = .ok () := by decide +kernel
  have hwritten : (saved.2.update ["a"] "b/other" fun _ => [255]).toOption.isSome := by
    decide +kernel
  obtain ⟨t, ht⟩ := Option.isSome_iff_exists.1 hwritten
  have hupdate : saved.2.update ["a"] "b/other" (fun _ => [255]) = .ok t := by
    cases hresult : saved.2.update ["a"] "b/other" fun _ => [255] with
    | error => simp [hresult, Except.toOption] at ht
    | ok t' => simpa [hresult, Except.toOption] using ht
  refine ⟨hsaved, t, hupdate, ?_⟩
  obtain ⟨text, t', hloaded⟩ : ∃ text t', (s.load (files [])).run t = (text, t') := ⟨_, _, rfl⟩
  rw [hloaded]
  have hhistory : History [] s FileTree.empty
      ([] ++ .saved "GET /" (.ok ()) :: ([.written ["a"] "b/other" [255]] ++ [.loaded text])) t' :=
    .cons (.save (Prod.ext hsaved rfl)) (.cons (.write hupdate) (.cons (.load hloaded) .nil))
  have hplaces : Path.place ["a"] "b/other" ≠ Path.place [] s.document := by decide
  have hbetween : ∀ e ∈ [Event.written ["a"] "b/other" [255]], ¬ e.Sets [] s := by
    intro e he
    rw [List.mem_singleton.1 he]
    exact hplaces
  exact (histories_keep_document [] s).2.2.2 _ _ _ _ _ _ _ hhistory hbetween

end RequestRunner.Storage
