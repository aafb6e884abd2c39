import RequestRunner.Proofs.Files.Directories
import RequestRunner.Proofs.Text.Utf8
import RequestRunner.Storage

/-!
# The stored document

The stored document is the file at the place that its path names, as long as the path is one that can
be followed at all. Nothing but to save a document changes it, and once the log has been opened, to
load it gives its text.

## Main definitions

* `Storage.stored?`, `Storage.storedText` — what is stored.
* `Storage.Opened` — the log has been opened.

## Main results

* `Storage.stored?_eq_of_grows` — what leaves the stored document alone.
* `Storage.adds_ensure`, `Storage.adds_openLog`, `Storage.opened_of_run_openLog` — before an action.
* `Storage.Opened.run_ensure`, `Storage.Opened.run_openLog`, `Storage.Opened.run_load` — after the log
  has been opened.
* `Storage.replaces_of_run_save`, `Storage.read_of_run_save`, `Storage.grows_of_run_save` — saving.
-/

namespace RequestRunner

open FileTree

/-! ### Files as texts -/

/-- What reads as a text are the bytes of the text.

**Proof sketch.** What is decoded is encoded by the same bytes, and what is encoded is decoded as
itself. -/
lemma textOf_eq_ok_iff {read : Except Refusal (List UInt8)} {text : String} :
    FileSystem.textOf read = .ok text ↔ read = .ok (Text.encode text.toList) := by
  constructor
  · intro h
    cases read with
    | error => cases h
    | ok bytes =>
      rw [FileSystem.textOf] at h
      cases hdecode : Text.decode? bytes with
      | none =>
        rw [hdecode] at h
        cases h
      | some cs =>
        rw [hdecode] at h
        obtain rfl : String.ofList cs = text := Except.ok.inj h
        rw [String.toList_ofList, Text.encode_of_decode? hdecode]
  · rintro rfl
    rw [FileSystem.textOf, Text.decode?_encode]
    exact congrArg Except.ok String.ofList_toList

namespace Storage

/-- The bytes of the stored document: those of the file at the place that its path names. A path that
is too long leads nowhere. -/
def stored? (current : Location) (s : Storage) (t : FileTree) : Option (List UInt8) :=
  if s.document.utf8ByteSize ≤ longestPath then t.file? (Path.place current s.document) else none

/-- The text of the stored document; empty if there is none. -/
def storedText (current : Location) (s : Storage) (t : FileTree) : String :=
  ((s.stored? current t).bind Text.decode?).elim "" String.ofList

/-- The log has been opened: it can be read. -/
def Opened (current : Location) (s : Storage) (t : FileTree) : Prop :=
  ∃ bytes, t.read current s.log = .ok bytes

variable {current : Location} {s : Storage} {t t' : FileTree} {p q : Location} {bytes : List UInt8}
  {text path : String} {new : Location → Prop}

/-! ### Places -/

/-- The name of the document is one of a file. -/
lemma isName_document : Path.IsName "requests.http" :=
  ⟨by decide, by decide, by decide, by decide⟩

/-- The name of the log is one of a file. -/
lemma isName_log : Path.IsName (programName ++ ".log") :=
  ⟨by decide, by decide, by decide, by decide⟩

/-- The document is in the data directory. -/
lemma place_document :
    Path.place current s.document = "requests.http" :: Path.place current s.directory :=
  Path.place_join isName_document

/-- The log is in the data directory. -/
lemma place_log :
    Path.place current s.log = (programName ++ ".log") :: Path.place current s.directory :=
  Path.place_join isName_log

/-- The document and the log are two files, wherever the data directory is. -/
lemma place_document_ne_log : Path.place current s.document ≠ Path.place current s.log := by
  rw [place_document, place_log]
  exact fun h => absurd (List.cons.inj h).1 (by decide)

/-- **The stored document is left alone** by all that only makes the tree grow and has no new file but
the log. -/
theorem stored?_eq_of_grows (h : Grows (· = Path.place current s.log) t t') :
    s.stored? current t' = s.stored? current t := by
  rw [stored?, stored?, h.file?_eq _ place_document_ne_log]

/-- The text of the stored document is left alone, too. -/
lemma storedText_eq_of_grows (h : Grows (· = Path.place current s.log) t t') :
    s.storedText current t' = s.storedText current t := by
  rw [storedText, storedText, stored?_eq_of_grows h]

/-- What is stored as the bytes of a text has this text. -/
lemma storedText_eq_of_stored? (h : s.stored? current t = some (Text.encode text.toList)) :
    s.storedText current t = text := by
  rw [storedText, h, Option.bind_some, Text.decode?_encode]
  exact String.ofList_toList

/-! ### Loading -/

/-- To load the document gives what can be read at its path, and nothing if that is no text. -/
lemma run_load (current : Location) (s : Storage) (t : FileTree) :
    (s.load (files current)).run t =
      ((FileSystem.textOf (t.read current s.document)).toOption.getD "", t) := by
  have hread : ((files current).readText s.document).run t =
      (FileSystem.textOf (t.read current s.document), t) := rfl
  rw [load, run_bind_of_run hread]
  cases FileSystem.textOf (t.read current s.document) <;> rfl

/-! ### Before an action -/

/-- To make sure of the data directory changes no file. -/
theorem adds_ensure : Adds new (s.ensure (files current)) := by
  refine adds_isThere.bind fun there => ?_
  cases there
  · exact adds_makeDirectories.bind fun _ => adds_pure
  · exact adds_pure

/-- What is there is left alone, whatever it is. -/
lemma run_ensure_of_isSome (h : (t.kind? current s.directory).isSome) :
    (s.ensure (files current)).run t = (.ok (), t) := by
  have hthere : ((files current).isThere s.directory).run t = (true, t) := congrArg (·, t) h
  exact run_bind_of_run hthere

/-- What is not there is made. -/
lemma run_ensure_of_eq_none (h : t.kind? current s.directory = none) :
    (s.ensure (files current)).run t =
      Prod.map (Except.mapError (.dataDirectory s.directory)) id
        (((files current).makeDirectories s.directory).run t) := by
  have hthere : ((files current).isThere s.directory).run t = (false, t) := by
    show ((t.kind? current s.directory).isSome, t) = _
    rw [h]
    rfl
  exact run_bind_of_run hthere

/-- The empty path leads nowhere, and there is nothing to make for it. -/
lemma run_ensure_of_empty (h : s.directory = "") : (s.ensure (files current)).run t = (.ok (), t) := by
  rw [run_ensure_of_eq_none (by rw [h]; rfl), h]
  rfl

/-- To open the log changes no file and makes none but the log.

**Proof sketch.** The file of the log is opened, and if that is refused, the directories above it
are made and it is opened again. Each of these steps only makes the tree grow. -/
theorem adds_openLog : Adds (· = Path.place current s.log) (s.openLog (files current)) := by
  refine adds_openToAppend.bind fun opened => ?_
  cases opened with
  | ok => exact adds_pure
  | error =>
    refine adds_makeDirectories.bind fun made => ?_
    cases made with
    | ok => exact adds_openToAppend
    | error => exact adds_pure

/-- To open the file of the log without a refusal leaves a log that can be read. -/
lemma opened_of_run_openToAppend
    (h : ((files current).openToAppend s.log).run t = (.ok (), t')) : s.Opened current t' := by
  obtain ⟨hlocate, hslash, hreplaces⟩ := replaces_of_update (run_change_eq_ok_iff.1 h)
  exact ⟨_, hreplaces.read_self hlocate hslash⟩

/-- **To open the log without a refusal** leaves a log that can be read.

**Proof sketch.** Either the first try succeeds, or the directories are made and the second one
does. In both cases the file of the log was opened for adding. -/
theorem opened_of_run_openLog (h : (s.openLog (files current)).run t = (.ok (), t')) :
    s.Opened current t' := by
  obtain ⟨first, t₁, hfirst, h⟩ := exists_of_run_bind h
  cases first with
  | ok =>
    obtain ⟨-, rfl⟩ := Prod.mk.inj h
    exact opened_of_run_openToAppend hfirst
  | error =>
    obtain ⟨made, t₂, -, h⟩ := exists_of_run_bind h
    cases made with
    | ok => exact opened_of_run_openToAppend h
    | error => cases (Prod.mk.inj h).1

/-! ### After the log has been opened -/

/-- An open log stays open while trees grow. -/
lemma Opened.grows (h : s.Opened current t) (hgrows : Grows new t t') : s.Opened current t' :=
  h.imp fun _ => hgrows.read

/-- An open log stays open when a file is written, be it the log itself. -/
lemma Opened.replaces (h : s.Opened current t) (hreplaces : Replaces p bytes t t') :
    s.Opened current t' :=
  h.elim fun _ hread => ⟨_, hreplaces.read_eq hread⟩

/-- The walk to the log goes through the data directory. So there is a directory where its path
leads, and the path itself is one that can be followed.

**Proof sketch.** The path of the log is that of the directory, perhaps a slash, and a name. Its
names are those of the directory and one more, and the walk along them arrives, so the walk to the
directory does too. The path of the directory is a part of that of the log, so it has no zero and is
not too long. -/
lemma Opened.walk (h : s.Opened current t) :
    t.walk (Path.start current s.directory) (Path.names s.directory) =
        .ok (Path.place current s.directory) ∧
      t.isDirectory (Path.place current s.directory) ∧ '\x00' ∉ s.directory.toList ∧
      s.directory.utf8ByteSize ≤ longestPath := by
  obtain ⟨bytes, hread⟩ := h
  obtain ⟨p, hlocate, -⟩ := read_eq_ok_iff.1 hread
  obtain ⟨⟨hzero, -, hsize⟩, hwalk⟩ := locate_eq_ok_iff.1 hlocate
  rw [log] at hzero hsize hwalk
  obtain ⟨hdirectory, hd, -⟩ := (walk_join_eq_ok_iff isName_log).1 hwalk
  obtain ⟨gap, -, -, hjoin⟩ := Path.exists_join_eq s.directory
  rw [hjoin _ isName_log] at hzero hsize
  refine ⟨hdirectory, hd, fun hmem => hzero ?_, ?_⟩
  · simp [hmem]
  · rw [String.utf8ByteSize_append, String.utf8ByteSize_append] at hsize
    omega

/-- The path of the document leads to its place unless it is too long.

**Proof sketch.** The walk to the data directory arrives (`Opened.walk`), and from there it is one
name to the document. Only the size is left to be asked, as the name of the document is longer than
that of the log. -/
lemma Opened.locate_document (h : s.Opened current t) : t.locate current s.document = .ok p ↔
    s.document.utf8ByteSize ≤ longestPath ∧ p = Path.place current s.document := by
  obtain ⟨hwalk, hd, hzero, -⟩ := h.walk
  obtain ⟨gap, hgap, -, hjoin⟩ := Path.exists_join_eq s.directory
  have hchars : '\x00' ∉ s.document.toList ∧ s.document ≠ "" := by
    rw [document, hjoin _ isName_document]
    rcases hgap with rfl | rfl <;> simp [hzero]
  refine ⟨fun hlocate => ⟨(locate_eq_ok_iff.1 hlocate).1.2.2, locate_eq_place hlocate⟩, ?_⟩
  rintro ⟨hsize, rfl⟩
  refine locate_eq_ok_iff.2 ⟨⟨hchars.1, hchars.2, hsize⟩, ?_⟩
  exact (walk_join_eq_ok_iff isName_document).2 ⟨hwalk, hd, by decide, place_document⟩

/-- The path of the document ends in its name. -/
lemma endsInSlash_document : Path.endsInSlash s.document = false := by
  obtain ⟨gap, -, -, hjoin⟩ := Path.exists_join_eq s.directory
  rw [document, hjoin _ isName_document, Path.endsInSlash]
  simp [List.getLast?_append]

/-- **Once the log has been opened**, the path of the document leads to the stored document: what
can be read there is what is stored, and nothing is stored that cannot be read. -/
theorem Opened.read_document (h : s.Opened current t) :
    t.read current s.document = .ok bytes ↔ s.stored? current t = some bytes := by
  rw [read_eq_ok_iff, stored?]
  simp only [h.locate_document, endsInSlash_document]
  split <;> simp [*]

/-- To load the document gives the text of the stored document. What is missing or no text gives the
empty one in both ways.

**Proof sketch.** By whether the path can be read, which it can if and only if something is stored
(`Opened.read_document`). -/
theorem Opened.run_load (h : s.Opened current t) :
    (s.load (files current)).run t = (s.storedText current t, t) := by
  have htext : (FileSystem.textOf (t.read current s.document)).toOption.getD "" =
      s.storedText current t := by
    rw [storedText]
    cases hread : t.read current s.document with
    | ok bytes =>
      rw [h.read_document.1 hread, FileSystem.textOf, Option.bind_some]
      cases Text.decode? bytes <;> rfl
    | error refusal =>
      cases hstored : s.stored? current t with
      | none => rfl
      | some bytes => rw [h.read_document.2 hstored] at hread; cases hread
  rw [Storage.run_load, htext]

/-- The data directory is there, so to make sure of it does nothing. -/
theorem Opened.run_ensure (h : s.Opened current t) :
    (s.ensure (files current)).run t = (.ok (), t) := by
  obtain ⟨hwalk, hd, hzero, hsize⟩ := h.walk
  by_cases hempty : s.directory = ""
  · exact run_ensure_of_empty hempty
  · have hkind : t.kind? current s.directory = some .directory :=
      kind?_eq_directory_iff.2 ⟨_, locate_eq_ok_iff.2 ⟨⟨hzero, hempty, hsize⟩, hwalk⟩, hd⟩
    exact run_ensure_of_isSome (by rw [hkind]; rfl)

/-- The log can be opened again. -/
theorem Opened.run_openLog (h : s.Opened current t) :
    ∃ t', (s.openLog (files current)).run t = (.ok (), t') := by
  obtain ⟨bytes, hread⟩ := h
  obtain ⟨t', hupdate⟩ := exists_update_eq_ok hread id
  exact ⟨t', run_bind_of_run (run_change_eq_ok_iff.2 hupdate)⟩

/-! ### Saving -/

/-- To save a text is to write it when the data directory is there. -/
lemma update_of_run_save (h : (s.save (files current) text).run t = (.ok (), t')) :
    ∃ t₁, (s.ensure (files current)).run t = (.ok (), t₁) ∧
      t₁.update current s.document (fun _ => Text.encode text.toList) = .ok t' := by
  obtain ⟨made, t₁, hmade, h⟩ := exists_of_run_bind h
  cases made with
  | error => cases (Prod.mk.inj h).1
  | ok =>
    obtain ⟨written, t₂, hwritten, h⟩ := exists_of_run_bind h
    cases written with
    | error => cases (Prod.mk.inj h).1
    | ok =>
      obtain ⟨-, rfl⟩ := Prod.mk.inj h
      exact ⟨t₁, hmade, run_change_eq_ok_iff.1 hwritten⟩

/-- **To save a text replaces the stored document** by the bytes of the text.

**Proof sketch.** To make sure of the data directory changes no file and takes no directory away,
and then the file is written at the place of the document. -/
theorem replaces_of_run_save (h : (s.save (files current) text).run t = (.ok (), t')) :
    Replaces (Path.place current s.document) (Text.encode text.toList) t t' ∧
      s.document.utf8ByteSize ≤ longestPath := by
  obtain ⟨t₁, hmade, hupdate⟩ := update_of_run_save h
  have hgrows : Grows (fun _ => False) t t₁ := adds_ensure.grows hmade
  obtain ⟨hlocate, -, hreplaces⟩ := replaces_of_update hupdate
  refine ⟨⟨fun p hp => hreplaces.isDirectory p (hgrows.isDirectory hp), fun p => ?_⟩,
    (locate_eq_ok_iff.1 hlocate).1.2.2⟩
  rw [hreplaces.file?_eq, hgrows.file?_eq p id]

/-- A text that was saved can be read. -/
theorem read_of_run_save (h : (s.save (files current) text).run t = (.ok (), t')) :
    t'.read current s.document = .ok (Text.encode text.toList) := by
  obtain ⟨t₁, -, hupdate⟩ := update_of_run_save h
  obtain ⟨hlocate, hslash, hreplaces⟩ := replaces_of_update hupdate
  exact hreplaces.read_self hlocate hslash

/-- **To save a text in vain** changes no file.

**Proof sketch.** If the data directory was refused, at most directories were made on the way to it.
If the file was refused, nothing was written (`run_change_eq_error_iff`). -/
theorem grows_of_run_save {failure : Failure}
    (h : (s.save (files current) text).run t = (.error failure, t')) : Grows new t t' := by
  obtain ⟨made, t₁, hmade, h⟩ := exists_of_run_bind h
  have hgrows : Grows new t t₁ := adds_ensure.grows hmade
  cases made with
  | error =>
    obtain ⟨-, rfl⟩ := Prod.mk.inj h
    exact hgrows
  | ok =>
    obtain ⟨written, t₂, hwritten, h⟩ := exists_of_run_bind h
    cases written with
    | ok => cases (Prod.mk.inj h).1
    | error refusal =>
      obtain ⟨-, rfl⟩ := Prod.mk.inj h
      obtain ⟨-, rfl⟩ := run_change_eq_error_iff.1 hwritten
      exact hgrows

end Storage
end RequestRunner
