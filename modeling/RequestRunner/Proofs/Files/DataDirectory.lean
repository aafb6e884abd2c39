import RequestRunner.Proofs.Files.FreeWays
import RequestRunner.Proofs.Files.StoredDocument

/-!
# The data directory

To make sure of the data directory asks whether anything is at its path. If so, nothing is done, and a
regular file there passes for the directory. If nothing is, the directory and those above it are made;
what stands in the way is refused, and only directories on the way are new.

## Main results

* `Storage.run_ensure_eq_ok_iff` — when the data directory is there afterwards.
* `Storage.run_ensure_makes_directory` — what is made, what is refused and what is left alone.
-/

namespace RequestRunner

namespace Storage

open FileTree

variable {current : Location} {s : Storage} {t : FileTree} {p : Location}

/-- The data directory that is not there is not made only for a refusal. -/
lemma exists_refusal_of_run_ensure (h : ((s.ensure (files current)).run t).1 ≠ .ok ()) :
    ∃ refusal, ((s.ensure (files current)).run t).1 = .error (.dataDirectory s.directory refusal) := by
  by_cases hkind : (t.kind? current s.directory).isSome
  · rw [run_ensure_of_isSome hkind] at h
    exact absurd rfl h
  · rw [run_ensure_of_eq_none (Option.not_isSome_iff_eq_none.1 hkind), Prod.map_fst] at h ⊢
    rcases hmade : (((files current).makeDirectories s.directory).run t).1 with refusal | _
    · exact ⟨refusal, rfl⟩
    · rw [hmade] at h
      exact absurd rfl h

/-- To make sure of the data directory changes nothing that is there, and makes at most the
directories on the way of its path.

**Proof sketch.** Either something is at the path and the tree stays as it is, or the directories
are made, of which `gains_makeDirectories` tells where they are. -/
lemma gains_run_ensure (current : Location) (s : Storage) (t : FileTree) :
    Gains (Path.Along current s.directory) t ((s.ensure (files current)).run t).2 := by
  cases hkind : t.kind? current s.directory with
  | none =>
    rw [run_ensure_of_eq_none hkind, Prod.map_snd]
    exact gains_makeDirectories t current s.directory
  | some kind =>
    rw [run_ensure_of_isSome (by rw [hkind]; rfl)]
    exact .refl

/-- If the path is not empty and leads to no regular file, success means that the data directory is
there.

**Proof sketch.** By what was at the path. If nothing was, the directories were made without a
refusal, and what is made is there (`kind?_of_run_makeDirectories`); if a directory was, the tree is
the one before. A regular file is excluded: it alone gives success without a directory. -/
lemma kind?_of_run_ensure (hne : s.directory ≠ "") (hfile : t.kind? current s.directory ≠ some .file)
    (h : ((s.ensure (files current)).run t).1 = .ok ()) :
    ((s.ensure (files current)).run t).2.kind? current s.directory = some .directory := by
  rcases hkind : t.kind? current s.directory with _ | _ | _
  · rw [run_ensure_of_eq_none hkind, Prod.map_fst] at h
    rw [run_ensure_of_eq_none hkind, Prod.map_snd]
    refine kind?_of_run_makeDirectories hne ?_
    rcases hmade : (((files current).makeDirectories s.directory).run t).1 with refusal | _
    · rw [hmade] at h
      cases h
    · rfl
  · exact absurd hkind hfile
  · rw [run_ensure_of_isSome (by rw [hkind]; rfl)]
    exact hkind

/-- **When the data directory is there afterwards.** If its path is plain and starts in a directory,
to make sure of it succeeds with a directory if and only if no regular file is on the way.

**Proof sketch.** Where a directory is there afterwards, the way to it leads through directories,
and none of them was a file before, as nothing is changed into another thing. In the other direction
nothing on the way can be refused (`makeDirectories_eq_ok_iff`), and no regular file stands at the
path itself. -/
theorem run_ensure_eq_ok_iff (hplain : Path.Plain s.directory)
    (hstart : t.isDirectory (Path.start current s.directory)) :
    (((s.ensure (files current)).run t).1 = .ok () ∧
        ((s.ensure (files current)).run t).2.kind? current s.directory = some .directory) ↔
      ∀ p, Path.Along current s.directory p → t.file? p = none := by
  constructor
  · rintro ⟨-, hkind⟩ p hp
    exact (gains_run_ensure current s t).file?_eq_none (isDirectory_of_along hkind hp)
  · intro hfree
    have hfile : t.kind? current s.directory ≠ some .file := fun hkind => by
      obtain ⟨bytes, hbytes⟩ := exists_file?_of_kind? hkind
      rw [hfree _ Path.along_place] at hbytes
      cases hbytes
    suffices hok : ((s.ensure (files current)).run t).1 = .ok () from
      ⟨hok, kind?_of_run_ensure hplain.ne_empty hfile hok⟩
    cases hkind : t.kind? current s.directory with
    | none =>
      rw [run_ensure_of_eq_none hkind, Prod.map_fst, (makeDirectories_eq_ok_iff hplain hstart).2 hfree]
      rfl
    | some kind => rw [run_ensure_of_isSome (by rw [hkind]; rfl)]

/-- A regular file on the way is refused, unless it passes for the data directory.

**Proof sketch.** After success the way would lead through directories only, but the file is still
there. -/
lemma exists_refusal_of_along (hne : s.directory ≠ "") (hfile : t.kind? current s.directory ≠ some .file)
    (hp : Path.Along current s.directory p) (hblocked : (t.file? p).isSome) :
    ∃ refusal, ((s.ensure (files current)).run t).1 = .error (.dataDirectory s.directory refusal) := by
  refine exists_refusal_of_run_ensure fun hok => ?_
  have hd := isDirectory_of_along (kind?_of_run_ensure hne hfile hok) hp
  rw [(gains_run_ensure current s t).file?_eq_none hd] at hblocked
  cases hblocked

/-- A regular file above the data directory is refused.

**Proof sketch.** Behind a file there is nothing, so nothing is at the path and no file passes for
the data directory. Then the file is refused as any other on the way. -/
lemma exists_refusal_of_above (hp : Path.Above current s.directory p) (hblocked : (t.file? p).isSome) :
    ∃ refusal, ((s.ensure (files current)).run t).1 = .error (.dataDirectory s.directory refusal) := by
  have hnone : t.kind? current s.directory = none := by
    by_contra hsome
    have hd := isDirectory_of_above (Option.isSome_iff_ne_none.2 hsome) hp
    rw [file?_eq_none_of_isDirectory hd] at hblocked
    cases hblocked
  have hne : s.directory ≠ "" := by
    intro hempty
    obtain ⟨front, rest, hsplit, hrest, -⟩ := hp
    rw [hempty] at hsplit
    exact hrest (List.append_eq_nil_iff.1 hsplit.symm).2
  have hfile : t.kind? current s.directory ≠ some .file := by
    rw [hnone]
    exact (Option.some_ne_none _).symm
  exact exists_refusal_of_along hne hfile hp.along hblocked

/-- **The data directory afterwards.** To make sure of it changes and removes nothing, and adds only
directories on the way of its path where nothing was. Unless the path leads to a regular file, there is
no success without a directory, and a regular file on the way is refused; one that stands above is
refused in any case. What is there is left alone, be it a directory or a regular file, and so is all for
the empty path. Along a plain path the data directory is there afterwards unless a file is on the way.

**Proof sketch.** The directories that are made are on the way of the path (`gains_makeDirectories`). If
nothing is refused, the path leads to a directory, and the way to a directory leads through directories
(`isDirectory_of_along`); a file on the way would still be there. -/
theorem run_ensure_makes_directory (current : Location) (s : Storage) (t : FileTree) :
    let out := (s.ensure (files current)).run t
    Gains (Path.Along current s.directory) t out.2 ∧
      (s.directory ≠ "" → t.kind? current s.directory ≠ some .file →
        (out.1 = .ok () → out.2.kind? current s.directory = some .directory) ∧
        ∀ p, Path.Along current s.directory p → (t.file? p).isSome →
          ∃ refusal, out.1 = .error (.dataDirectory s.directory refusal)) ∧
      (∀ p, Path.Above current s.directory p → (t.file? p).isSome →
        ∃ refusal, out.1 = .error (.dataDirectory s.directory refusal)) ∧
      (s.directory = "" ∨ (t.kind? current s.directory).isSome → out = (.ok (), t)) ∧
      (Path.Plain s.directory → t.isDirectory (Path.start current s.directory) →
        ((out.1 = .ok () ∧ out.2.kind? current s.directory = some .directory) ↔
          ∀ p, Path.Along current s.directory p → t.file? p = none)) := by
  refine ⟨gains_run_ensure current s t, fun hne hfile => ⟨kind?_of_run_ensure hne hfile, fun p => ?_⟩,
    fun p => exists_refusal_of_above, ?_, run_ensure_eq_ok_iff⟩
  · exact exists_refusal_of_along hne hfile
  · rintro (hempty | hsome)
    · exact run_ensure_of_empty hempty
    · exact run_ensure_of_isSome hsome

/-- A file above the data directory is refused; else the directory is made with the one above it.
The second path goes through `.`, which leads nowhere and is no directory to be made. -/
theorem run_ensure_makes_directory_beside_file :
    let t := FileTree.empty.put [] "f" (.file [7]) (by decide) (by decide)
    let blocked : Storage := ⟨"/f/d"⟩
    let free : Storage := ⟨"/a/./b"⟩
    (∃ refusal, ((blocked.ensure (files [])).run t).1 = .error (.dataDirectory "/f/d" refusal)) ∧
      ((free.ensure (files [])).run t).1 = .ok () ∧
      ((free.ensure (files [])).run t).2.kind? [] "/a/./b" = some .directory := by
  intro t blocked free
  have habove : Path.Above [] blocked.directory ["f"] :=
    ⟨["f"], ["d"], by decide, by decide, by decide⟩
  have hok : ((free.ensure (files [])).run t).1 = .ok () := by decide
  refine ⟨(run_ensure_makes_directory [] blocked t).2.2.1 ["f"] habove (by decide), hok, ?_⟩
  exact ((run_ensure_makes_directory [] free t).2.1 (by decide) (by decide)).1 hok

/-- **A regular file passes for the data directory**: there is success, though there is no directory
afterwards. -/
theorem file_passes_for_data_directory :
    let t := FileTree.empty.put [] "d" (.file [7]) (by decide) (by decide)
    let s : Storage := ⟨"d"⟩
    (s.ensure (files [])).run t = (.ok (), t) ∧ t.kind? [] s.directory = some .file ∧
      t.kind? [] s.directory ≠ some .directory := by
  intro t s
  have hfile : t.kind? [] s.directory = some .file := by decide
  exact ⟨run_ensure_of_isSome (by rw [hfile]; rfl), hfile, by rw [hfile]; decide⟩

end Storage

end RequestRunner
