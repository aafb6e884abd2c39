import Mathlib.Logic.Relation
import RequestRunner.Proofs.Files.Growth

/-!
# Directories that are made

To make a directory with those above it is to make some of them, one after the other. So only directories
on the way of its path are new, and if nothing is refused the path leads to a directory. The way to a
directory leads through directories, so a regular file on the way is always refused.

## Main definitions

* `FileTree.Made`, `FileTree.Making` — a directory is made, and some are, one after the other.
* `FileTree.Gains` — a tree has all of another, and besides directories at certain places.

## Main results

* `FileTree.making_makeFirst` — what it is to make a directory and those above it.
* `FileTree.adds_makeDirectories` — no file changes.
* `FileTree.gains_makeDirectories` — directories are made on the way of a path only.
* `FileTree.kind?_of_run_makeDirectories` — a directory that is made is there.
* `FileTree.isDirectory_of_along`, `FileTree.isDirectory_of_above` — the way to what is there.
-/

namespace RequestRunner

namespace FileTree

/-- The second tree is the first one with a directory that was made at the end of one of the paths. -/
def Made (current : Location) (paths : List String) (t t' : FileTree) : Prop :=
  ∃ path ∈ paths, t.makeDirectory current path = .ok t'

/-- Directories were made of some of the paths, one after the other, and the first path leads to one if
nothing was refused. -/
structure Making (current : Location) (paths : List String) (t : FileTree)
    (out : Except Refusal Unit × FileTree) : Prop where
  made : Relation.ReflTransGen (Made current paths) t out.2
  kind?_eq : out.1 = .ok () → ∀ path ∈ paths.head?, out.2.kind? current path = some .directory

/-- A directory that cannot be made is kept if it is there. -/
def keep (t : FileTree) (current : Location) (path : String) (refusal : Refusal) : Except Refusal Unit :=
  if t.kind? current path = some .directory then .ok () else .error refusal

/-- The second tree has all that the first one has, and besides only directories, at places of `new`
where nothing was. -/
def Gains (new : Location → Prop) (t t' : FileTree) : Prop :=
  ∀ p, t'.node? p = t.node? p ∨ (new p ∧ t.node? p = none ∧ t'.node? p = some .directory)

variable {t t' t'' : FileTree} {p current : Location} {path : String} {above : List String}
  {node : FileNode} {new : Location → Prop}

/-! ### What is gained -/

namespace Gains

/-- A tree gains nothing over itself. -/
lemma refl : Gains new t t := fun _ => .inl rfl

/-- What is in the first tree is in the second one, at the same place. -/
lemma kept (h : Gains new t t') (hp : t.node? p = some node) : t'.node? p = some node := by
  rcases h p with heq | ⟨-, hnone, -⟩
  · exact heq.trans hp
  · rw [hnone] at hp
    cases hp

/-- To gain directories twice is to gain directories. Where the first tree gained one, the second
cannot gain another, for something is there. -/
lemma trans (h : Gains new t t') (h' : Gains new t' t'') : Gains new t t'' := by
  intro p
  rcases h p with heq | ⟨hnew, hnone, hdir⟩
  · rw [← heq]
    exact h' p
  · exact .inr ⟨hnew, hnone, h'.kept hdir⟩

/-- Where there is a directory afterwards, there was no file. -/
lemma file?_eq_none (h : Gains new t t') (hp : t'.isDirectory p) : t.file? p = none := by
  by_contra hfile
  obtain ⟨bytes, hbytes⟩ := Option.ne_none_iff_exists'.1 hfile
  rw [isDirectory, h.kept (file?_eq_some_iff.1 hbytes)] at hp
  cases hp

/-- Where only directories are gained no file changes. -/
lemma grows {newFile : Location → Prop} (h : Gains new t t') : Grows newFile t t' where
  kept _ _ := h.kept
  file?_eq p _ := by
    rcases h p with heq | ⟨-, hnone, hdir⟩
    · rw [file?, file?, heq]
    · rw [file?, file?, hnone, hdir]
      rfl

end Gains

/-- To make a directory gains the place of its path.

**Proof sketch.** What is made is put where the path leads to (`exists_put_of_makeDirectory`), and a
path leads to the place that it names. Nothing was there, and no other place is touched. -/
lemma gains_of_makeDirectory (hnew : new (Path.place current path))
    (h : t.makeDirectory current path = .ok t') : Gains new t t' := by
  obtain ⟨name, place, hd, hn, hlocate, hnone, rfl⟩ := exists_put_of_makeDirectory h
  intro p
  rw [node?_put]
  split
  · rename_i he
    rw [he]
    exact .inr ⟨locate_eq_place hlocate ▸ hnew, hnone, rfl⟩
  · exact .inl rfl

/-- To make a directory changes no file. -/
lemma makeDirectory_grows (h : t.makeDirectory current path = .ok t') : Grows new t t' :=
  Gains.grows (gains_of_makeDirectory rfl h)

/-! ### Making directories -/

/-- To ask whether a directory is there and else to refuse leaves the tree alone and answers as
`keep` does. -/
lemma run_keep (refusal : Refusal) :
    (do if ← (files current).isDirectory path then return .ok () else return .error refusal :
      StateM FileTree (Except Refusal Unit)).run t = (t.keep current path refusal, t) := by
  have hthere : ((files current).isDirectory path).run t =
      (t.kind? current path == some .directory, t) := rfl
  rw [run_bind_of_run hthere, keep]
  by_cases h : t.kind? current path = some .directory
  · rw [if_pos h, if_pos (beq_iff_eq.2 h)]
    rfl
  · rw [if_neg h, if_neg fun he => h (beq_iff_eq.1 he)]
    rfl

/-- To make a directory or to keep it: only where it cannot be made does the answer depend on what
is there. -/
lemma run_makeOrKeep : ((files current).makeOrKeep path).run t =
    match t.makeDirectory current path with
    | .ok t' => (.ok (), t')
    | .error refusal => (t.keep current path refusal, t) := by
  cases h : t.makeDirectory current path with
  | ok t' => exact run_bind_of_run (run_change_eq_ok_iff.2 h)
  | error refusal =>
    exact (run_bind_of_run (run_change_eq_error_iff.2 ⟨h, rfl⟩)).trans (run_keep refusal)

/-- One step of making the first of some directories. Only if something above is missing are the
others tried; if these are refused, so is the first, and else it is tried for the second time. -/
lemma run_makeFirst_cons (path : String) (above : List String) :
    ((files current).makeFirst (path :: above)).run t =
      match t.makeDirectory current path with
      | .ok t' => (.ok (), t')
      | .error .notFound =>
        match ((files current).makeFirst above).run t with
        | (.ok (), t') => ((files current).makeOrKeep path).run t'
        | (.error refusal, t') => (.error refusal, t')
      | .error refusal => (t.keep current path refusal, t) := by
  cases h : t.makeDirectory current path with
  | ok t' => exact run_bind_of_run (run_change_eq_ok_iff.2 h)
  | error refusal =>
    refine (run_bind_of_run (run_change_eq_error_iff.2 ⟨h, rfl⟩)).trans ?_
    by_cases hmissing : refusal = .notFound
    · subst hmissing
      rcases habove : ((files current).makeFirst above).run t with ⟨⟨⟩ | _, t'⟩
      · exact run_bind_of_run habove
      · exact run_bind_of_run habove
    · cases refusal <;> first | exact run_keep _ | exact absurd rfl hmissing

/-- A directory that was made is there.

**Proof sketch.** The path leads to the place where it was put, and it still does in the tree that
has grown. -/
lemma kind?_of_makeDirectory (h : t.makeDirectory current path = .ok t') :
    t'.kind? current path = some .directory := by
  have hgrows : Grows (fun _ => False) t t' := makeDirectory_grows h
  obtain ⟨name, place, hd, hn, hlocate, -, rfl⟩ := exists_put_of_makeDirectory h
  refine kind?_eq_directory_iff.2 ⟨_, locate_mono (fun _ => hgrows.isDirectory) hlocate, ?_⟩
  rw [isDirectory, node?_put, if_pos rfl]

/-- To make the first of the directories at once is to make only this one. -/
lemma making_of_makeDirectory (h : t.makeDirectory current path = .ok t') :
    Making current (path :: above) t (.ok (), t') where
  made := .single ⟨path, List.mem_cons_self .., h⟩
  kind?_eq := by
    rintro - _ ⟨⟩
    exact kind?_of_makeDirectory h

/-- To keep the first of the directories is to make none, and it is there unless this is refused. -/
lemma making_keep (refusal : Refusal) :
    Making current (path :: above) t (t.keep current path refusal, t) where
  made := .refl
  kind?_eq := by
    rintro hkept _ ⟨⟩
    by_contra hnot
    rw [keep, if_neg hnot] at hkept
    cases hkept

/-- To make the first of the directories or to keep it, whatever the tree. -/
lemma making_makeOrKeep :
    Making current (path :: above) t (((files current).makeOrKeep path).run t) := by
  rw [run_makeOrKeep]
  cases h : t.makeDirectory current path with
  | ok => exact making_of_makeDirectory h
  | error refusal => exact making_keep refusal

/-- **What it is to make the first of some directories.**

**Proof sketch.** By induction on the paths, for every tree. What is made of those above comes
before, and the first directory is made in the tree that they leave. If they are refused, the first
is not tried again, and nothing is promised of it. -/
theorem making_makeFirst (paths : List String) (t : FileTree) :
    Making current paths t (((files current).makeFirst paths).run t) := by
  induction paths generalizing t with
  | nil => exact ⟨.refl, fun _ _ h => by cases h⟩
  | cons path above ih =>
    rw [run_makeFirst_cons]
    split
    · rename_i h
      exact making_of_makeDirectory h
    · have habove := ih t
      have hmono : ∀ t', Relation.ReflTransGen (Made current above) t t' →
          Relation.ReflTransGen (Made current (path :: above)) t t' := fun t' =>
        Relation.ReflTransGen.mono
          (fun _ _ ⟨path, hmem, h⟩ => ⟨path, List.mem_cons_of_mem _ hmem, h⟩) _ _
      split
      · rename_i t' hrun
        rw [hrun] at habove
        have hlast : Making current (path :: above) t' (((files current).makeOrKeep path).run t') :=
          making_makeOrKeep
        exact ⟨(hmono _ habove.made).trans hlast.made, hlast.kind?_eq⟩
      · rename_i refusal t' hrun
        rw [hrun] at habove
        exact ⟨hmono _ habove.made, fun h => by cases h⟩
    · exact making_keep _

/-- What holds from each tree to the next one holds from the first to the last. All that is said of
making directories goes back to one directory by this lemma. -/
lemma Making.related {paths : List String} {out : Except Refusal Unit × FileTree}
    {R : FileTree → FileTree → Prop} (h : Making current paths t out) (hrefl : ∀ t, R t t)
    (htrans : ∀ t t' t'', R t t' → R t' t'' → R t t'')
    (hmade : ∀ path ∈ paths, ∀ t t', t.makeDirectory current path = .ok t' → R t t') : R t out.2 := by
  have hpaths := h.made
  generalize out.2 = t' at hpaths ⊢
  induction hpaths with
  | refl => exact hrefl t
  | tail _ hlast ih =>
    obtain ⟨path, hmem, hpath⟩ := hlast
    exact htrans _ _ _ ih (hmade path hmem _ _ hpath)

/-- Where directories are made no file changes. -/
lemma Making.grows {paths : List String} {out : Except Refusal Unit × FileTree}
    (h : Making current paths t out) : Grows new t out.2 :=
  h.related (fun _ => .refl) (fun _ _ _ => .trans) fun _ _ _ _ => makeDirectory_grows

/-- **To make directories adds directories**, and changes no file. -/
theorem adds_makeDirectories : Adds new ((files current).makeDirectories path) :=
  fun t => (making_makeFirst (Path.ancestors path) t).grows

/-- **Directories are made on the way of a path only.** -/
theorem gains_makeDirectories (t : FileTree) (current : Location) (path : String) :
    Gains (Path.Along current path) t (((files current).makeDirectories path).run t).2 :=
  (making_makeFirst (Path.ancestors path) t).related (fun _ => .refl) (fun _ _ _ => .trans)
    fun _ hmem _ _ => gains_of_makeDirectory (Path.along_of_mem_ancestors hmem)

/-- A directory that is made without a refusal is there. -/
lemma kind?_of_run_makeDirectories (hne : path ≠ "")
    (h : (((files current).makeDirectories path).run t).1 = .ok ()) :
    (((files current).makeDirectories path).run t).2.kind? current path = some .directory := by
  have hhead : path ∈ (Path.ancestors path).head? := by
    rw [Path.ancestors, if_neg fun he => hne (String.isEmpty_iff.1 he)]
    rfl
  exact (making_makeFirst (Path.ancestors path) t).kind?_eq h path hhead

/-! ### The way of a path that leads somewhere -/

/-- The way to a directory leads through directories, its own place among them.

**Proof sketch.** A walk goes on only from a directory (`isDirectory_of_walk`), and at the end of
the walk there is one by assumption. -/
lemma isDirectory_of_along (h : t.kind? current path = some .directory)
    (hp : Path.Along current path p) : t.isDirectory p := by
  obtain ⟨q, hlocate, hq⟩ := kind?_eq_directory_iff.1 h
  obtain ⟨front, ⟨rest, hsplit⟩, rfl⟩ := hp
  exact isDirectory_of_walk (hsplit ▸ (locate_eq_ok_iff.1 hlocate).2) fun _ => hq

/-- The way to anything leads through directories until its end. What stands at the end may be a
file. -/
lemma isDirectory_of_above (h : (t.kind? current path).isSome) (hp : Path.Above current path p) :
    t.isDirectory p := by
  obtain ⟨front, rest, hsplit, hrest, rfl⟩ := hp
  rw [kind?] at h
  cases hlookup : t.lookup current path with
  | error => rw [hlookup] at h; cases h
  | ok node =>
    obtain ⟨q, hlocate, -⟩ := lookup_eq_ok_iff.1 hlookup
    exact isDirectory_of_walk (hsplit ▸ (locate_eq_ok_iff.1 hlocate).2) fun hnil => absurd hnil hrest

/-- What passes for a file is one at the place of the path. -/
lemma exists_file?_of_kind? (h : t.kind? current path = some .file) :
    ∃ bytes, t.file? (Path.place current path) = some bytes := by
  rw [kind?] at h
  rcases hlookup : t.lookup current path with refusal | (bytes | _)
  · rw [hlookup] at h
    cases h
  · obtain ⟨p, hlocate, hnode, -⟩ := lookup_eq_ok_iff.1 hlookup
    exact ⟨bytes, locate_eq_place hlocate ▸ file?_eq_some_iff.2 hnode⟩
  · rw [hlookup] at h
    cases h

/-- There is no file where a directory is. -/
lemma file?_eq_none_of_isDirectory (h : t.isDirectory p) : t.file? p = none := by
  rw [file?, show t.node? p = some .directory from h]
  rfl

end FileTree

end RequestRunner
