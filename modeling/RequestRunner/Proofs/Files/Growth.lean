import RequestRunner.Proofs.Files.Places

/-!
# Trees that grow

To make a directory or to open a file for adding to it leaves all that is in a tree as it is, and puts
no file anywhere but where one is opened. To write a file changes the file at one place.

## Main definitions

* `FileTree.file?` — the bytes of the file at a place.
* `FileTree.Grows` — a tree has all of another, and new files only at certain places.
* `FileTree.Replaces` — a tree has another file at one place.
* `FileTree.Adds` — whatever a program finds, it only makes the tree grow.

## Main results

* `FileTree.Grows.read` — files in the tree that has grown.
* `FileTree.exists_put_of_makeDirectory`, `FileTree.replaces_of_update` — what the operations do.
* `FileTree.adds_openToAppend` — a program that only makes the tree grow.
-/

namespace RequestRunner

/-- The bytes of a file. -/
def FileNode.bytes? : FileNode → Option (List UInt8)
  | file bytes => some bytes
  | directory => none

namespace FileTree

/-- The bytes of the file at a place, if there is one. -/
def file? (t : FileTree) (p : Location) : Option (List UInt8) := (t.node? p).bind FileNode.bytes?

/-- The second tree has all that the first one has, and it has other files than the first one only at
places of `new`. -/
structure Grows (new : Location → Prop) (t t' : FileTree) : Prop where
  kept : ∀ p node, t.node? p = some node → t'.node? p = some node
  file?_eq : ∀ p, ¬ new p → t'.file? p = t.file? p

/-- The second tree has the file `bytes` at `place`, and else the files of the first one and at least
its directories. -/
structure Replaces (place : Location) (bytes : List UInt8) (t t' : FileTree) : Prop where
  isDirectory : ∀ p, t.isDirectory p → t'.isDirectory p
  file?_eq : ∀ p, t'.file? p = if p = place then some bytes else t.file? p

variable {t t' t'' : FileTree} {p q place current : Location} {name path : String} {node : FileNode}
  {bytes : List UInt8} {new : Location → Prop}

/-- There is a file at a place if and only if the tree has one there. -/
lemma file?_eq_some_iff : t.file? p = some bytes ↔ t.node? p = some (.file bytes) := by
  rw [file?]
  rcases t.node? p with _ | bytes | _ <;> simp [FileNode.bytes?]

/-! ### What paths lead to -/

/-- What a path leads to is what stands at its place. A path that ends in a slash leads to
directories only. -/
lemma lookup_eq_ok_iff : t.lookup current path = .ok node ↔
    ∃ p, t.locate current path = .ok p ∧ t.node? p = some node ∧
      (node ≠ .directory → Path.endsInSlash path = false) := by
  rw [lookup]
  cases hp : t.locate current path with
  | error refusal => simp [bind, Except.bind]
  | ok p =>
    rcases hnode : t.node? p with _ | bytes | _
    · simp [bind, Except.bind, hnode]
    · simp only [bind, Except.bind, hnode]
      cases hslash : Path.endsInSlash path <;> grind
    · simp only [bind, Except.bind, hnode]
      grind

/-- **Which paths lead to a file**: those that lead to a place where one stands, and that do not end
in a slash. -/
theorem read_eq_ok_iff : t.read current path = .ok bytes ↔
    ∃ p, t.locate current path = .ok p ∧ t.file? p = some bytes ∧ Path.endsInSlash path = false := by
  have hread : t.read current path = .ok bytes ↔ t.lookup current path = .ok (.file bytes) := by
    rw [read]
    rcases t.lookup current path with refusal | (content | _) <;> simp [bind, Except.bind]
  rw [hread, lookup_eq_ok_iff]
  simp [file?_eq_some_iff]

/-- A path is that of a directory if and only if it leads to a place where one stands. For
directories the slash at the end does no harm. -/
lemma kind?_eq_directory_iff : t.kind? current path = some .directory ↔
    ∃ p, t.locate current path = .ok p ∧ t.isDirectory p := by
  have hkind : t.kind? current path = some .directory ↔ t.lookup current path = .ok .directory := by
    rw [kind?]
    rcases t.lookup current path with refusal | (content | _) <;> simp
  rw [hkind, lookup_eq_ok_iff]
  simp [isDirectory]

namespace Grows

/-- A tree has all that it has. -/
lemma refl : Grows new t t := ⟨fun _ _ h => h, fun _ _ => rfl⟩

/-- To grow twice is to grow. -/
lemma trans (h : Grows new t t') (h' : Grows new t' t'') : Grows new t t'' :=
  ⟨fun p node hp => h'.kept p node (h.kept p node hp),
    fun p hp => (h'.file?_eq p hp).trans (h.file?_eq p hp)⟩

/-- A directory stays one. -/
lemma isDirectory (h : Grows new t t') (hp : t.isDirectory p) : t'.isDirectory p := h.kept p _ hp

/-- A file that a path leads to holds what it held.

**Proof sketch.** The path still leads to the same place, since all directories are kept
(`locate_mono`), and the file there is kept. -/
theorem read (h : Grows new t t') (hp : t.read current path = .ok bytes) :
    t'.read current path = .ok bytes := by
  obtain ⟨p, hlocate, hfile, hslash⟩ := read_eq_ok_iff.1 hp
  refine read_eq_ok_iff.2 ⟨p, locate_mono (fun _ => h.isDirectory) hlocate, ?_, hslash⟩
  exact file?_eq_some_iff.2 (h.kept p _ (file?_eq_some_iff.1 hfile))

end Grows

/-! ### Operations -/

/-- The files after one was put: the new one at its place, and else those from before. -/
lemma file?_put {hd : t.isDirectory place} {hn : ¬ t.isDirectory (name :: place)} :
    (t.put place name (.file bytes) hd hn).file? p =
      if p = name :: place then some bytes else t.file? p := by
  rw [file?, node?_put]
  split
  · rfl
  · rfl

/-- **To make a directory** puts it where nothing is.

**Proof sketch.** The operation is taken apart check by check. Only one of its branches succeeds,
and what the checks before it say is the claim. -/
theorem exists_put_of_makeDirectory (h : t.makeDirectory current path = .ok t') :
    ∃ name place hd hn, t.locate current path = .ok (name :: place) ∧
      t.node? (name :: place) = none ∧ t' = t.put place name .directory hd hn := by
  rw [makeDirectory] at h
  cases hp : t.locate current path with
  | error refusal => simp [hp, bind, Except.bind] at h
  | ok p =>
    simp only [hp, bind, Except.bind] at h
    split at h
    · cases h
    rename_i name place
    split at h
    · cases h
    rename_i hnone
    split at h
    · rename_i hput
      exact ⟨name, place, hput.1, hput.2, rfl, Option.not_isSome_iff_eq_none.1 hnone,
        (Except.ok.inj h).symm⟩
    · cases h

/-- **To write a file** replaces the file at the place of the path, or makes it.

**Proof sketch.** As for directories, only one branch succeeds. In it a file is put at a place that
is no directory, so every directory is kept, and the new content is made from the old one, or from
nothing. -/
theorem replaces_of_update {content : List UInt8 → List UInt8}
    (h : t.update current path content = .ok t') :
    t.locate current path = .ok (Path.place current path) ∧ Path.endsInSlash path = false ∧
      Replaces (Path.place current path)
        (content ((t.file? (Path.place current path)).getD [])) t t' := by
  rw [update] at h
  cases hp : t.locate current path with
  | error refusal => simp [hp, bind, Except.bind] at h
  | ok p =>
    rw [← locate_eq_place hp]
    simp only [hp, bind, Except.bind] at h
    split at h
    · cases h
    rename_i name place
    split at h
    · cases h
    rename_i hslash
    split at h
    · rename_i hput
      obtain rfl := Except.ok.inj h
      refine ⟨rfl, Bool.eq_false_iff.2 hslash, fun p hp => ?_, fun p => ?_⟩
      · -- what is put is put where no directory was
        have hne : p ≠ name :: place := fun he => hput.2 (he ▸ hp)
        rw [isDirectory, node?_put, if_neg hne]
        exact hp
      · rw [file?_put]
        rcases hnode : t.node? (name :: place) with _ | bytes | _ <;>
          simp [file?, hnode, FileNode.bytes?]
    · split at h <;> cases h

/-- A file that can be read can be written.

**Proof sketch.** A file is not at the root, so it is named in a directory, and the tree has the
directory of all that it has. This is all that is asked before a file is put. -/
lemma exists_update_eq_ok (h : t.read current path = .ok bytes) (content : List UInt8 → List UInt8) :
    ∃ t', t.update current path content = .ok t' := by
  obtain ⟨p, hlocate, hfile, hslash⟩ := read_eq_ok_iff.1 h
  have hnode := file?_eq_some_iff.1 hfile
  rcases p with _ | ⟨name, place⟩
  · -- the root is a directory, and no file
    rw [t.root] at hnode
    cases hnode
  · have hd : t.isDirectory place := t.above name place (by rw [hnode]; rfl)
    have hn : ¬ t.isDirectory (name :: place) := by
      rw [isDirectory, hnode]
      exact fun h => by cases h
    refine ⟨t.put place name (.file (content bytes)) hd hn, ?_⟩
    simp only [update, hlocate, bind, Except.bind, hslash, hnode, Bool.false_eq_true, if_false]
    rw [dif_pos ⟨hd, hn⟩]

namespace Replaces

/-- The file that was written can be read at its path. -/
lemma read_self (h : Replaces (Path.place current path) bytes t t')
    (hlocate : t.locate current path = .ok (Path.place current path))
    (hslash : Path.endsInSlash path = false) : t'.read current path = .ok bytes :=
  read_eq_ok_iff.2 ⟨_, locate_mono h.isDirectory hlocate, by rw [h.file?_eq, if_pos rfl], hslash⟩

/-- A file that a path leads to holds what it held, unless it is the one that is replaced. The path
may be another one than that by which the file was written, as long as both name the same place. -/
lemma read_eq (h : Replaces place bytes t t') {old : List UInt8}
    (hp : t.read current path = .ok old) :
    t'.read current path = .ok (if Path.place current path = place then bytes else old) := by
  obtain ⟨p, hlocate, hfile, hslash⟩ := read_eq_ok_iff.1 hp
  refine read_eq_ok_iff.2 ⟨p, locate_mono h.isDirectory hlocate, ?_, hslash⟩
  rw [h.file?_eq, ← locate_eq_place hlocate]
  split
  · rfl
  · exact hfile

/-- A file that is replaced by what it holds is left alone. -/
lemma grows (h : Replaces place bytes t t') (hold : ∀ old, t.file? place = some old → old = bytes) :
    Grows (· = place) t t' := by
  refine ⟨fun p node hp => ?_, fun p hp => by rw [h.file?_eq, if_neg hp]⟩
  cases node with
  | directory => exact h.isDirectory p hp
  | file old =>
    rw [← file?_eq_some_iff] at hp ⊢
    rw [h.file?_eq]
    split
    · rename_i he
      rw [hold old (he ▸ hp)]
    · exact hp

end Replaces

/-! ### Programs that add -/

/-- Whatever tree a program finds, it only makes it grow. -/
def Adds {α : Type} (new : Location → Prop) (x : StateM FileTree α) : Prop :=
  ∀ t, Grows new t (x.run t).2

section

variable {α β : Type} {x : StateM FileTree α} {f : α → StateM FileTree β}

/-- A program goes on with the answer of its first part, in the tree that this leaves. -/
lemma run_bind_of_run {a : α} (h : x.run t = (a, t')) : (x >>= f).run t = (f a).run t' := by
  show (f (x.run t).1).run (x.run t).2 = _
  rw [h]

/-- What a program did, it did in two parts. -/
lemma exists_of_run_bind {b : β} (h : (x >>= f).run t = (b, t'')) :
    ∃ a t', x.run t = (a, t') ∧ (f a).run t' = (b, t'') := ⟨_, _, rfl, h⟩

/-- To answer makes nothing. -/
lemma adds_pure {a : α} : Adds new (pure a) := fun _ => .refl

/-- The tree that a program leaves has all that it found, if it only makes trees grow. -/
lemma Adds.grows {a : α} (h : Adds new x) (hrun : x.run t = (a, t')) : Grows new t t' := by
  have hgrows := h t
  rwa [hrun] at hgrows

/-- A program only makes trees grow if both its parts do, the second one after every answer. -/
lemma Adds.bind (hx : Adds new x) (hf : ∀ a, Adds new (f a)) : Adds new (x >>= f) :=
  fun t => (hx t).trans (hf _ _)

/-- To ask what a path leads to makes nothing. -/
lemma adds_kind? : Adds new ((files current).kind? path) := fun _ => .refl

/-- A change is done if and only if it is not refused, and then the tree is the changed one. -/
lemma run_change_eq_ok_iff {next : FileTree → Except Refusal FileTree} :
    (change next).run t = (.ok (), t') ↔ next t = .ok t' := by
  show @Eq (Except Refusal Unit × FileTree) (change next t) _ ↔ _
  rw [change]
  cases next t <;> simp

/-- A change that is refused leaves the tree as it is. -/
lemma run_change_eq_error_iff {next : FileTree → Except Refusal FileTree} {refusal : Refusal} :
    (change next).run t = (.error refusal, t') ↔ next t = .error refusal ∧ t' = t := by
  show @Eq (Except Refusal Unit × FileTree) (change next t) _ ↔ _
  rw [change]
  cases next t <;> simp [eq_comm]

/-- What is refused is not done. -/
lemma adds_change {next : FileTree → Except Refusal FileTree}
    (h : ∀ t t', next t = .ok t' → Grows new t t') : Adds new (change next) := by
  intro t
  rcases hrun : (change next).run t with ⟨_ | _, t'⟩
  · obtain ⟨-, rfl⟩ := run_change_eq_error_iff.1 hrun
    exact .refl
  · exact h t t' (run_change_eq_ok_iff.1 hrun)

/-- A file that is opened for adding keeps what it holds, and is empty if it is new. -/
theorem adds_openToAppend : Adds (· = Path.place current path) ((files current).openToAppend path) :=
  adds_change fun _ _ h => (replaces_of_update h).2.2.grows fun old hold => by
    rw [hold, id_eq, Option.getD_some]

/-- To ask whether anything is at a path makes nothing. -/
lemma adds_isThere : Adds new ((files current).isThere path) := adds_kind?.bind fun _ => adds_pure

end

end FileTree

end RequestRunner
