import Mathlib.Algebra.Order.BigOperators.Group.List
import Mathlib.Algebra.Order.Ring.Nat
import RequestRunner.Proofs.Files.Directories

/-!
# Free ways

Where directories are made along a path of plain names, nothing but a regular file can stand in the
way: what is missing is made from the top, and what is there is kept.

## Main definitions

* `Path.Plain` — a path of names of files and directories that is not too long.
* `FileTree.Free` — no regular file is on the way of a path.

## Main results

* `Path.Plain.ofNames` — the directories above a plain path are plain.
* `FileTree.makeDirectory_cases` — what becomes of one directory on a free way.
* `FileTree.makeDirectories_eq_ok_iff` — when directories are made.
-/

namespace RequestRunner

/-! ### Plain paths -/

namespace Path

/-- The names of the path are such of files and directories, and neither one of them nor the path is too
long. -/
structure Plain (path : String) : Prop where
  isName : ∀ name ∈ names path, IsName name
  size_name_le : ∀ name ∈ names path, name.utf8ByteSize ≤ FileTree.longestName
  ne_empty : path ≠ ""
  not_mem : '\x00' ∉ path.toList
  size_le : path.utf8ByteSize ≤ FileTree.longestPath

variable {path name : String} {parts sub : List String} {absolute : Bool} {c : Char}

/-- The size of parts with slashes between them. Counted with one slash for each part, there is one
slash too many. -/
lemma size_intercalate (hne : parts ≠ []) : ("/".intercalate parts).utf8ByteSize + 1 =
    (parts.map fun part => part.utf8ByteSize + 1).sum := by
  have hslash : "/".utf8ByteSize = 1 := rfl
  induction parts with
  | nil => exact absurd rfl hne
  | cons part rest ih =>
    cases rest with
    | nil => simp
    | cons next rest =>
      have hrest := ih (List.cons_ne_nil _ _)
      rw [String.intercalate_cons_cons, String.utf8ByteSize_append, String.utf8ByteSize_append, hslash,
        List.map_cons, List.sum_cons, ← hrest]
      omega

/-- A character of parts with slashes between them is a slash or one of a part.

**Proof sketch.** By induction on the parts: the character is in the first part, is the slash behind
it, or is in the others. -/
lemma mem_of_mem_intercalate (h : c ∈ ("/".intercalate parts).toList) :
    c = '/' ∨ ∃ part ∈ parts, c ∈ part.toList := by
  induction parts with
  | nil => simp at h
  | cons part rest ih =>
    cases rest with
    | nil => simpa using .inr h
    | cons next rest =>
      rw [String.intercalate_cons_cons, String.toList_append, String.toList_append, List.mem_append,
        List.mem_append] at h
      rcases h with (h | h) | h
      · exact .inr ⟨part, List.mem_cons_self .., h⟩
      · exact .inl (by simpa using h)
      · exact (ih h).imp_right fun ⟨part, hpart, hc⟩ => ⟨part, List.mem_cons_of_mem _ hpart, hc⟩

/-- A character of a part stands in the parts with slashes between them. -/
lemma mem_intercalate (hname : name ∈ parts) (hc : c ∈ name.toList) :
    c ∈ ("/".intercalate parts).toList := by
  induction parts with
  | nil => cases hname
  | cons part rest ih =>
    cases rest with
    | nil => simp_all
    | cons next rest =>
      rw [String.intercalate_cons_cons, String.toList_append, List.mem_append]
      rcases List.mem_cons.1 hname with rfl | hname
      · exact .inl (by simp [hc])
      · exact .inr (ih hname)

/-- The parts of a path with slashes between them are the path. -/
lemma intercalate_splitText (path : String) : "/".intercalate (Text.splitText '/' path) = path :=
  Text.intercalate_splitText rfl path

/-- Some names of a path, written from where it starts, are some parts of its text.

**Proof sketch.** The names are the parts that are not empty, so names of a relative path are parts
as they stand. An absolute path begins with an empty part, and to write it in front of the names
writes the slash in front. -/
lemma exists_ofNames_eq (hne : sub ≠ []) (h : sub.Sublist (names path)) :
    ∃ chosen, chosen ≠ [] ∧ chosen.Sublist (Text.splitText '/' path) ∧
      ofNames (isAbsolute path) sub = "/".intercalate chosen := by
  have hparts : (names path).Sublist (Text.splitText '/' path) := List.filter_sublist
  cases habs : isAbsolute path with
  | false => exact ⟨sub, hne, h.trans hparts, String.empty_append⟩
  | true =>
    -- The first part is empty, and so no name, but it is what the slash in front stands for.
    obtain ⟨cs, hcs⟩ := List.head?_eq_some_iff.1 (beq_iff_eq.1 habs)
    have hsplit : Text.splitText '/' path = "" :: (Text.split '/' cs).map String.ofList := by
      rw [Text.splitText, hcs, Text.split, if_pos rfl]
      rfl
    have hnames : (names path).Sublist ((Text.split '/' cs).map String.ofList) := by
      rw [names, hsplit, List.filter_cons_of_neg (by decide)]
      exact List.filter_sublist
    refine ⟨"" :: sub, List.cons_ne_nil _ _, hsplit ▸ (h.trans hnames).cons_cons "", ?_⟩
    obtain ⟨part, rest, rfl⟩ := List.exists_cons_of_ne_nil hne
    rw [String.intercalate_cons_cons, String.empty_append]
    rfl

/-- Some names of a path, written from where it starts, take no more bytes than the path.

**Proof sketch.** They are some parts of the path (`exists_ofNames_eq`), and both sizes are sums
over parts (`size_intercalate`). A sum over fewer of the parts is no greater. -/
lemma size_ofNames_le (hne : sub ≠ []) (h : sub.Sublist (names path)) :
    (ofNames (isAbsolute path) sub).utf8ByteSize ≤ path.utf8ByteSize := by
  obtain ⟨chosen, hchosen, hparts, heq⟩ := exists_ofNames_eq hne h
  have hsplit : Text.splitText '/' path ≠ [] := fun hnil => hchosen (List.sublist_nil.1 (hnil ▸ hparts))
  have hpath := size_intercalate hsplit
  have hle : (chosen.map fun part => part.utf8ByteSize + 1).sum ≤
      ((Text.splitText '/' path).map fun part => part.utf8ByteSize + 1).sum :=
    (hparts.map _).sum_le_sum fun _ _ => Nat.zero_le _
  rw [intercalate_splitText] at hpath
  rw [heq]
  have hsize := size_intercalate hchosen
  omega

/-- Some names of a path, written from where it starts, have no character that the path has not, but
for the slash. -/
lemma mem_of_mem_ofNames (hne : sub ≠ []) (h : sub.Sublist (names path))
    (hc : c ∈ (ofNames (isAbsolute path) sub).toList) : c = '/' ∨ c ∈ path.toList := by
  obtain ⟨chosen, -, hparts, heq⟩ := exists_ofNames_eq hne h
  rw [heq] at hc
  refine (mem_of_mem_intercalate hc).imp_right fun ⟨part, hpart, hmem⟩ => ?_
  rw [← intercalate_splitText path]
  exact mem_intercalate (hparts.subset hpart) hmem

/-- The paths along the first names of a path, `n` of them or fewer, the nearest first. -/
def firstWays (path : String) (n : Nat) : List String :=
  (List.range' 1 n).reverse.map fun k => ofNames (isAbsolute path) ((names path).take k)

/-- The path along one name more comes before the others, as it is the nearest. -/
lemma firstWays_succ (path : String) (n : Nat) : firstWays path (n + 1) =
    ofNames (isAbsolute path) ((names path).take (n + 1)) :: firstWays path n := by
  rw [firstWays, List.range'_concat, List.reverse_concat, List.map_cons, Nat.one_mul, Nat.add_comm 1 n,
    firstWays]

/-- **The directories above a plain path are plain**: they are written with some of its names, and
with no more bytes. -/
theorem Plain.ofNames (h : Plain path) (hne : sub ≠ []) (hsub : sub.Sublist (names path)) :
    Plain (ofNames (isAbsolute path) sub) := by
  have hnames : names (Path.ofNames (isAbsolute path) sub) = sub :=
    names_ofNames (of_mem_sublist_names hsub)
  refine ⟨fun name hname => h.isName name (hsub.subset (hnames ▸ hname)),
    fun name hname => h.size_name_le name (hsub.subset (hnames ▸ hname)), fun hempty => hne ?_,
    fun hzero => ?_, Nat.le_trans (size_ofNames_le hne hsub) h.size_le⟩
  · rw [← hnames, hempty]
    rfl
  · rcases mem_of_mem_ofNames hne hsub hzero with hslash | hmem
    · exact absurd hslash (by decide)
    · exact h.not_mem hmem

/-- What is made for a plain path: the path itself, and before it the paths along its first names.
No name is `.`, so none is left out. -/
lemma Plain.ancestors_eq (h : Plain path) :
    ancestors path = path :: firstWays path ((names path).length - 1) := by
  have hall : (names path).filter (· != ".") = names path :=
    List.filter_eq_self.2 fun name hname => by simpa using (h.isName name hname).ne_here
  rw [ancestors, if_neg fun he => h.ne_empty (String.isEmpty_iff.1 he), hall, firstWays]

end Path

/-! ### Free ways -/

namespace FileTree

/-- The path is plain, it starts in a directory, and no regular file is on its way. -/
structure Free (t : FileTree) (current : Location) (path : String) : Prop where
  plain : Path.Plain path
  start : t.isDirectory (Path.start current path)
  file?_eq_none : ∀ p, Path.Along current path p → t.file? p = none

variable {t t' : FileTree} {p current : Location} {names : List String} {path : String}

/-- Where nothing is in the way of plain names, a walk along them ends only for what is missing.

**Proof sketch.** By induction on the names. From a directory the walk goes on, since the next name
is plain and short enough; a file is excluded; and where nothing is, the walk ends at a place that
is no directory, with names left. -/
lemma walk_cases (hnames : ∀ name ∈ names, Path.IsName name ∧ name.utf8ByteSize ≤ longestName)
    (hfree : ∀ front, front <+: names → t.file? (front.foldl Path.follow p) = none) :
    t.walk p names = .ok (names.foldl Path.follow p) ∨
      t.walk p names = .error .notFound ∧
        ∃ front rest, names = front ++ rest ∧ rest ≠ [] ∧ ¬ t.isDirectory (front.foldl Path.follow p) := by
  induction names generalizing p with
  | nil => exact .inl rfl
  | cons name names ih =>
    obtain ⟨⟨hname, hsize⟩, hrest⟩ := List.forall_mem_cons.1 hnames
    rcases hnode : t.node? p with _ | bytes | _
    · -- nothing is here: the walk ends before its next name
      refine .inr ⟨by rw [walk, hnode], [], _, rfl, List.cons_ne_nil _ _, fun hd => ?_⟩
      rw [List.foldl_nil, isDirectory, hnode] at hd
      cases hd
    · -- a file is here, which is excluded by the empty beginning of the way
      have hfile := hfree [] List.nil_prefix
      rw [List.foldl_nil, file?, hnode] at hfile
      cases hfile
    · -- a directory is here, and the name is neither special nor too long
      have hwalk : t.walk p (name :: names) = t.walk (Path.follow p name) names := by
        rw [walk, hnode, Path.follow_of_isName hname]
        simp only [if_neg hname.ne_here, if_neg hname.ne_above, if_neg (Nat.not_lt.2 hsize)]
      have hfree' : ∀ front, front <+: names →
          t.file? (front.foldl Path.follow (Path.follow p name)) = none := fun front hfront =>
        hfree (name :: front) (List.cons_prefix_cons.2 ⟨rfl, hfront⟩)
      rw [hwalk, List.foldl_cons]
      rcases ih hrest hfree' with hok | ⟨herror, front, rest, hsplit, hne, hd⟩
      · exact .inl hok
      · exact .inr ⟨herror, name :: front, rest, by rw [hsplit, List.cons_append], hne, hd⟩

/-- To follow a plain path is to walk along its names: no check of the path as a whole refuses it.
-/
lemma locate_of_plain (h : Path.Plain path) :
    t.locate current path = t.walk (Path.start current path) (Path.names path) := by
  have hzero : path.toList.contains '\x00' = false := by simpa using h.not_mem
  have hempty : path.isEmpty = false := by simpa using h.ne_empty
  rw [locate, hzero, hempty, if_neg (Nat.not_lt.2 h.size_le)]
  rfl

/-- What a plain path leads to, at least as far as there are directories. -/
lemma Free.locate_cases (h : t.Free current path) :
    t.locate current path = .ok (Path.place current path) ∨
      t.locate current path = .error .notFound ∧
        ∃ p, Path.Above current path p ∧ ¬ t.isDirectory p := by
  rw [locate_of_plain h.plain]
  refine (walk_cases (fun name hname => ⟨h.plain.isName name hname, h.plain.size_name_le name hname⟩)
    fun front hfront => h.file?_eq_none _ ⟨front, hfront, rfl⟩).imp_right ?_
  rintro ⟨herror, front, rest, hsplit, hne, hd⟩
  exact ⟨herror, _, ⟨front, rest, hsplit, hne, rfl⟩, hd⟩

/-- A place that a plain path leads to, where nothing is, is in a directory.

**Proof sketch.** The path has a name, since where it starts there is a directory. The place is that
of the last name, and the walk to it goes on from the place before, which is therefore a directory.
-/
lemma Free.exists_place_eq (h : t.Free current path)
    (hlocate : t.locate current path = .ok (Path.place current path))
    (hnone : t.node? (Path.place current path) = none) :
    ∃ name place, Path.place current path = name :: place ∧ t.isDirectory place := by
  have hwalk := (locate_eq_ok_iff.1 hlocate).2
  rcases List.eq_nil_or_concat (Path.names path) with hnil | ⟨front, name, hsplit⟩
  · -- a path without names ends where it starts, and there something is
    have hd := h.start
    rw [Path.place, hnil, List.foldl_nil] at hnone
    rw [isDirectory, hnone] at hd
    cases hd
  · rw [List.concat_eq_append] at hsplit
    have hname : Path.IsName name := h.plain.isName name (by rw [hsplit]; simp)
    refine ⟨name, front.foldl Path.follow (Path.start current path), ?_, ?_⟩
    · rw [Path.place, hsplit, List.foldl_append, List.foldl_cons, List.foldl_nil,
        Path.follow_of_isName hname]
    · exact isDirectory_of_walk (hsplit ▸ hwalk) fun hnil => absurd hnil (List.cons_ne_nil _ _)

/-- **What becomes of one directory on a free way**: it is made, or it is there, or one above it is
missing.

**Proof sketch.** If the path leads to its place, either nothing is there and the directory can be
put, or a directory is there, as files are excluded. Otherwise the walk ended at a place above that
is no directory (`Free.locate_cases`). -/
theorem makeDirectory_cases (h : t.Free current path) :
    (∃ t', t.makeDirectory current path = .ok t') ∨
      (t.makeDirectory current path = .error .alreadyExists ∧
        t.kind? current path = some .directory) ∨
      (t.makeDirectory current path = .error .notFound ∧
        ∃ p, Path.Above current path p ∧ ¬ t.isDirectory p) := by
  rcases h.locate_cases with hlocate | ⟨herror, hmissing⟩
  · rcases hnode : t.node? (Path.place current path) with _ | bytes | _
    · -- nothing is at the place, so it is one in a directory and can be put
      obtain ⟨name, place, hplace, hd⟩ := h.exists_place_eq hlocate hnode
      rw [hplace] at hlocate hnode
      have hn : ¬ t.isDirectory (name :: place) := by
        rw [isDirectory, hnode]
        exact (Option.some_ne_none _).symm
      refine .inl ⟨t.put place name .directory hd hn, ?_⟩
      simp only [makeDirectory, hlocate, bind, Except.bind, hnode, Option.isSome_none,
        Bool.false_eq_true, if_false]
      exact dif_pos ⟨hd, hn⟩
    · -- a file at the place itself would be on the way
      have hfile := h.file?_eq_none _ Path.along_place
      rw [file?, hnode] at hfile
      cases hfile
    · refine .inr (.inl ⟨?_, kind?_eq_directory_iff.2 ⟨_, hlocate, hnode⟩⟩)
      rw [makeDirectory, hlocate]
      dsimp only [bind, Except.bind]
      split
      · rfl
      · rename_i heq
        rw [if_pos (by rw [← heq, hnode]; rfl)]
  · refine .inr (.inr ⟨?_, hmissing⟩)
    rw [makeDirectory, herror]
    rfl

/-! ### Making directories on free ways -/

namespace Free

/-- A way stays free where no file is added. -/
lemma of_grows (h : t.Free current path) (hgrows : Grows (fun _ => False) t t') :
    t'.Free current path where
  plain := h.plain
  start := hgrows.isDirectory h.start
  file?_eq_none p hp := (hgrows.file?_eq p id).trans (h.file?_eq_none p hp)

/-- The way to a directory above is free: it starts where the whole way does, and all its places are
on the whole way. -/
lemma ofNames (h : t.Free current path) (hne : names ≠ []) (hfirst : names <+: Path.names path) :
    t.Free current (Path.ofNames (Path.isAbsolute path) names) := by
  have hstart : Path.start current (Path.ofNames (Path.isAbsolute path) names) =
      Path.start current path := Path.start_ofNames hne hfirst.sublist
  refine ⟨h.plain.ofNames hne hfirst.sublist, hstart ▸ h.start, ?_⟩
  rintro p ⟨front, hfront, rfl⟩
  rw [Path.names_ofNames (Path.of_mem_sublist_names hfirst.sublist)] at hfront
  exact h.file?_eq_none _ ⟨front, hfront.trans hfirst, by rw [hstart]⟩

/-- The directory at the end of a free way is there afterwards if those above it are made first.

**Proof sketch.** At the first try it is made, or it is there, or something above is missing
(`makeDirectory_cases`). In the last case those above are made, and then the second try cannot find
anything missing. -/
lemma makeFirst_cons_eq_ok {above : List String} (h : t.Free current path)
    (hok : (((files current).makeFirst above).run t).1 = .ok ())
    (hd : ∀ p, Path.Above current path p →
      (((files current).makeFirst above).run t).2.isDirectory p) :
    (((files current).makeFirst (path :: above)).run t).1 = .ok () := by
  have hgrows : Grows (fun _ => False) t (((files current).makeFirst above).run t).2 :=
    (making_makeFirst above t).grows
  rcases hrun : ((files current).makeFirst above).run t with ⟨made, t'⟩
  rw [hrun] at hok hd hgrows
  obtain rfl : made = .ok () := hok
  rw [run_makeFirst_cons]
  rcases makeDirectory_cases h with ⟨t'', hmade⟩ | ⟨hthere, hkind⟩ | ⟨hmissing, -⟩
  · rw [hmade]
  · rw [hthere]
    exact if_pos hkind
  · rw [hmissing]
    simp only [hrun]
    rw [run_makeOrKeep]
    rcases makeDirectory_cases (h.of_grows hgrows) with ⟨t'', hmade⟩ | ⟨hthere, hkind⟩ | ⟨-, p, hp, hnot⟩
    · rw [hmade]
    · rw [hthere]
      exact if_pos hkind
    · exact absurd (hd p hp) hnot

end Free

/-- Where more names follow the first ones, these are among all but the last one. -/
lemma prefix_take_of_append {front rest : List String} (h : names = front ++ rest) (hne : rest ≠ []) :
    front <+: names.take (names.length - 1) := by
  have hrest := List.length_pos_iff.2 hne
  rw [h, List.length_append]
  refine List.prefix_of_prefix_length_le (List.prefix_append ..) (List.take_prefix ..) ?_
  rw [List.length_take, List.length_append]
  omega

/-- **Directories above are made from the top**: when they have been made along the first names of a
free way, there are directories as far as these names go.

**Proof sketch.** By induction on the number of names. Those above the last one are directories before
it is tried for the second time, so that nothing is missing then (`Free.makeFirst_cons_eq_ok`). -/
theorem Free.makeFirst_firstWays (h : t.Free current path) {n : Nat} (hn : n ≤ (Path.names path).length) :
    (((files current).makeFirst (Path.firstWays path n)).run t).1 = .ok () ∧
      ∀ front, front <+: (Path.names path).take n →
        (((files current).makeFirst (Path.firstWays path n)).run t).2.isDirectory
          (front.foldl Path.follow (Path.start current path)) := by
  induction n with
  | zero =>
    refine ⟨rfl, fun front hfront => ?_⟩
    rw [List.take_zero, List.prefix_nil] at hfront
    rw [hfront]
    exact h.start
  | succ n ih =>
    obtain ⟨hok, hd⟩ := ih (by omega)
    have hlength : ((Path.names path).take (n + 1)).length = n + 1 := List.length_take_of_le hn
    have hne : (Path.names path).take (n + 1) ≠ [] := List.ne_nil_of_length_eq_add_one hlength
    have hfirst : (Path.names path).take (n + 1) <+: Path.names path := List.take_prefix ..
    have hparts := Path.of_mem_sublist_names hfirst.sublist
    have hstart : Path.start current
        (Path.ofNames (Path.isAbsolute path) ((Path.names path).take (n + 1))) =
          Path.start current path := Path.start_ofNames hne hfirst.sublist
    have hmade : (((files current).makeFirst (Path.firstWays path (n + 1))).run t).1 = .ok () := by
      rw [Path.firstWays_succ]
      refine (h.ofNames hne hfirst).makeFirst_cons_eq_ok hok ?_
      rintro p ⟨front, rest, hsplit, hrest, rfl⟩
      rw [Path.names_ofNames hparts] at hsplit
      have hfront := prefix_take_of_append hsplit hrest
      rw [hlength, Nat.add_sub_cancel, List.take_take, Nat.min_eq_left (Nat.le_succ n)] at hfront
      rw [hstart]
      exact hd front hfront
    refine ⟨hmade, fun front hfront => ?_⟩
    have hkind := (making_makeFirst (Path.firstWays path (n + 1)) t).kind?_eq hmade
      (Path.ofNames (Path.isAbsolute path) ((Path.names path).take (n + 1)))
      (by rw [Path.firstWays_succ]; rfl)
    exact isDirectory_of_along hkind ⟨front, by rwa [Path.names_ofNames hparts], by rw [hstart]⟩

/-- **When directories are made.** Along a plain path that starts in a directory there is no refusal
if and only if there is no regular file.

**Proof sketch.** After success the way leads through directories, and where a directory is
afterwards no file was before. If there is no file, the way is free, those above are made along its
first names (`Free.makeFirst_firstWays`), and then the last one. -/
theorem makeDirectories_eq_ok_iff (hplain : Path.Plain path)
    (hstart : t.isDirectory (Path.start current path)) :
    (((files current).makeDirectories path).run t).1 = .ok () ↔
      ∀ p, Path.Along current path p → t.file? p = none := by
  constructor
  · intro hok p hp
    have hd := isDirectory_of_along (kind?_of_run_makeDirectories hplain.ne_empty hok) hp
    exact (gains_makeDirectories t current path).file?_eq_none hd
  · intro hfree
    have h : t.Free current path := ⟨hplain, hstart, hfree⟩
    obtain ⟨hok, hd⟩ := h.makeFirst_firstWays (Nat.sub_le (Path.names path).length 1)
    rw [FileSystem.makeDirectories, hplain.ancestors_eq]
    refine h.makeFirst_cons_eq_ok hok ?_
    rintro p ⟨front, rest, hsplit, hrest, rfl⟩
    exact hd front (prefix_take_of_append hsplit hrest)

end FileTree

end RequestRunner
