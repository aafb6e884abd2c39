import RequestRunner.Files.FileTree
import RequestRunner.Proofs.Text.Lines

/-!
# Places that paths name

A path names a place whether or not the directories on the way are there: each of its names goes one
step down, but `.` stays and `..` goes up. Where the directories are there, a walk through the tree
leads to this place and to no other, and it still does when more is there.

## Main definitions

* `Path.place` — the place that a path names.
* `Path.Along`, `Path.Above` — the places on the way of a path, with its own or without.

## Main results

* `Path.place_join` — the place of something in a directory.
* `Path.along_of_mem_ancestors` — the directories above a path are on its way.
* `FileTree.walk_eq_place`, `FileTree.walk_join_eq_ok_iff`, `FileTree.isDirectory_of_walk`,
  `FileTree.walk_mono` — walks.
* `FileTree.locate_eq_ok_iff` — which paths lead somewhere.
-/

namespace RequestRunner

/-! ### Paths -/

namespace Path

/-- The place one name further on the way. -/
def follow (place : Location) (name : String) : Location :=
  if name = "." then place else if name = ".." then place.tail else name :: place

/-- Where the way of a path starts. -/
def start (current : Location) (path : String) : Location := if isAbsolute path then [] else current

/-- The place that a path names. -/
def place (current : Location) (path : String) : Location :=
  (names path).foldl follow (start current path)

variable {base name other path : String} {current : Location}

/-- A name of a file or a directory, which is no path of several names. -/
structure IsName (name : String) : Prop where
  not_mem : '/' ∉ name.toList
  ne_empty : name ≠ ""
  ne_here : name ≠ "."
  ne_above : name ≠ ".."

/-- A name of a file or a directory goes one step down. -/
lemma follow_of_isName (h : IsName name) (place : Location) : follow place name = name :: place := by
  rw [follow, if_neg h.ne_here, if_neg h.ne_above]

/-- A name of a file or a directory has no slash in front. -/
lemma isAbsolute_of_isName (h : IsName name) : isAbsolute name = false := by
  rw [isAbsolute, beq_eq_false_iff_ne]
  exact fun hhead => h.not_mem (List.mem_of_mem_head? hhead)

/-- The parts of two texts with a slash between them are those of the one and then those of the
other. -/
lemma splitText_append (a b : String) :
    Text.splitText '/' (a ++ "/" ++ b) = Text.splitText '/' a ++ Text.splitText '/' b := by
  have htext : (a ++ "/" ++ b).toList = a.toList ++ '/' :: b.toList := by simp
  rw [Text.splitText, htext, Text.split_eq_splitOn, List.splitOn_append_cons_self, List.map_append,
    ← Text.split_eq_splitOn, ← Text.split_eq_splitOn, Text.splitText, Text.splitText]

/-- The names of two paths with a slash between them are those of the one and then those of the
other. No name is lost at the seam, even if one of the paths is empty or ends in a slash. -/
lemma names_append (a b : String) : names (a ++ "/" ++ b) = names a ++ names b := by
  rw [names, splitText_append, List.filter_append, names, names]

/-- A text without a slash is its only name. -/
lemma names_of_not_mem (hmem : '/' ∉ name.toList) (hne : name ≠ "") : names name = [name] := by
  have hempty : name.isEmpty = false := Bool.eq_false_iff.2 fun he => hne (String.isEmpty_iff.1 he)
  rw [names, Text.splitText, Text.split_eq_splitOn, List.splitOn_eq_singleton hmem,
    List.map_singleton, String.ofList_toList, List.filter_singleton, hempty]
  rfl

/-- A name of a file or a directory is its only name. -/
lemma names_of_isName (h : IsName name) : names name = [name] :=
  names_of_not_mem h.not_mem h.ne_empty

/-- Something in a directory is written behind the directory and a slash, which is left out if the
directory is empty or ends with one. What stands between does not depend on the name.

**Proof sketch.** By the two checks that joining makes: whether the directory is empty, and whether
it ends in a slash. That the name does not start with one excludes the third. -/
lemma exists_join_eq (base : String) : ∃ gap, (gap = "" ∨ gap = "/") ∧
    (gap = "" → base = "" ∨ ∃ front, base = front ++ "/") ∧
    ∀ name, IsName name → join base name = base ++ gap ++ name := by
  by_cases hempty : base = ""
  · refine ⟨"", .inl rfl, fun _ => .inl hempty, fun name h => ?_⟩
    rw [join, isAbsolute_of_isName h, hempty, String.empty_append, String.empty_append]
    rfl
  have hne : base.isEmpty = false := Bool.eq_false_iff.2 fun he => hempty (String.isEmpty_iff.1 he)
  by_cases hslash : endsInSlash base
  · refine ⟨"", .inl rfl, fun _ => .inr ?_, fun name h => ?_⟩
    · obtain ⟨cs, hcs⟩ := List.getLast?_eq_some_iff.1 (beq_iff_eq.1 hslash)
      exact ⟨String.ofList cs, by rw [← String.toList_inj, hcs]; simp⟩
    · rw [join, isAbsolute_of_isName h, hne, Bool.or_false, if_neg Bool.false_ne_true, if_pos hslash,
        String.append_empty]
  · refine ⟨"/", .inr rfl, fun h => absurd h (by decide), fun name h => ?_⟩
    rw [join, isAbsolute_of_isName h, hne, Bool.or_false, if_neg Bool.false_ne_true, if_neg hslash]

/-- The names on the way to something in a directory are those of the directory and its own.

**Proof sketch.** By what is written between them (`exists_join_eq`). If it is a slash, names are
joined at slashes. If it is nothing, the directory is empty, or it ends in a slash, which adds no
name. -/
theorem names_join (h : IsName name) : names (join base name) = names base ++ [name] := by
  have hnil : names "" = [] := rfl
  obtain ⟨gap, hgap, hbase, hjoin⟩ := exists_join_eq base
  rw [hjoin name h]
  rcases hgap with rfl | rfl
  · rw [String.append_empty]
    rcases hbase rfl with rfl | ⟨front, rfl⟩
    · rw [String.empty_append, names_of_isName h, hnil, List.nil_append]
    · have hfront : names (front ++ "/") = names front := by
        rw [← String.append_empty (s := front ++ "/"), names_append, hnil, List.append_nil]
      rw [names_append, names_of_isName h, hfront]
  · rw [names_append, names_of_isName h]

/-- Something in a directory is told from where the directory is. -/
lemma isAbsolute_join (h : IsName name) : isAbsolute (join base name) = isAbsolute base := by
  by_cases hempty : base = ""
  · have hname : join "" name = name := by simp [join]
    rw [hempty, hname, isAbsolute_of_isName h]
    rfl
  · obtain ⟨c, cs, hcs⟩ := List.exists_cons_of_ne_nil
      (fun hnil => hempty (String.toList_eq_nil_iff.1 hnil) : base.toList ≠ [])
    obtain ⟨gap, -, -, hjoin⟩ := exists_join_eq base
    simp [hjoin name h, isAbsolute, hcs]

/-- **The place of something in a directory** is one name further than that of the directory. -/
theorem place_join (h : IsName name) : place current (join base name) = name :: place current base := by
  rw [place, start, isAbsolute_join h, names_join h, List.foldl_concat, follow_of_isName h, place, start]

/-! ### The way of a path -/

/-- The place is one on the way of a path: that of its first names, few or all. -/
def Along (current : Location) (path : String) (p : Location) : Prop :=
  ∃ front, front <+: names path ∧ p = front.foldl follow (start current path)

/-- The place is one on the way of a path, and the way goes on from there. -/
def Above (current : Location) (path : String) (p : Location) : Prop :=
  ∃ front rest, names path = front ++ rest ∧ rest ≠ [] ∧ p = front.foldl follow (start current path)

/-- The place of a path is on its way. -/
lemma along_place : Along current path (place current path) := ⟨_, List.prefix_rfl, rfl⟩

/-- A place from which the way goes on is on the way. -/
lemma Above.along {p : Location} : Above current path p → Along current path p :=
  fun ⟨front, rest, hsplit, _, hp⟩ => ⟨front, ⟨rest, hsplit.symm⟩, hp⟩

/-- A part of a path is not empty and has no slash. -/
lemma of_mem_names (h : name ∈ names path) : '/' ∉ name.toList ∧ name ≠ "" := by
  obtain ⟨hpart, hne⟩ := List.mem_filter.1 h
  obtain ⟨part, hmem, rfl⟩ := List.mem_map.1 hpart
  refine ⟨?_, by simpa using hne⟩
  rw [String.toList_ofList]
  exact Text.not_mem_of_mem_split hmem

variable {absolute : Bool} {parts sub : List String}

/-- The names of a path that is written along them.

**Proof sketch.** A slash in front adds no name. For the rest, by induction on the names: each is
one part without a slash, and it is not empty, so it is kept. -/
lemma names_ofNames (h : ∀ name ∈ parts, '/' ∉ name.toList ∧ name ≠ "") :
    names (ofNames absolute parts) = parts := by
  have hroot : ∀ other, names ("/" ++ other) = names other := fun other =>
    (congrArg names (by simp)).trans (names_append "" other)
  have hparts : names ("/".intercalate parts) = parts := by
    induction parts with
    | nil => rfl
    | cons name rest ih =>
      obtain ⟨hname, hrest⟩ := List.forall_mem_cons.1 h
      have hone := names_of_not_mem hname.1 hname.2
      cases rest with
      | nil => rw [String.intercalate_singleton, hone]
      | cons => rw [String.intercalate_cons_cons, names_append, ih hrest, hone, List.singleton_append]
  cases absolute
  · exact (congrArg names String.empty_append).trans hparts
  · exact (hroot _).trans hparts

/-- A path that is written along names starts where it is told to. A relative one has no slash in
front, since its first name has none and is not empty. -/
lemma isAbsolute_ofNames (hne : parts ≠ []) (h : ∀ name ∈ parts, '/' ∉ name.toList ∧ name ≠ "") :
    isAbsolute (ofNames absolute parts) = absolute := by
  cases absolute
  · obtain ⟨name, rest, rfl⟩ := List.exists_cons_of_ne_nil hne
    obtain ⟨hslash, hname⟩ := h name (List.mem_cons_self ..)
    obtain ⟨c, cs, hcs⟩ := List.exists_cons_of_ne_nil fun hnil => hname (String.toList_eq_nil_iff.1 hnil)
    have hc : c ≠ '/' := fun he => hslash (by rw [hcs, he]; exact List.mem_cons_self ..)
    cases rest <;> simp [isAbsolute, ofNames, String.intercalate_cons_cons, hcs, hc]
  · simp [isAbsolute, ofNames]

/-- Some names of a path are parts without a slash, and none of them is empty. -/
lemma of_mem_sublist_names (h : sub.Sublist (names path)) :
    ∀ name ∈ sub, '/' ∉ name.toList ∧ name ≠ "" := fun _ hname => of_mem_names (h.subset hname)

/-- Some names of a path, written from where it starts, start there. -/
lemma start_ofNames (hne : sub ≠ []) (h : sub.Sublist (names path)) :
    start current (ofNames (isAbsolute path) sub) = start current path := by
  rw [start, isAbsolute_ofNames hne (of_mem_sublist_names h), start]

/-- **The directories above a path are on its way**, and so is its own place.

**Proof sketch.** A directory above is written along the first names of the path other than `.`. To
follow names is the same with or without the `.` among them, so its place is that of the first names
of the path up to the same point. -/
theorem along_of_mem_ancestors (h : other ∈ ancestors path) :
    Along current path (place current other) := by
  rw [ancestors] at h
  split at h
  · cases h
  rcases List.mem_cons.1 h with rfl | h
  · exact along_place
  obtain ⟨n, hn, rfl⟩ := List.mem_map.1 h
  rw [List.mem_reverse, List.mem_range'_1] at hn
  -- The names `.` that are left out lead nowhere, so the first parts end where some first names do.
  obtain ⟨front, back, hsplit, hfront, -⟩ := List.filter_eq_append_iff.1
    (List.take_append_drop n ((names path).filter (· != "."))).symm
  have hsub : (front.filter (· != ".")).Sublist (names path) :=
    List.filter_sublist.trans (hsplit ▸ List.sublist_append_left ..)
  have hne : front.filter (· != ".") ≠ [] := by
    rw [hfront, ← List.length_pos_iff, List.length_take]
    omega
  have hstay : (fun p name => if name != "." then follow p name else p) = follow := by
    funext p name
    by_cases hname : name = "." <;> simp [follow, hname]
  refine ⟨front, ⟨back, hsplit.symm⟩, ?_⟩
  rw [← hfront, place, start_ofNames hne hsub, names_ofNames (of_mem_sublist_names hsub),
    List.foldl_filter, hstay]

end Path

/-! ### Walks -/

namespace FileTree

variable {t t' : FileTree} {p q current : Location} {name base path : String}
  {names more : List String}

/-- A walk goes on only from a directory, and a name must not be too long. The names `.` and `..`
are not measured.

**Proof sketch.** By what is at the place and what the name is. The walk goes on in three ways, and
each is that of `Path.follow`. -/
lemma walk_cons_eq_ok_iff : t.walk p (name :: names) = .ok q ↔
    t.isDirectory p ∧ (name ≠ "." → name ≠ ".." → name.utf8ByteSize ≤ longestName) ∧
      t.walk (Path.follow p name) names = .ok q := by
  rw [walk, isDirectory, Path.follow]
  split
  · simp [*]
  · simp [*]
  · rename_i hp
    split
    · simp [*]
    split
    · simp [*]
    split
    · rename_i hlong
      simp [*, Nat.not_le.2 hlong]
    · rename_i hlong
      simp [*, Nat.not_lt.1 hlong]

/-- **A walk leads to the place that the names tell.** So where it leads to does not depend on the
tree, only whether it arrives. -/
theorem walk_eq_place (h : t.walk p names = .ok q) : names.foldl Path.follow p = q := by
  induction names generalizing p with
  | nil => exact Except.ok.inj h
  | cons name names ih => exact ih (walk_cons_eq_ok_iff.1 h).2.2

/-- **A walk goes on from where another ends.** By induction on the names of the first one. -/
theorem walk_append_eq_ok_iff : t.walk p (names ++ more) = .ok q ↔
    ∃ r, t.walk p names = .ok r ∧ t.walk r more = .ok q := by
  induction names generalizing p with
  | nil => simp [walk]
  | cons name names ih =>
    rw [List.cons_append, walk_cons_eq_ok_iff, ih]
    simp only [walk_cons_eq_ok_iff]
    grind

/-- **A walk goes through directories**: where its first names end there is one, unless nothing comes
behind them. -/
theorem isDirectory_of_walk (h : t.walk p (names ++ more) = .ok q) (hq : more = [] → t.isDirectory q) :
    t.isDirectory (names.foldl Path.follow p) := by
  obtain ⟨r, hnames, hmore⟩ := walk_append_eq_ok_iff.1 h
  rw [walk_eq_place hnames]
  cases more with
  | nil =>
    obtain rfl : r = q := Except.ok.inj hmore
    exact hq rfl
  | cons => exact (walk_cons_eq_ok_iff.1 hmore).1

/-- **A walk still leads to its place** when there are more directories. What is asked of a tree on
the way is only that directories are there. -/
theorem walk_mono (hdir : ∀ r, t.isDirectory r → t'.isDirectory r) (h : t.walk p names = .ok q) :
    t'.walk p names = .ok q := by
  induction names generalizing p with
  | nil => exact h
  | cons name names ih =>
    obtain ⟨hp, hname, hrest⟩ := walk_cons_eq_ok_iff.1 h
    exact walk_cons_eq_ok_iff.2 ⟨hdir p hp, hname, ih hrest⟩

/-- A walk along one name, from a directory to the place of the name in it. -/
lemma walk_name_eq_ok_iff (h : Path.IsName name) : t.walk p [name] = .ok q ↔
    t.isDirectory p ∧ name.utf8ByteSize ≤ longestName ∧ q = name :: p := by
  rw [walk_cons_eq_ok_iff, Path.follow_of_isName h, walk, Except.ok.injEq, eq_comm (a := q)]
  simp [h.ne_here, h.ne_above]

/-- **The walk to something in a directory** goes through the directory.

**Proof sketch.** The names on the way are those of the directory and one more (`names_join`), and a
walk goes on from where another ends, which is the place of the directory. -/
theorem walk_join_eq_ok_iff (h : Path.IsName name) :
    t.walk (Path.start current (Path.join base name)) (Path.names (Path.join base name)) = .ok q ↔
      t.walk (Path.start current base) (Path.names base) = .ok (Path.place current base) ∧
        t.isDirectory (Path.place current base) ∧ name.utf8ByteSize ≤ longestName ∧
        q = name :: Path.place current base := by
  have hstart : Path.start current (Path.join base name) = Path.start current base := by
    rw [Path.start, Path.isAbsolute_join h, Path.start]
  rw [hstart, Path.names_join h, walk_append_eq_ok_iff]
  constructor
  · rintro ⟨r, hbase, hname⟩
    obtain rfl : Path.place current base = r := walk_eq_place hbase
    exact ⟨hbase, (walk_name_eq_ok_iff h).1 hname⟩
  · rintro ⟨hbase, hname⟩
    exact ⟨_, hbase, (walk_name_eq_ok_iff h).2 hname⟩

/-- **Which paths lead somewhere**: those that the system accepts at all, and whose names can be
walked along.

**Proof sketch.** One case for each check that is made of the path as a whole. -/
theorem locate_eq_ok_iff : t.locate current path = .ok q ↔
    ('\x00' ∉ path.toList ∧ path ≠ "" ∧ path.utf8ByteSize ≤ longestPath) ∧
      t.walk (Path.start current path) (Path.names path) = .ok q := by
  rw [locate, Path.start]
  split
  · simp_all
  split
  · simp_all
  split
  · rename_i hlong
    simp [Nat.not_le.2 hlong]
  · simp_all

/-- A path that leads somewhere still leads there when there are more directories. -/
lemma locate_mono (hdir : ∀ r, t.isDirectory r → t'.isDirectory r)
    (h : t.locate current path = .ok q) : t'.locate current path = .ok q := by
  obtain ⟨hpath, hwalk⟩ := locate_eq_ok_iff.1 h
  exact locate_eq_ok_iff.2 ⟨hpath, walk_mono hdir hwalk⟩

/-- A path that leads somewhere leads to the place that it names. -/
lemma locate_eq_place (h : t.locate current path = .ok q) : q = Path.place current path :=
  (walk_eq_place (locate_eq_ok_iff.1 h).2).symm

end FileTree

end RequestRunner
