import RequestRunner.Files.FileSystem

/-!
# A tree of files and directories

Files and directories that are held in memory. A path is walked part by part from the root or from
a current directory; each part but the last has to be a directory, `.` stays there and `..` goes to
the directory above, which for the root is the root.

## Main definitions

* `FileTree` — which files and directories there are; what is above something is a directory.
* `FileTree.walk`, `FileTree.locate` — where names and paths lead.
* `FileTree.put`, `FileTree.erase` — changes.
* `FileTree.files` — the operations of a file system.

## Main results

* `FileTree.node?_put`, `FileTree.node?_erase` — what is where after a change.
-/

namespace RequestRunner

/-- A file with its bytes, or a directory. -/
inductive FileNode where
  | file (content : List UInt8)
  | directory
  deriving DecidableEq

/-- Where something is: the names from the root, the last one first. -/
abbrev Location := List String

/-- Files and directories. -/
structure FileTree where
  node? : Location → Option FileNode
  root : node? [] = some .directory
  above : ∀ name place, (node? (name :: place)).isSome → node? place = some .directory

namespace FileTree

/-- The tree with nothing but the root. -/
def empty : FileTree where
  node? place := if place = [] then some .directory else none
  root := by simp
  above := by simp

/-- Whether there is a directory. -/
def isDirectory (t : FileTree) (place : Location) : Prop := t.node? place = some .directory

instance (t : FileTree) (place : Location) : Decidable (t.isDirectory place) :=
  inferInstanceAs (Decidable (_ = _))

/-- The tree with another node at a place in a directory; what was a directory stays one. -/
def put (t : FileTree) (place : Location) (name : String) (node : FileNode)
    (hd : t.isDirectory place) (hn : ¬t.isDirectory (name :: place)) : FileTree where
  node? p := if p = name :: place then some node else t.node? p
  root := by simp [t.root]
  above := by
    intro n p h
    by_cases hp : p = name :: place
    · subst hp
      rw [if_neg (by simp)] at h
      exact absurd (t.above n _ h) hn
    · rw [if_neg hp]
      by_cases he : n :: p = name :: place
      · obtain ⟨-, rfl⟩ := List.cons.inj he
        exact hd
      · rw [if_neg he] at h
        exact t.above n p h

/-- The tree without a place below the root and without what is below that place. -/
def erase (t : FileTree) (name : String) (place : Location) : FileTree where
  node? p := if (name :: place).isSuffixOf p then none else t.node? p
  root := by simp [t.root, List.isSuffixOf]
  above := by
    intro n p h
    by_cases hp : (name :: place) <:+ p
    · have : (name :: place) <:+ n :: p := hp.trans (List.suffix_cons n p)
      simp [this] at h
    · by_cases hq : (name :: place) <:+ n :: p
      · simp [hq] at h
      · simp only [List.isSuffixOf_iff_suffix, hp, hq, if_false] at h ⊢
        exact t.above n p h

/-- What is at a place after something was put: the new node at its place, and else what was there.
-/
@[simp]
theorem node?_put (t : FileTree) (place : Location) (name : String) (node : FileNode)
    (hd : t.isDirectory place) (hn : ¬t.isDirectory (name :: place)) (p : Location) :
    (t.put place name node hd hn).node? p = if p = name :: place then some node else t.node? p :=
  rfl

/-- What is at a place after something was taken away with all that is in it. -/
@[simp]
theorem node?_erase (t : FileTree) (name : String) (place p : Location) :
    (t.erase name place).node? p = if (name :: place).isSuffixOf p then none else t.node? p :=
  rfl

/-! ### Walking -/

/-- The most bytes of a name. -/
def longestName : Nat := 255

/-- The most bytes of a path. -/
def longestPath : Nat := 4095

/-- Where names lead from a place. -/
def walk (t : FileTree) : Location → List String → Except Refusal Location
  | place, [] => .ok place
  | place, name :: names =>
    match t.node? place with
    | none => .error .notFound
    | some (.file _) => .error .notADirectory
    | some .directory =>
      if name = "." then t.walk place names
      else if name = ".." then t.walk place.tail names
      else if name.utf8ByteSize > longestName then .error .nameTooLong
      else t.walk (name :: place) names

/-- Where a path leads that starts in the directory `current`, whether or not anything is there. -/
def locate (t : FileTree) (current : Location) (path : String) : Except Refusal Location :=
  if path.toList.contains '\x00' then .error .zeroInPath
  else if path.isEmpty then .error .notFound
  else if path.utf8ByteSize > longestPath then .error .nameTooLong
  else t.walk (if Path.isAbsolute path then [] else current) (Path.names path)

/-- What a path leads to. -/
def lookup (t : FileTree) (current : Location) (path : String) : Except Refusal FileNode := do
  match t.node? (← t.locate current path) with
  | none => .error .notFound
  | some (.file content) => if Path.endsInSlash path then .error .notADirectory else .ok (.file content)
  | some .directory => .ok .directory

/-! ### Operations -/

/-- What a path leads to, if to anything. -/
def kind? (t : FileTree) (current : Location) (path : String) : Option FileKind :=
  match t.lookup current path with
  | .ok (.file _) => some .file
  | .ok .directory => some .directory
  | .error _ => none

/-- The bytes of the file that a path leads to. -/
def read (t : FileTree) (current : Location) (path : String) : Except Refusal (List UInt8) := do
  match ← t.lookup current path with
  | .file content => .ok content
  | .directory => .error .isADirectory

/-- The tree with a new directory. -/
def makeDirectory (t : FileTree) (current : Location) (path : String) : Except Refusal FileTree := do
  match ← t.locate current path with
  | [] => .error .alreadyExists
  | name :: place =>
    if (t.node? (name :: place)).isSome then .error .alreadyExists
    else if h : t.isDirectory place ∧ ¬t.isDirectory (name :: place) then
      .ok (t.put place name .directory h.1 h.2)
    else .error .notFound

/-- The tree with a file at the end of a path: `content` makes its bytes from those that were
there. -/
def update (t : FileTree) (current : Location) (path : String)
    (content : List UInt8 → List UInt8) : Except Refusal FileTree := do
  match ← t.locate current path with
  | [] => .error .isADirectory
  | name :: place =>
    if Path.endsInSlash path then .error .isADirectory
    else if h : t.isDirectory place ∧ ¬t.isDirectory (name :: place) then
      let old := match t.node? (name :: place) with
        | some (.file bytes) => bytes
        | _ => []
      .ok (t.put place name (.file (content old)) h.1 h.2)
    else if t.isDirectory place then .error .isADirectory
    else .error .notFound

/-- The tree without what a path leads to. -/
def remove (t : FileTree) (current : Location) (path : String) : FileTree :=
  match t.locate current path with
  | .ok (name :: place) => t.erase name place
  | _ => t

/-- Goes on with another tree if there is one. -/
def change (next : FileTree → Except Refusal FileTree) : StateM FileTree (Except Refusal Unit) :=
  fun t =>
    match next t with
    | .ok t' => (.ok (), t')
    | .error refusal => (.error refusal, t)

/-- The operations of a file system on the tree, for paths that start in `current`. -/
def files (current : Location) : FileSystem (StateM FileTree) where
  kind? path := do return (← get).kind? current path
  makeDirectory path := change (·.makeDirectory current path)
  read path := do return (← get).read current path
  write path bytes := change (·.update current path fun _ => bytes)
  openToAppend path := change (·.update current path id)

end FileTree

end RequestRunner
