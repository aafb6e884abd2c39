import RequestRunner.Files.Path
import RequestRunner.Text.Utf8

/-!
# Files and directories

What the program asks of a file system, and what may be refused. A path leads to a file, to a
directory or to nothing.

## Main definitions

* `Refusal`, `Refusal.message` — why something is refused.
* `FileSystem` — the operations, in some monad.
* `FileSystem.readText` — a file as text.
* `FileSystem.makeDirectories` — a directory with all that are missing above it.
-/

namespace RequestRunner

/-- Why something is refused. -/
inductive Refusal where
  | /-- A directory on the way, or the file, is missing. -/
    notFound
  | /-- Something is there already. -/
    alreadyExists
  | /-- A file stands where a directory is needed. -/
    notADirectory
  | /-- A directory stands where a file is needed. -/
    isADirectory
  | /-- A name has more than 255 bytes, or the path has too many. -/
    nameTooLong
  | /-- The path has a zero character. -/
    zeroInPath
  | /-- Any other reason, in the words of the system. -/
    other (message : String)
  deriving DecidableEq

/-- The words for a refusal. -/
def Refusal.message : Refusal → String
  | notFound => "No such file or directory (os error 2)"
  | alreadyExists => "File exists (os error 17)"
  | notADirectory => "Not a directory (os error 20)"
  | isADirectory => "Is a directory (os error 21)"
  | nameTooLong => "File name too long (os error 36)"
  | zeroInPath => "file name contained an unexpected NUL byte"
  | other message => message

/-- What a path leads to. -/
inductive FileKind where
  | file
  | directory
  deriving DecidableEq

/-- The operations on files and directories. -/
structure FileSystem (m : Type → Type) where
  /-- What a path leads to, if to anything. -/
  kind? : String → m (Option FileKind)
  /-- Makes a directory in one that is there. -/
  makeDirectory : String → m (Except Refusal Unit)
  /-- The bytes of a file. -/
  read : String → m (Except Refusal (List UInt8))
  /-- Makes a file or replaces what is in it. -/
  write : String → List UInt8 → m (Except Refusal Unit)
  /-- Makes sure that a file is there to which something can be added. -/
  openToAppend : String → m (Except Refusal Unit)

namespace FileSystem

/-- The words for bytes that are no text. -/
def notText : String := "stream did not contain valid UTF-8"

/-- A file as text; the error is told in words. -/
def textOf : Except Refusal (List UInt8) → Except String String
  | .error refusal => .error refusal.message
  | .ok bytes =>
    match Text.decode? bytes with
    | some cs => .ok (String.ofList cs)
    | none => .error notText

variable {m : Type → Type} [Monad m] (files : FileSystem m)

/-- The operations in another monad. -/
def lift {n : Type → Type} (run : {α : Type} → m α → n α) : FileSystem n where
  kind? path := run (files.kind? path)
  makeDirectory path := run (files.makeDirectory path)
  read path := run (files.read path)
  write path bytes := run (files.write path bytes)
  openToAppend path := run (files.openToAppend path)

/-- The text of a file. -/
def readText (path : String) : m (Except String String) := do
  return textOf (← files.read path)

/-- Replaces the text of a file. -/
def writeText (path text : String) : m (Except Refusal Unit) :=
  files.write path (Text.encode text.toList)

/-- Whether a path leads to a directory. -/
def isDirectory (path : String) : m Bool := do
  return (← files.kind? path) == some .directory

/-- Whether a path leads to anything. -/
def isThere (path : String) : m Bool := do
  return (← files.kind? path).isSome

/-- Makes a directory; that one is there already is no failure. -/
def makeOrKeep (path : String) : m (Except Refusal Unit) := do
  match ← files.makeDirectory path with
  | .ok () => return .ok ()
  | .error refusal => if ← files.isDirectory path then return .ok () else return .error refusal

/-- Makes the first directory of the list; if the one above it is missing, makes the rest of the
list before. -/
def makeFirst : List String → m (Except Refusal Unit)
  | [] => return .ok ()
  | path :: above => do
    match ← files.makeDirectory path with
    | .ok () => return .ok ()
    | .error .notFound =>
      match ← makeFirst above with
      | .ok () => files.makeOrKeep path
      | .error refusal => return .error refusal
    | .error refusal => if ← files.isDirectory path then return .ok () else return .error refusal

/-- Makes a directory and all that are missing above it. -/
def makeDirectories (path : String) : m (Except Refusal Unit) := files.makeFirst (Path.ancestors path)

end FileSystem

end RequestRunner
