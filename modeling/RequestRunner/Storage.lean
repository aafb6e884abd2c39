import RequestRunner.Config.Location

/-!
# The stored document

One document is stored in the data directory, next to the log. What cannot be read counts as an
empty document.

## Main definitions

* `Storage` — the data directory, with the paths of the document and the log.
* `Storage.ensure`, `Storage.load`, `Storage.save` — what is done with them.
-/

namespace RequestRunner

/-- The place of the stored document. -/
structure Storage where
  directory : String
  deriving DecidableEq

namespace Storage

/-- The storage that the settings name, or the program's own directory. -/
def ofConfig (surroundings : Surroundings) (config : Config) : Storage :=
  ⟨config.dataDir.getD surroundings.ownDirectory⟩

/-- The path of the document. -/
def document (s : Storage) : String := Path.join s.directory "requests.http"

/-- The path of the log. -/
def log (s : Storage) : String := Path.join s.directory (programName ++ ".log")

variable {m : Type → Type} [Monad m] (files : FileSystem m)

/-- Makes the data directory unless something is there. -/
def ensure (s : Storage) : m (Except Failure Unit) := do
  if ← files.isThere s.directory then return .ok ()
  else return (← files.makeDirectories s.directory).mapError (.dataDirectory s.directory ·)

/-- The text of the document; empty if it cannot be read. -/
def load (s : Storage) : m String := do
  match ← files.readText s.document with
  | .ok text => return text
  | .error _ => return ""

/-- Replaces the document. -/
def save (s : Storage) (text : String) : m (Except Failure Unit) := do
  match ← s.ensure files with
  | .error failure => return .error failure
  | .ok () => return (← files.writeText s.document text).mapError (.documentUnwritten s.document ·)

/-- Makes sure that there is a log. If that is refused, it is tried once more after the data
directory has been made. -/
def openLog (s : Storage) : m (Except Refusal Unit) := do
  match ← files.openToAppend s.log with
  | .ok () => return .ok ()
  | .error _ =>
    match ← files.makeDirectories s.directory with
    | .ok () => files.openToAppend s.log
    | .error refusal => return .error refusal

end Storage

end RequestRunner
