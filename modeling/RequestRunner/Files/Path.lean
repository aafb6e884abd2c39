import RequestRunner.Text.Split

/-!
# Paths

A path is a text whose parts stand between `'/'`. One that starts with `'/'` starts at the root,
any other where the program runs.

## Main definitions

* `Path.join` — the path of something seen from a directory.
* `Path.names` — the parts on the way.
* `Path.ancestors` — a path and the directories above it.
-/

namespace RequestRunner.Path

/-- Whether the path starts at the root. -/
def isAbsolute (path : String) : Bool := path.toList.head? == some '/'

/-- Whether the path ends in `'/'`, so that it can only be a directory. -/
def endsInSlash (path : String) : Bool := path.toList.getLast? == some '/'

/-- The path of `other` seen from the directory `base`. -/
def join (base other : String) : String :=
  if isAbsolute other || base.isEmpty then other
  else if endsInSlash base then base ++ other
  else base ++ "/" ++ other

/-- The parts that are not empty. -/
def names (path : String) : List String :=
  (Text.splitText '/' path).filter (!·.isEmpty)

/-- The path from the root, or from where the program runs, along some names. -/
def ofNames (absolute : Bool) (names : List String) : String :=
  (if absolute then "/" else "") ++ "/".intercalate names

/-- The path itself, if it is not empty, and the directories above it, nearest first; neither the
root nor the place where the program runs is among those. -/
def ancestors (path : String) : List String :=
  if path.isEmpty then []
  else
    let parts := (names path).filter (· != ".")
    path ::
      (List.range' 1 (parts.length - 1)).reverse.map fun n => ofNames (isAbsolute path) (parts.take n)

end RequestRunner.Path
