import RequestRunner.Text.Ascii

/-!
# Header lists

The headers of a request, in the order in which their names first came. A name occurs once: to
insert it again replaces its value where it stands. Names are compared exactly when they are
inserted and looked up with `get?`, and up to the case of ASCII letters with `getIgnoringCase?`,
as the wire compares them.

## Main definitions

* `Header`, `Headers` — a name with its value, and a list of them.
* `Headers.insert` — sets the value of a name.
* `Headers.get?`, `Headers.getIgnoringCase?` — the value of a name.
* `Headers.ofPairs` — a list of pairs, inserted one after the other.
-/

namespace RequestRunner

/-- A header's name and value. -/
structure Header where
  name : String
  value : String
  deriving DecidableEq

/-- Headers in the order of their names' first insertions. -/
structure Headers where
  entries : List Header
  deriving DecidableEq

namespace Headers

/-- No header. -/
def empty : Headers := ⟨[]⟩

instance : EmptyCollection Headers := ⟨empty⟩

/-- The entries after `name` is set to `value`: replaced in place where the name occurs, and
otherwise added at the end. -/
def set (name value : String) : List Header → List Header
  | [] => [⟨name, value⟩]
  | h :: rest => if h.name = name then ⟨name, value⟩ :: rest else h :: set name value rest

/-- Sets the value of `name`. -/
def insert (headers : Headers) (name value : String) : Headers := ⟨set name value headers.entries⟩

/-- The value of exactly `name`. -/
def get? (headers : Headers) (name : String) : Option String :=
  (headers.entries.find? (·.name == name)).map (·.value)

/-- The value of the first name that equals `name` up to the case of ASCII letters. -/
def getIgnoringCase? (headers : Headers) (name : String) : Option String :=
  (headers.entries.find? (fun h => Text.sameIgnoringCase h.name name)).map (·.value)

/-- How many names have a value. -/
def size (headers : Headers) : Nat := headers.entries.length

/-- Whether no name has a value. -/
def isEmpty (headers : Headers) : Bool := headers.entries.isEmpty

/-- The names and values in order. -/
def toPairs (headers : Headers) : List (String × String) :=
  headers.entries.map fun h => (h.name, h.value)

/-- The headers after inserting each pair in turn. -/
def ofPairs (pairs : List (String × String)) : Headers :=
  pairs.foldl (fun hs p => hs.insert p.1 p.2) empty

end Headers

end RequestRunner
