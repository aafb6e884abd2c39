import RequestRunner.Data.Sorted

/-!
# Field maps

The header fields of a response with one text for each name, in the order of the names.

## Main definitions

* `FieldMap` — the entries with the proof that their names increase.
* `FieldMap.ofList` — the map of a list of entries, of several with one name the last.
-/

namespace RequestRunner

/-- Names with texts, the names increasing. -/
@[ext] structure FieldMap where
  entries : List (String × String)
  increasing : Sorted.Increasing entries
  deriving DecidableEq

namespace FieldMap

/-- No entry. -/
def empty : FieldMap := ⟨[], .nil⟩

instance : EmptyCollection FieldMap := ⟨empty⟩

/-- The entries of a list, of several with one name the last. -/
def ofList (entries : List (String × String)) : FieldMap :=
  ⟨Sorted.ofList entries, Sorted.pairwise_ofList entries⟩

/-- The text of a name. -/
def get? (m : FieldMap) (name : String) : Option String :=
  (m.entries.find? (·.1 == name)).map (·.2)

end FieldMap

end RequestRunner
