import RequestRunner.Decimal.Binary64

/-!
# JSON values

## Main definitions

* `Json` — a value; whole numbers and binary fractions are kept apart. The members of an object
  are a list, since a text may have them in any order.
-/

namespace RequestRunner

/-- A JSON value. -/
inductive Json where
  | null
  | bool (b : Bool)
  | integer (n : Int)
  | float (x : Binary64)
  | string (s : String)
  | array (items : List Json)
  | object (members : List (String × Json))

end RequestRunner
