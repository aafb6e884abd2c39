/-!
# Status classes

The band of a status by its hundreds.

## Main definitions

* `StatusClass`, `StatusClass.ofStatus`, `StatusClass.label` — the bands, the band of a status and
  the word for it.
-/

namespace RequestRunner

/-- The band of a status. -/
inductive StatusClass where
  | informational
  | success
  | redirect
  | clientError
  | serverError
  | unknown
  deriving DecidableEq

namespace StatusClass

/-- The band of a status: its hundreds from one to five. -/
def ofStatus (status : UInt16) : StatusClass :=
  match status.toNat / 100 with
  | 1 => informational
  | 2 => success
  | 3 => redirect
  | 4 => clientError
  | 5 => serverError
  | _ => unknown

/-- The word for a band. -/
def label : StatusClass → String
  | informational => "info"
  | success => "ok"
  | redirect => "redirect"
  | clientError => "client error"
  | serverError => "server error"
  | unknown => "unknown"

end StatusClass

end RequestRunner
