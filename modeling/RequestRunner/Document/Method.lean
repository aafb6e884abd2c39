/-!
# Request methods

The verbs that open a request. A verb is recognised in upper case only.

## Main definitions

* `Method` — the seven verbs.
* `Method.name` — the verb's text.
* `Method.ofVerb?` — the method whose text is exactly the given one.
-/

namespace RequestRunner

/-- The verbs that open a request. -/
inductive Method where
  | get | post | put | patch | delete | head | options
  deriving DecidableEq

namespace Method

/-- Every method. -/
def all : List Method := [get, post, put, patch, delete, head, options]

/-- The verb as it is written. -/
def name : Method → String
  | get => "GET"
  | post => "POST"
  | put => "PUT"
  | patch => "PATCH"
  | delete => "DELETE"
  | head => "HEAD"
  | options => "OPTIONS"

/-- The method written exactly as `verb`. -/
def ofVerb? (verb : String) : Option Method := all.find? (·.name == verb)

end Method

end RequestRunner
