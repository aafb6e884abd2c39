import RequestRunner.Execution.Exchange
import RequestRunner.Json.Record

/-!
# Results of executions

The outcome of one execution in the form that is shown and stored. Any status is an ordinary
result; there is an error only if no response was received.

As JSON a result is an object with the members `status`, `headers`, `body`, `duration`, and `error`
if there is one. Reading takes the members in any order and passes over others, and it also takes
an array of the five values, or of the first four.

## Main definitions

* `ExecutionResult` — status, header fields, body, duration and error.
* `ExecutionResult.ofReply` — the result that a reply gives.
* `ExecutionResult.toJson`, `ExecutionResult.ofText` — the JSON form, written and read.
-/

namespace RequestRunner

/-- The outcome of one execution. -/
structure ExecutionResult where
  status : UInt16
  headers : FieldMap
  body : String
  durationMillis : UInt64
  error : Option String
  deriving DecidableEq

namespace ExecutionResult

/-- The result without a response. -/
def failure (message : String) (durationMillis : UInt64) : ExecutionResult :=
  ⟨0, ∅, "", durationMillis, some message⟩

/-- Whether no response was received. -/
def isError (r : ExecutionResult) : Bool := r.error.isSome

/-- The result that a reply gives. What was never sent took no time. -/
def ofReply (reply : Reply) : ExecutionResult :=
  match reply.outcome with
  | .ok response => ⟨response.status, response.headers, response.body, reply.elapsedMillis, none⟩
  | .error (.invalidRequest text) => failure text 0
  | .error (.failed text) => failure text reply.elapsedMillis

/-- Header fields as a JSON object. -/
def fieldsToJson (headers : FieldMap) : Json :=
  .object (headers.entries.map fun e => (e.1, .string e.2))

/-- The result as a JSON object. -/
def toJson (r : ExecutionResult) : Json :=
  .object
    ([("status", .integer r.status.toNat), ("headers", fieldsToJson r.headers),
        ("body", .string r.body), ("duration", .integer r.durationMillis.toNat)] ++
      (r.error.map fun e => ("error", Json.string e)).toList)

/-! ### Reading -/

open Json

/-- What a message calls the type. -/
def expected : String := "struct ExecutionResult"

/-- The members read so far. -/
structure Partial where
  status : Option Nat
  headers : Option FieldMap
  body : Option String
  duration : Option Nat
  error : Option (Option String)

/-- Nothing read. -/
def Partial.empty : Partial := ⟨none, none, none, none, none⟩

/-- Reads a member behind its name. -/
def readMember (p : Partial) (name : String) : Reader Partial := fun cs =>
  if name = "status" then do
    let (v, rest) ← readField name p.status (readUnsigned 16) cs
    .ok ({ p with status := some v }, rest)
  else if name = "headers" then do
    let (v, rest) ← readField name p.headers readStringMap cs
    .ok ({ p with headers := some v }, rest)
  else if name = "body" then do
    let (v, rest) ← readField name p.body readString cs
    .ok ({ p with body := some v }, rest)
  else if name = "duration" then do
    let (v, rest) ← readField name p.duration (readUnsigned 64) cs
    .ok ({ p with duration := some v }, rest)
  else if name = "error" then do
    let (v, rest) ← readField name p.error readOptionalString cs
    .ok ({ p with error := some v }, rest)
  else do
    let rest ← readColon cs
    let rest ← skipValue rest
    .ok (p, rest)

/-- Reads an object behind its opening brace. -/
def readObject : Reader ExecutionResult := fun cs => do
  let (p, rest) ← foldMembers readMember (cs.length + 1) true .empty cs
  let status ← require "status" p.status rest
  let headers ← require "headers" p.headers rest
  let body ← require "body" p.body rest
  let duration ← require "duration" p.duration rest
  let rest ← closeObject rest
  .ok (⟨.ofNat status, headers, body, .ofNat duration, p.error.getD none⟩, rest)

/-- Reads an array behind its opening bracket. -/
def readArray : Reader ExecutionResult := fun cs => do
  let (status, rest) ← readItem (readUnsigned 16) 0 5 expected cs
  let (headers, rest) ← readItem readStringMap 1 5 expected rest
  let (body, rest) ← readItem readString 2 5 expected rest
  let (duration, rest) ← readItem (readUnsigned 64) 3 5 expected rest
  let (error, rest) ← readItem? readOptionalString 4 rest
  let rest ← closeArray rest
  .ok (⟨.ofNat status, headers, body, .ofNat duration, error.getD none⟩, rest)

/-- Reads a result. -/
def read : Reader ExecutionResult := fun cs =>
  match skipGap cs with
  | [] => failBehind .endInValue []
  | '{' :: rest => readObject rest
  | '[' :: rest => readArray rest
  | rest => wrongKind expected rest

/-- The result whose JSON form a text is. -/
def ofText (text : String) : Except Fault ExecutionResult := readAll read text.toList

end ExecutionResult

end RequestRunner
