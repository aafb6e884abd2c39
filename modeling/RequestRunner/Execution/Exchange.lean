import RequestRunner.Data.FieldMap

/-!
# Requests and replies

What is handed to a transport and what comes back. A transport either has a response of whatever
status, or it says why there is none.

## Main definitions

* `OutgoingRequest`, `Response` — what is sent and what is received.
* `TransportError` — why there is no response, with its text.
* `Reply` — the outcome of one request with the time that it took.
* `Transport` — what turns a request into a reply, in some monad.
* `Transport.recording` — a transport with fixed replies that keeps a list of what it was given.
* `Transport.timed` — a transport that has the time taken until a network answers.
-/

namespace RequestRunner

/-- A request for a transport; `none` for a body sends no payload at all. -/
structure OutgoingRequest where
  method : String
  url : String
  headers : List (String × String)
  body : Option String
  deriving DecidableEq

/-- A response that was received whole. -/
structure Response where
  status : UInt16
  headers : FieldMap
  body : String
  deriving DecidableEq

/-- Why there is no response. -/
inductive TransportError where
  | /-- The request is not one that can be sent; nothing was. -/
    invalidRequest (text : String)
  | /-- The request was under way when something failed. -/
    failed (text : String)
  deriving DecidableEq

namespace TransportError

/-- What went wrong, without the kind of error. -/
def text : TransportError → String
  | invalidRequest text => text
  | failed text => text

/-- The words for an error that stands on its own. -/
def message : TransportError → String
  | invalidRequest text => "Invalid request: " ++ text
  | failed text => text

end TransportError

/-- How a request ended. -/
abbrev Outcome := Except TransportError Response

/-- How a request ended and how many milliseconds passed until then. -/
structure Reply where
  outcome : Outcome
  elapsedMillis : UInt64

/-- What turns a request into a reply. -/
abbrev Transport (m : Type → Type) := OutgoingRequest → m Reply

/-- The transport that hands requests to a network and has a clock tell how much time that takes. -/
def Transport.timed {m : Type → Type} [Monad m] {α : Type} (clock : m α)
    (elapsed : α → α → UInt64) (network : OutgoingRequest → m Outcome) : Transport m :=
  fun request => do
    let start ← clock
    let outcome ← network request
    return ⟨outcome, elapsed start (← clock)⟩

/-- The transport that gives the replies of `reply` and adds each request to a list. -/
def Transport.recording (reply : OutgoingRequest → Reply) :
    Transport (StateM (List OutgoingRequest)) := fun request => do
  modify (· ++ [request])
  return reply request

end RequestRunner
