import RequestRunner.Document.Block
import RequestRunner.Execution.Result

/-!
# Executing a request

A request is built from a method, an address and a body, or from a block, and given to a transport
once. A body that is not empty is sent as JSON unless a header of the block says what it is.

## Main definitions

* `OutgoingRequest.ofBody`, `OutgoingRequest.ofBlock` — what is handed to the transport.
* `execute`, `executeBlock` — the result of handing it over.
-/

namespace RequestRunner

/-- The name of the header that says what a body is. -/
def contentType : String := "Content-Type"

/-- The header that is added to bodies. -/
def jsonContentType : String × String := (contentType, "application/json")

namespace OutgoingRequest

/-- A text as a payload: an empty one is none. -/
def payload (body : String) : Option String := if body.isEmpty then none else some body

/-- The request without headers of its own. -/
def ofBody (method url body : String) : OutgoingRequest :=
  ⟨method, url, if body.isEmpty then [] else [jsonContentType], payload body⟩

/-- The request of a block. -/
def ofBlock (b : Block) : OutgoingRequest :=
  let added :=
    if !b.body.isEmpty && (b.headers.getIgnoringCase? contentType).isNone then [jsonContentType]
    else []
  ⟨b.method.name, b.url, added ++ b.headers.toPairs, payload b.body⟩

end OutgoingRequest

variable {m : Type → Type} [Monad m]

/-- Hands a request to the transport. -/
def dispatch (transport : Transport m) (request : OutgoingRequest) : m ExecutionResult := do
  return .ofReply (← transport request)

/-- Executes a request without headers of its own. -/
def execute (transport : Transport m) (method url body : String) : m ExecutionResult :=
  dispatch transport (.ofBody method url body)

/-- Executes the request of a block. -/
def executeBlock (transport : Transport m) (b : Block) : m ExecutionResult :=
  dispatch transport (.ofBlock b)

end RequestRunner
