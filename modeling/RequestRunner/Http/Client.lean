import RequestRunner.Http.Answer
import RequestRunner.Http.Message

/-!
# Sending requests

A prepared request is handed to a connection as a message; what comes back is read as an answer.
An answer that sends the client elsewhere is followed, up to ten times. A request is sent again as
it was, or, where the status says so, without its body and as one that only reads.

## Main definitions

* `Http.Dialled`, `Http.Dial` — what comes of a connection, and who makes it.
* `Http.follow` — the request after an answer that sends the client elsewhere.
* `Http.exchange`, `Http.transmitWith`, `Http.transmit` — the outcome of a request.
-/

namespace RequestRunner.Http

/-- What comes of a connection. -/
inductive Dialled where
  | /-- None is made. -/
    refused (cause : String)
  | /-- These bytes came until it was closed. -/
    closed (bytes : List UInt8)
  | /-- Nothing came within the time that was given. -/
    silent
  deriving DecidableEq

/-- Who makes a connection to the host of a request and sends its message. -/
abbrev Dial (m : Type → Type) := Prepared → m Dialled

/-! ### Following -/

/-- The most answers that are followed. -/
def mostFollowed : Nat := 10

/-- The statuses that send the client elsewhere without a body. -/
def dropsBody (status : Nat) : Bool := status == 301 || status == 302 || status == 303

/-- The statuses that send the client elsewhere. -/
def isElsewhere (status : Nat) : Bool := dropsBody status || status == 307 || status == 308

/-- Where an answer sends the client. -/
def location? (reader : Url.Reader) (url : Url) (answer : Answer) : Option Url := do
  let field ← answer.fields.find? fun f => Text.lower f.name == "location"
  let text ← Text.decode? field.value
  let next ← reader.join url (String.ofList text)
  if isWritable next then some next else none

/-- The fields that belong to a body. -/
def bodyFields : List String :=
  ["transfer-encoding", "content-encoding", "content-type", "content-length"]

/-- The fields that only the host may see for which they were given. -/
def confidentialFields : List String :=
  ["authorization", "cookie", "cookie2", "proxy-authorization", "www-authenticate"]

/-- Whether two addresses have the same host and port. -/
def sameHost (a b : Url) : Bool :=
  a.host == b.host && a.port.or (Url.defaultPort? a.scheme) == b.port.or (Url.defaultPort? b.scheme)

/-- The fields without those of the given names. -/
def without (names : List String) (headers : List (String × String)) : List (String × String) :=
  headers.filter fun h => !names.contains (Text.lower h.1)

/-- The address from which a request comes, for its new host. -/
def referer (url next : Url) : List (String × String) :=
  if url.scheme = "https" ∧ next.scheme = "http" then []
  else [("referer", { url with credentials := none, fragment := none }.render)]

/-- The request after an answer that sends the client to `next`. -/
def follow (p : Prepared) (status : Nat) (next : Url) : Prepared :=
  let drops := dropsBody status
  let same := sameHost p.url next
  let headers := without ["referer"] (if drops then without bodyFields p.headers else p.headers)
  { method := if drops && p.method != "GET" && p.method != "HEAD" then "GET" else p.method
    url := next
    login := if same then p.login else none
    headers := (if same then headers else without confidentialFields headers) ++ referer p.url next
    body := if drops then none else p.body }

/-! ### Outcomes -/

/-- The error while a request is sent. -/
def sendingFailed (url : Url) (cause : String) : TransportError :=
  .failed ("Request failed: error sending request" ++ forAddress url ++
    ": client error (SendRequest): " ++ cause)

/-- The error after too many answers that were followed. -/
def followedTooOften (url : Url) : TransportError :=
  .failed ("Request failed: error following redirect" ++ forAddress url ++ ": too many redirects")

/-- The error if nothing comes within so many seconds. -/
def timedOut (seconds : Nat) : TransportError :=
  .failed ("Request timed out (" ++ Text.decimal seconds ++ "s)")

/-- The outcome that an answer is. -/
def outcome (answer : Answer) : Outcome :=
  match answer.body with
  | some bytes =>
    .ok ⟨.ofNat answer.status, flatten answer.fields, String.ofList (Text.decodeLossy bytes)⟩
  | none => .error (.failed "Error reading body: error decoding response body")

variable {m : Type → Type} [Monad m]

/-- The answer to one message. -/
def ask (dial : Dial m) (seconds : Nat) (p : Prepared) : m (Except TransportError Answer) := do
  match ← dial p with
  | .refused cause => return .error (connectionFailed p.url cause)
  | .silent => return .error (timedOut seconds)
  | .closed bytes =>
    return (readAnswer p.method bytes).mapError fun fault => sendingFailed p.url fault.message

/-- The outcome of a request where `left` more answers may be followed. -/
def exchange (reader : Url.Reader) (dial : Dial m) (seconds : Nat) : Nat → Prepared → m Outcome
  | left, p => do
    match ← ask dial seconds p with
    | .error e => return .error e
    | .ok answer =>
      if isElsewhere answer.status then
        match location? reader p.url answer, left with
        | none, _ => return outcome answer
        | some _, 0 => return .error (followedTooOften p.url)
        | some next, left + 1 =>
          if isWebScheme next.scheme then
            exchange reader dial seconds left (follow p answer.status next)
          else return .error (notAccepted next "URL scheme is not allowed")
      else return outcome answer

/-- The outcome of a request that may fail to be one, where `reader` reads all addresses; `seconds`
is the time that is given. -/
def transmitWith (reader : Url.Reader) (dial : Dial m) (seconds : Nat) (r : OutgoingRequest) :
    m Outcome :=
  send reader (exchange reader dial seconds mostFollowed) r

/-- The outcome of a request whose addresses are read by the reader of the program. -/
def transmit (dial : Dial m) (seconds : Nat) (r : OutgoingRequest) : m Outcome :=
  transmitWith .standard dial seconds r

/-- What comes of a connection where no network is in reach: a numeric host has no way to it, and
any other but this machine has no known number. -/
def unreachable (p : Prepared) : Dialled :=
  let named := match p.url.host with
    | some (.name text) => text != "localhost"
    | _ => false
  .refused
    (if named then
      "dns error: failed to lookup address information: Temporary failure in name resolution"
    else "tcp connect error: Network is unreachable (os error 101)")

end RequestRunner.Http
