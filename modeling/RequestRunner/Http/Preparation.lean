import RequestRunner.Execution.Exchange
import RequestRunner.Text.Quoted
import RequestRunner.Url.Reader

/-!
# Preparing a request

Before anything is sent, a request is checked: its method and the names of its headers are tokens,
its address is absolute and has a host, the values of its headers have no control characters. Then
a request is under way, but fails at once unless its address is one of the web.

## Main definitions

* `Http.isToken`, `Http.isFieldValue` — what methods, names and values may be.
* `Http.Prepared` — a request that can be sent.
* `Http.prepare` — checks a request.
* `Http.connectionFailed` — the error if no connection is made.
-/

namespace RequestRunner.Http

/-! ### Parts of a message -/

/-- Whether a character may stand in a token. -/
def isTokenChar (c : Char) : Bool := c.isAlphanum || "!#$%&'*+-.^_`|~".toList.contains c

/-- Whether a text is a token. -/
def isToken (s : String) : Bool := !s.isEmpty && s.toList.all isTokenChar

/-- The most characters of a name. -/
def longestName : Nat := 65535

/-- Whether a text may be the name of a header. -/
def isFieldName (s : String) : Bool := isToken s && s.length ≤ longestName

/-- Whether a character may stand in the value of a header. -/
def isFieldChar (c : Char) : Bool := c == '\t' || (' ' ≤ c && c != '\x7F')

/-- Whether a text may be the value of a header. -/
def isFieldValue (s : String) : Bool := s.toList.all isFieldChar

/-! ### Addresses -/

/-- Name and password of credentials, if they are text. -/
def login? (c : Url.Credentials) : Option (String × Option String) := do
  let plain (s : String) : Option String := (Text.decode? (Url.unescape s.toList)).map String.ofList
  let name ← plain c.name
  let password := c.password.bind plain
  if name.isEmpty && password.isNone then none else some (name, password)

/-- The address without credentials that are sent in a header. -/
def withoutLogin (url : Url) : Url :=
  if (url.credentials.bind login?).isSome then { url with credentials := none } else url

/-- The schemes of the web. -/
def isWebScheme (scheme : String) : Bool := scheme == "http" || scheme == "https"

/-- The most bytes of an address in a message. -/
def longestAddress : Nat := 65534

/-- Whether an address can be written into a message. -/
def isWritable (url : Url) : Bool :=
  let hostChar (c : Char) : Bool := !(['"', '`', '{', '}'].contains c)
  url.render.utf8ByteSize ≤ longestAddress &&
    (match url.host with
      | some (.name text) => text.toList.all hostChar
      | _ => true)

/-! ### Errors -/

/-- The words for a request that cannot be built. -/
def notBuilt : String := "builder error"

/-- The words that tell to which address an error belongs. -/
def forAddress (url : Url) : String := " for url (" ++ url.render ++ ")"

/-- The error of a request whose address is not accepted. -/
def notAccepted (url : Url) (cause : String) : TransportError :=
  .failed ("Request failed: " ++ notBuilt ++ forAddress url ++ ": " ++ cause)

/-- The error if no connection is made. -/
def connectionFailed (url : Url) (cause : String) : TransportError :=
  .failed ("Connection failed: error sending request" ++ forAddress url ++
    ": client error (Connect): " ++ cause)

/-! ### Preparation -/

/-- A request that can be sent; `login` are the credentials of its address. -/
structure Prepared where
  method : String
  url : Url
  login : Option (String × Option String)
  headers : List (String × String)
  body : Option String
  deriving DecidableEq

/-- The address that a text is. -/
def readAddress (reader : Url.Reader) (text : String) : Except TransportError Url :=
  (reader.parse text).mapError fun cause =>
    .invalidRequest ("bad URL " ++ Text.quoted text ++ ": " ++ cause)

/-- Checks a request. -/
def prepare (reader : Url.Reader) (r : OutgoingRequest) : Except TransportError Prepared := do
  if !isToken r.method then
    throw (.invalidRequest ("bad method " ++ Text.quoted r.method ++ ": invalid HTTP method"))
  let address ← readAddress reader r.url
  if !address.hasHost then throw (.invalidRequest (notBuilt ++ forAddress address))
  if !r.headers.all fun h => isFieldName h.1 && isFieldValue h.2 then
    throw (.invalidRequest notBuilt)
  let url := withoutLogin address
  if !isWebScheme url.scheme then throw (notAccepted url "URL scheme is not allowed")
  if !isWritable url then throw (notAccepted url "Parsed Url is not a valid Uri")
  return ⟨r.method, url, address.credentials.bind login?, r.headers, r.body⟩

/-- Hands a request to a network if it can be sent. -/
def send {m : Type → Type} [Monad m] (reader : Url.Reader) (network : Prepared → m Outcome)
    (r : OutgoingRequest) : m Outcome :=
  match prepare reader r with
  | .error e => return .error e
  | .ok p => network p

end RequestRunner.Http
