import RequestRunner.Http.Preparation
import RequestRunner.Text.Base64

/-!
# The message of a request

A request is sent as a line with method and target, fields with names in lower case, an empty line
and the body. What a server needs to know and the caller does not say is added: the host, that any
kind of answer is accepted, the length of the body, and credentials of the address.

## Main definitions

* `Http.Message` — line, fields and body.
* `Http.Prepared.message` — the message of a request.
* `Http.Message.bytes` — what is sent.
-/

namespace RequestRunner.Http

/-- A message of a client. -/
structure Message where
  line : String
  fields : List (String × String)
  body : String
  deriving DecidableEq

namespace Prepared

/-- What the request is for: path and query of the address. -/
def target (p : Prepared) : String := p.url.path.render ++ p.url.query.elim "" ("?" ++ ·)

/-- The host with a port that is not the usual one. -/
def hostText (p : Prepared) : String :=
  p.url.host.elim "" Url.Host.render ++ p.url.port.elim "" (":" ++ Text.decimal ·)

/-- The field for credentials. -/
def loginField (login : String × Option String) : String × String :=
  ("authorization",
    "Basic " ++ Text.base64 (Text.encode (login.1 ++ ":" ++ login.2.getD "").toList))

/-- The fields that the caller or the address gives. -/
def ownFields (p : Prepared) : List (String × String) :=
  (p.login.map loginField).toList ++ p.headers.map fun h => (Text.lower h.1, h.2)

/-- A field unless there is one with its name. -/
def addField (name value : String) (fields : List (String × String)) : List (String × String) :=
  if fields.any (·.1 == name) then fields else fields ++ [(name, value)]

/-- The payload; none is an empty one. -/
def payload (p : Prepared) : String := p.body.getD ""

/-- All fields. -/
def fields (p : Prepared) : List (String × String) :=
  let fields := addField "host" p.hostText (addField "accept" "*/*" p.ownFields)
  if p.payload.isEmpty || fields.any (·.1 == "transfer-encoding") then fields
  else addField "content-length" (Text.decimal p.payload.utf8ByteSize) fields

/-- The message of a request. -/
def message (p : Prepared) : Message :=
  ⟨p.method ++ " " ++ p.target ++ " HTTP/1.1", p.fields, p.payload⟩

end Prepared

/-- The line of a field. -/
def fieldLine (field : String × String) : String := field.1 ++ ": " ++ field.2

/-- What is sent. -/
def Message.bytes (m : Message) : List UInt8 :=
  let head := m.line :: m.fields.map fieldLine ++ ["", m.body]
  Text.encode ("\r\n".intercalate head).toList

end RequestRunner.Http
