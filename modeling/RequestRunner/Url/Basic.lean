import RequestRunner.Text.Ascii

/-!
# Addresses

An address that is absolute: a scheme, perhaps a host with a port and with credentials, a path,
perhaps a query and a fragment. All parts are held in the form in which they are written.

## Main definitions

* `Url.Host`, `Url.Path`, `Url` — the parts.
* `Url.render` — the written form.
* `Url.SchemeClass` — what a scheme is called and how it is read.
-/

namespace RequestRunner

namespace Url

/-- A host; the empty name stands for a host that is written but empty. -/
inductive Host where
  | name (text : String)
  | ipv4 (address : Nat)
  | ipv6 (pieces : List Nat)
  deriving DecidableEq

/-- A path: segments with a `/` before each, or a text that has no segments. -/
inductive Path where
  | segments (parts : List String)
  | plain (text : String)
  deriving DecidableEq

/-- How addresses of a scheme are read. -/
inductive SchemeClass where
  | /-- A host is required, and `\` counts as `/`. -/
    web
  | /-- There is a host or none, and `\` counts as `/`. -/
    file
  | /-- Any other. -/
    other
  deriving DecidableEq

namespace SchemeClass

/-- The class of a scheme. -/
def ofScheme (scheme : String) : SchemeClass :=
  if ["http", "https", "ws", "wss", "ftp"].contains scheme then web
  else if scheme = "file" then file
  else other

/-- Whether `\` counts as `/`. -/
def isSpecial : SchemeClass → Bool
  | other => false
  | _ => true

end SchemeClass

/-- The port of a scheme that need not be written. -/
def defaultPort? (scheme : String) : Option Nat :=
  if scheme = "http" ∨ scheme = "ws" then some 80
  else if scheme = "https" ∨ scheme = "wss" then some 443
  else if scheme = "ftp" then some 21
  else none

/-- What stands before `@`: a name and perhaps a password. -/
structure Credentials where
  name : String
  password : Option String
  deriving DecidableEq

end Url

/-- An absolute address. -/
structure Url where
  scheme : String
  credentials : Option Url.Credentials
  host : Option Url.Host
  port : Option Nat
  path : Url.Path
  query : Option String
  fragment : Option String
  deriving DecidableEq

namespace Url

/-! ### The written form -/

/-- An address of thirty-two bits in four decimal numbers. -/
def renderIpv4 (address : Nat) : String :=
  ".".intercalate ([24, 16, 8, 0].map fun shift => Text.decimal (address / Nat.pow 2 shift % 256))

/-- The number of zeros at the head of a list. -/
def zeroRun (pieces : List Nat) : Nat := (pieces.takeWhile (· == 0)).length

/-- The first of the longest runs of zeros: where it starts and its length. -/
def longestZeroRun (pieces : List Nat) : Nat × Nat :=
  (List.range pieces.length).foldl
    (fun best start =>
      let length := zeroRun (pieces.drop start)
      if best.2 < length then (start, length) else best)
    (0, 0)

/-- Pieces of sixteen bits in hexadecimal digits. -/
def renderPieces (pieces : List Nat) : String := ":".intercalate (pieces.map Text.hexDigits)

/-- Eight pieces of sixteen bits; the longest run of at least two zeros is left out. -/
def renderIpv6 (pieces : List Nat) : String :=
  let (start, length) := longestZeroRun pieces
  if length < 2 then renderPieces pieces
  else renderPieces (pieces.take start) ++ "::" ++ renderPieces (pieces.drop (start + length))

/-- The written form of a host. -/
def Host.render : Host → String
  | name text => text
  | ipv4 address => renderIpv4 address
  | ipv6 pieces => "[" ++ renderIpv6 pieces ++ "]"

/-- The written form of a path. -/
def Path.render : Path → String
  | segments parts => String.join (parts.map ("/" ++ ·))
  | plain text => text

/-- The written form of credentials. -/
def Credentials.render (c : Credentials) : String :=
  c.name ++ (c.password.elim "" (":" ++ ·)) ++ "@"

/-- What is written between the scheme and the path. A path without a host that starts with two
slashes is kept apart from an empty host. -/
def renderAuthority (url : Url) : String :=
  match url.host with
  | some host =>
    "//" ++ url.credentials.elim "" Credentials.render ++ host.render ++
      url.port.elim "" (":" ++ Text.decimal ·)
  | none =>
    match url.path with
    | .segments ("" :: _ :: _) => "/."
    | _ => ""

/-- The written form. -/
def render (url : Url) : String :=
  url.scheme ++ ":" ++ url.renderAuthority ++ url.path.render ++ url.query.elim "" ("?" ++ ·) ++
    url.fragment.elim "" ("#" ++ ·)

/-- Whether there is a host that is not empty. -/
def hasHost (url : Url) : Bool :=
  match url.host with
  | none => false
  | some (.name text) => !text.isEmpty
  | some _ => true

end Url

end RequestRunner
