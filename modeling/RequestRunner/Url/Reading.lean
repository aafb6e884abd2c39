import RequestRunner.Url.Address
import RequestRunner.Url.Basic
import RequestRunner.Url.Domain
import RequestRunner.Url.Percent

/-!
# Reading addresses

An address is read from left to right: scheme, credentials, host, port, path, query, fragment.
Blanks and control characters around it and tabs and line ends within it do not count. Only an
address with a scheme is absolute.

## Main definitions

* `Url.Fault`, `Url.Fault.message` — why a text is no absolute address.
* `Url.readHost` — a host.
* `Url.segments` — the segments of a path, with `.` and `..` worked out.
* `Url.ofText` — the address that a text is.
-/

namespace RequestRunner.Url

/-- Why a text is no absolute address. -/
inductive Fault where
  | noScheme
  | emptyHost
  | invalidPort
  | invalidIpv4
  | invalidIpv6
  | invalidDomain
  | invalidDomainCharacter
  deriving DecidableEq

/-- The words for a fault. -/
def Fault.message : Fault → String
  | noScheme => "relative URL without a base"
  | emptyHost => "empty host"
  | invalidPort => "invalid port number"
  | invalidIpv4 => "invalid IPv4 address"
  | invalidIpv6 => "invalid IPv6 address"
  | invalidDomain => "invalid international domain name"
  | invalidDomainCharacter => "invalid domain character"

/-! ### Text and scheme -/

/-- Whether a character at an end of the text does not count. -/
def isOuterBlank (c : Char) : Bool := c ≤ ' '

/-- Whether a character within the text does not count. -/
def isLineBreak (c : Char) : Bool := c == '\t' || c == '\n' || c == '\r'

/-- The characters that count. -/
def significant (cs : List Char) : List Char :=
  (((cs.dropWhile isOuterBlank).reverse.dropWhile isOuterBlank).reverse).filter (!isLineBreak ·)

/-- Whether a character may stand in a scheme behind the first letter. -/
def isSchemeChar (c : Char) : Bool := c.isAlphanum || c == '+' || c == '-' || c == '.'

/-- The scheme, in small letters, and what is behind its colon. -/
def readScheme? (cs : List Char) : Option (String × List Char) :=
  match cs.takeWhile isSchemeChar, cs.dropWhile isSchemeChar with
  | c :: name, ':' :: rest =>
    if c.isAlpha then some (String.ofList ((c :: name).map Char.toLower), rest) else none
  | _, _ => none

/-! ### Credentials, host and port -/

/-- Whether a character is a slash. -/
def isSlash (special : Bool) (c : Char) : Bool := c == '/' || (special && c == '\\')

/-- Whether a character ends what stands between the scheme and the path. -/
def endsAuthority (special : Bool) (c : Char) : Bool := isSlash special c || c == '?' || c == '#'

/-- Credentials of a text before `@`; none if both parts are empty. -/
def readCredentials? (cs : List Char) : Option Credentials :=
  let name := escape .credentials (cs.takeWhile (· != ':'))
  let password := escape .credentials ((cs.dropWhile (· != ':')).drop 1)
  if name.isEmpty && password.isEmpty then none
  else some ⟨name, if password.isEmpty then none else some password⟩

/-- The texts before and behind the last `@`, if there is one. -/
def splitAtLastAt? (cs : List Char) : Option (List Char × List Char) :=
  match cs.reverse.span (· != '@') with
  | (behind, _ :: before) => some (before.reverse, behind.reverse)
  | (_, []) => none

/-- The number of characters before the first colon that is outside of brackets. -/
def hostLength (inBrackets : Bool) : List Char → Nat
  | [] => 0
  | c :: cs =>
    if c = ':' ∧ inBrackets = false then 0
    else hostLength (if c = '[' then true else if c = ']' then false else inBrackets) cs + 1

/-- A numeric host in brackets. -/
def readBracketed (cs : List Char) : Except Fault Host :=
  if cs.getLast? != some ']' then .error .invalidIpv6
  else
    match readIpv6? (cs.drop 1).dropLast with
    | some pieces => .ok (.ipv6 pieces)
    | none => .error .invalidIpv6

/-- A host of a special scheme. -/
def readSpecialHost (cs : List Char) : Except Fault Host :=
  if cs.head? = some '[' then readBracketed cs
  else
    match Domain.ofBytes? (unescape cs) with
    | none => .error .invalidDomain
    | some [] => .error .emptyHost
    | some name =>
      if endsInNumber name then
        match readIpv4? name with
        | some address => .ok (.ipv4 address)
        | none => .error .invalidIpv4
      else .ok (.name (String.ofList name))

/-- The characters that no host has whatever its scheme. -/
def forbiddenInHost : List Char :=
  ['\x00', '\t', '\n', '\r', ' ', '#', '/', ':', '<', '>', '?', '@', '[', '\\', ']', '^', '|']

/-- A host of another scheme. -/
def readOtherHost (cs : List Char) : Except Fault Host :=
  if cs.head? = some '[' then readBracketed cs
  else if cs.any forbiddenInHost.contains then .error .invalidDomainCharacter
  else .ok (.name (escape .control cs))

/-- A host; that of a web address is not empty. -/
def readHost (kind : SchemeClass) (cs : List Char) : Except Fault Host :=
  match kind with
  | .other => readOtherHost cs
  | _ => if cs.isEmpty then .error .emptyHost else readSpecialHost cs

/-- The largest port. -/
def largestPort : Nat := 65535

/-- A port; without digits it is none. -/
def readPort (cs : List Char) : Except Fault (Option Nat) :=
  if cs.isEmpty then .ok none
  else
    match Text.readDigits? Text.digitValue 10 (largestPort + 1) cs with
    | some port => .ok (some port)
    | none => .error .invalidPort

/-- The port behind a host. What ends the digits of a port is a slash of either kind. -/
def portText (cs : List Char) : List Char := (cs.drop 1).takeWhile (· != '\\')

/-- What stands between the scheme and the path. -/
structure Authority where
  credentials : Option Credentials
  host : Host
  port : Option Nat
  deriving DecidableEq

/-- Reads what stands between the scheme and the path: `cs` is all of it, and `more` tells whether
something follows. Gives also how much of it belongs to the path. -/
def readAuthority (scheme : String) (kind : SchemeClass) (cs : List Char) (more : Bool) :
    Except Fault (Authority × List Char) := do
  let (login, cs) := (splitAtLastAt? cs).elim (none, cs) fun (login, cs) => (some login, cs)
  if login = some [] ∧ cs = [] ∧ more then throw .emptyHost
  let credentials := login.bind readCredentials?
  let length := hostLength false cs
  let host ← readHost kind (cs.take length)
  let rest := cs.drop length
  if host = .name "" ∧ rest ≠ [] then throw .emptyHost
  let port ← readPort (portText rest)
  if host = .name "" ∧ credentials.isSome then throw .emptyHost
  let port := if port = defaultPort? scheme then none else port
  return (⟨credentials, host, port⟩, (rest.drop 1).dropWhile (· != '\\'))

/-! ### Path, query and fragment -/

/-- A segment in which each escaped dot is a dot. -/
def plainDots : List Char → List Char
  | '%' :: '2' :: 'e' :: cs | '%' :: '2' :: 'E' :: cs => '.' :: plainDots cs
  | c :: cs => c :: plainDots cs
  | [] => []

/-- Whether a segment names a drive. -/
def isDrive (segment : List Char) : Bool :=
  match segment with
  | [c, d] => c.isAlpha && (d == ':' || d == '|')
  | _ => false

/-- A segment as it is written. -/
def writeSegment (kind : SchemeClass) (segment : List Char) : String :=
  if kind = .file ∧ isDrive segment then String.ofList (segment.take 1 ++ [':'])
  else escape .path segment

/-- The segments, last one first, without the last one; a drive is kept. -/
def shorten (kind : SchemeClass) (above : List String) : List String :=
  match kind, above with
  | .file, [drive] => if isDrive drive.toList then [drive] else []
  | _, above => above.tail

/-- Adds segments to those above them, last one first: `.` stays, `..` goes up, and where one of
these is the last, an empty segment follows. -/
def addSegments (kind : SchemeClass) (above : List String) : List (List Char) → List String
  | [] => above
  | segment :: more =>
    let dots := plainDots segment
    if dots = ['.', '.'] then
      let above := shorten kind above
      addSegments kind (if more.isEmpty then "" :: above else above) more
    else if dots = ['.'] then addSegments kind (if more.isEmpty then "" :: above else above) more
    else addSegments kind (writeSegment kind segment :: above) more

/-- The segments of a path without its first slash. -/
def segments (kind : SchemeClass) (cs : List Char) : List String :=
  let slashed := if kind.isSpecial then cs.map fun c => if c = '\\' then '/' else c else cs
  (addSegments kind [] (Text.split '/' slashed)).reverse

/-- The segments of a path behind a host. -/
def hostedPath (kind : SchemeClass) (cs : List Char) : List String :=
  match cs with
  | [] => if kind.isSpecial then [""] else []
  | c :: rest => segments kind (if isSlash kind.isSpecial c then rest else c :: rest)

/-- Segments without empty ones before the first that is not. -/
def withoutEmptyHead : List String → List String
  | "" :: segment :: more => withoutEmptyHead (segment :: more)
  | parts => parts

/-- Whether a character ends the path. -/
def endsPath (c : Char) : Bool := c == '?' || c == '#'

/-- Query and fragment: `cs` starts with the mark of one of them or is empty. -/
def readTail (kind : SchemeClass) (cs : List Char) : Option String × Option String :=
  let before := cs.takeWhile (· != '#')
  let fragment := match cs.dropWhile (· != '#') with
    | [] => none
    | _ :: rest => some (escape .fragment rest)
  let query := match before with
    | [] => none
    | _ :: rest => some (escape (if kind.isSpecial then .webQuery else .query) rest)
  (query, fragment)

/-! ### The address -/

/-- The address with a host, where `cs` is what follows the two slashes and `path`, `behind` are
the path and what follows it. -/
def ofHosted (scheme : String) (kind : SchemeClass) (cs : List Char) : Except Fault Url := do
  let special := kind.isSpecial
  let rest := cs.dropWhile (!endsAuthority special ·)
  let (authority, more) ←
    readAuthority scheme kind (cs.takeWhile (!endsAuthority special ·)) (!rest.isEmpty)
  let path := more ++ rest
  let (query, fragment) := readTail kind (path.dropWhile (!endsPath ·))
  return ⟨scheme, authority.credentials, some authority.host, authority.port,
    .segments (hostedPath kind (path.takeWhile (!endsPath ·))), query, fragment⟩

/-- The host of a file: that of this machine is not written. -/
def readFileHost (cs : List Char) : Except Fault Host :=
  if cs.isEmpty then .ok (.name "")
  else do
    let host ← readSpecialHost cs
    return if host = .name "localhost" then .name "" else host

/-- The address of a file. -/
def ofFile (cs : List Char) : Except Fault Url := do
  let path := cs.takeWhile (!endsPath ·)
  let (query, fragment) := readTail .file (cs.dropWhile (!endsPath ·))
  let (host, path) ←
    match path with
    | c :: d :: rest =>
      if isSlash true c && isSlash true d then
        let host := rest.takeWhile (!isSlash true ·)
        if isDrive host then Except.ok (Host.name "", rest)
        else Except.map (·, rest.dropWhile (!isSlash true ·)) (readFileHost host)
      else Except.ok (Host.name "", path)
    | path => Except.ok (Host.name "", path)
  let parts := withoutEmptyHead (hostedPath .file path)
  let host := if (parts.head?.map fun s => isDrive s.toList) = some true then Host.name "" else host
  return ⟨"file", none, some host, none, .segments parts, query, fragment⟩

/-- The address without a host. -/
def ofUnhosted (scheme : String) (cs : List Char) : Url :=
  let path := cs.takeWhile (!endsPath ·)
  let (query, fragment) := readTail .other (cs.dropWhile (!endsPath ·))
  let path := match path with
    | '/' :: rest => Path.segments (segments .other rest)
    | path => Path.plain (escape .control path)
  ⟨scheme, none, none, none, path, query, fragment⟩

/-- The address that a text is. -/
def ofText (text : String) : Except Fault Url :=
  match readScheme? (significant text.toList) with
  | none => .error .noScheme
  | some (scheme, rest) =>
    match SchemeClass.ofScheme scheme with
    | .web => ofHosted scheme .web (rest.dropWhile (isSlash true))
    | .file => ofFile rest
    | .other =>
      match rest with
      | '/' :: '/' :: rest => ofHosted scheme .other rest
      | rest => .ok (ofUnhosted scheme rest)

end RequestRunner.Url
