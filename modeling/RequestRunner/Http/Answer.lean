import RequestRunner.Http.Fields

/-!
# The answer of a server

An answer is a line with version and status, fields, an empty line and a body. Where the body ends
is told by a field: it comes in chunks with their lengths, or it has a given length; without either
it ends with the connection. Answers with a status below 200 only come before the answer.

## Main definitions

* `Http.Answer` — status, fields and body.
* `Http.AnswerFault`, `Http.AnswerFault.message` — why bytes are no answer.
* `Http.readAnswer` — the answer that bytes are.
-/

namespace RequestRunner.Http

/-- An answer; `none` for a body that breaks off. -/
structure Answer where
  status : Nat
  fields : List Field
  body : Option (List UInt8)
  deriving DecidableEq

/-- Why bytes are no answer. -/
inductive AnswerFault where
  | brokenOff
  | version
  | status
  | field
  | length
  | transfer
  deriving DecidableEq

/-- The words for a fault. -/
def AnswerFault.message : AnswerFault → String
  | brokenOff => "connection closed before message completed"
  | version => "invalid HTTP version parsed"
  | status => "invalid HTTP status-code parsed"
  | field => "invalid HTTP header parsed"
  | length => "invalid content-length parsed"
  | transfer => "unexpected transfer-encoding parsed"

/-! ### Lines -/

/-- The bytes of a line feed, of a carriage return, of a space, of a tab and of a colon. -/
def lineFeed : UInt8 := 10

/-- The byte of a carriage return. -/
def carriageReturn : UInt8 := 13

/-- Whether a byte is a space or a tab. -/
def isGap (b : UInt8) : Bool := b == 32 || b == 9

/-- A line without its ending, and what follows. -/
def takeLine? (bytes : List UInt8) : Option (List UInt8 × List UInt8) :=
  match bytes.span (· != lineFeed) with
  | (line, _ :: rest) =>
    some (if line.getLast? = some carriageReturn then line.dropLast else line, rest)
  | (_, []) => none

/-- The lines before an empty one, and what follows that; `fuel` is above the number of lines. -/
def takeHead? : Nat → List UInt8 → Option (List (List UInt8) × List UInt8)
  | 0, _ => none
  | fuel + 1, bytes => do
    let (line, rest) ← takeLine? bytes
    if line.isEmpty then some ([], rest)
    else
      let (ls, rest) ← takeHead? fuel rest
      some (line :: ls, rest)

/-- A text in the bytes of ASCII. -/
def ascii (s : String) : List UInt8 := s.toList.map fun c => UInt8.ofNat c.toNat

/-- The characters of bytes of ASCII. -/
def chars (bytes : List UInt8) : List Char := bytes.map fun b => Char.ofNat b.toNat

/-! ### The head -/

/-- The status of the first line. -/
def readStatus (line : List UInt8) : Except AnswerFault Nat :=
  let version := line.take 8
  if version ≠ ascii "HTTP/1.1" ∧ version ≠ ascii "HTTP/1.0" then .error .version
  else
    let rest := line.drop 8
    let digits := (rest.drop 1).take 3
    match rest.head?, Text.readDigits? Text.digitValue 10 1000 (chars digits) with
    | some 32, some n =>
      if digits.length = 3 ∧ 100 ≤ n ∧ (line.drop 12).head?.all (· == 32) then .ok n
      else .error .status
    | some 32, none => .error .status
    | _, _ => .error .version

/-- Bytes without spaces and tabs at both ends. -/
def trimGaps (bytes : List UInt8) : List UInt8 :=
  ((bytes.dropWhile isGap).reverse.dropWhile isGap).reverse

/-- Whether a byte may stand in the name of a field. -/
def isNameByte (b : UInt8) : Bool :=
  let c := Char.ofNat b.toNat
  b < 128 && (c.isAlphanum || "!#$%&'*+-.^_`|~".toList.contains c)

/-- Whether a byte may stand in the value of a field. -/
def isValueByte (b : UInt8) : Bool := b == 9 || (32 ≤ b && b != 127)

/-- The field of a line. -/
def readField (line : List UInt8) : Except AnswerFault Field :=
  match line.span (· != 58) with
  | (name, _ :: value) =>
    if name.isEmpty || !name.all isNameByte || !value.all isValueByte then .error .field
    else .ok ⟨String.ofList (chars name), trimGaps value⟩
  | (_, []) => .error .field

/-- The value of a field, in lower case, if there is one with the name. -/
def fieldText? (fields : List Field) (name : String) : Option (List Char) :=
  let values := fields.filter fun f => Text.lower f.name == name
  values.getLast?.map fun f => (chars f.value).map Char.toLower

/-! ### The body -/

/-- The bytes of chunks behind one another; `fuel` is above the number of chunks. -/
def readChunks? : Nat → List UInt8 → Option (List UInt8)
  | 0, _ => none
  | fuel + 1, bytes => do
    let (line, rest) ← takeLine? bytes
    let digits := chars (trimGaps (line.takeWhile (· != 59)))
    let size ← Text.readDigits? Text.hexValue 16 UInt64.size digits
    if size = 0 then do
      let _ ← takeHead? (rest.length + 1) rest
      some []
    else if rest.length < size then none
    else do
      let (line, behind) ← takeLine? (rest.drop size)
      if line.isEmpty then do return rest.take size ++ (← readChunks? fuel behind) else none

/-- The body of an answer; a request for a head has none. -/
def readBody (method : String) (status : Nat) (fields : List Field) (bytes : List UInt8) :
    Except AnswerFault (Option (List UInt8)) :=
  if method = "HEAD" ∨ status = 204 ∨ status = 304 then .ok (some [])
  else
    match fieldText? fields "transfer-encoding" with
    | some coding =>
      .ok (if "chunked".toList.isSuffixOf coding then readChunks? (bytes.length + 1) bytes
        else some bytes)
    | none =>
      match fieldText? fields "content-length" with
      | none => .ok (some bytes)
      | some digits =>
        match Text.readDigits? Text.digitValue 10 UInt64.size digits with
        | none => .error .length
        | some n => .ok (if bytes.length < n then none else some (bytes.take n))

/-! ### The answer -/

/-- Whether an answer only comes before the answer. -/
def isInterim (status : Nat) : Bool := status < 200 && status != 101

/-- Bytes without empty lines at their head. -/
def dropEmptyLines (bytes : List UInt8) : List UInt8 :=
  bytes.dropWhile fun b => b == lineFeed || b == carriageReturn

/-- What is wrong with bytes in which no head is whole. -/
def partialFault (bytes : List UInt8) : AnswerFault :=
  match takeLine? bytes with
  | some (line, _) =>
    match readStatus line with
    | .error fault => fault
    | .ok _ => .brokenOff
  | none =>
    if [ascii "HTTP/1.1", ascii "HTTP/1.0"].contains (bytes.take 8) ||
        bytes.isPrefixOf (ascii "HTTP/1.") then .brokenOff
    else .version

/-- Reads an answer behind those that come before it; `fuel` is above their number. -/
def readFrom (method : String) : Nat → List UInt8 → Except AnswerFault Answer
  | 0, _ => .error .brokenOff
  | fuel + 1, bytes =>
    let bytes := dropEmptyLines bytes
    match takeHead? (bytes.length + 1) bytes with
    | none => .error (partialFault bytes)
    | some (ls, rest) => do
      let status ← readStatus (ls.headD [])
      let fields ← (ls.drop 1).mapM readField
      if isInterim status then readFrom method fuel rest
      else return ⟨status, fields, ← readBody method status fields rest⟩

/-- The answer that bytes are. -/
def readAnswer (method : String) (bytes : List UInt8) : Except AnswerFault Answer :=
  readFrom method (bytes.length + 1) bytes

end RequestRunner.Http
