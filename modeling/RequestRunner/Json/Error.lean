import RequestRunner.Json.Printer
import RequestRunner.Text.Quoted
import RequestRunner.Text.Utf8

/-!
# Faults in JSON text

Why a text was refused and where. The place is given by the bytes that were left to read, from
which the line and the byte of the line follow; a fault found by looking at the next byte counts
that byte as read.

## Main definitions

* `Json.Cause`, `Json.Cause.message` — what is wrong, in data and in words.
* `Json.Fault` — a cause with its place.
* `Json.Fault.message` — the words with line and column.
-/

namespace RequestRunner.Json

/-- What was found where something else was expected. -/
inductive Found where
  | null
  | bool (b : Bool)
  | integer (n : Int)
  | float (x : Binary64)
  | string (s : String)
  | sequence
  | map
  deriving DecidableEq

/-- The words for what was found. -/
def Found.describe : Found → String
  | null => "null"
  | bool b => "boolean `" ++ (if b then "true" else "false") ++ "`"
  | integer n => "integer `" ++ String.ofList (integerChars n) ++ "`"
  | float x => "floating point `" ++ x.toJson ++ "`"
  | string s => "string " ++ Text.quoted s
  | sequence => "sequence"
  | map => "map"

/-- What is wrong with a text. -/
inductive Cause where
  | endInValue
  | endInString
  | endInList
  | endInObject
  | expectedValue
  | expectedWord
  | expectedColon
  | expectedListEnd
  | expectedObjectEnd
  | keyNotString
  | trailingComma
  | trailingText
  | badNumber
  | outOfRange
  | badEscape
  | endOfEscape
  | loneSurrogate
  | controlCharacter
  | tooDeep
  | wrongType (found : Found) (expected : String)
  | wrongValue (found : Found) (expected : String)
  | wrongLength (length : Nat) (expected : String)
  | missing (field : String)
  | repeated (field : String)
  deriving DecidableEq

/-- The words for a cause. -/
def Cause.message : Cause → String
  | endInValue => "EOF while parsing a value"
  | endInString => "EOF while parsing a string"
  | endInList => "EOF while parsing a list"
  | endInObject => "EOF while parsing an object"
  | expectedValue => "expected value"
  | expectedWord => "expected ident"
  | expectedColon => "expected `:`"
  | expectedListEnd => "expected `,` or `]`"
  | expectedObjectEnd => "expected `,` or `\x7d`"
  | keyNotString => "key must be a string"
  | trailingComma => "trailing comma"
  | trailingText => "trailing characters"
  | badNumber => "invalid number"
  | outOfRange => "number out of range"
  | badEscape => "invalid escape"
  | endOfEscape => "unexpected end of hex escape"
  | loneSurrogate => "lone leading surrogate in hex escape"
  | controlCharacter => "control character (\\u0000-\\u001F) found while parsing a string"
  | tooDeep => "recursion limit exceeded"
  | wrongType found expected => "invalid type: " ++ found.describe ++ ", expected " ++ expected
  | wrongValue found expected => "invalid value: " ++ found.describe ++ ", expected " ++ expected
  | wrongLength n expected => "invalid length " ++ Text.decimal n ++ ", expected " ++ expected
  | missing field => "missing field `" ++ field ++ "`"
  | repeated field => "duplicate field `" ++ field ++ "`"

/-- A cause and the number of bytes of the text that follow its place. -/
structure Fault where
  cause : Cause
  bytesLeft : Nat
  deriving DecidableEq

/-- A fault right before `rest`. -/
def failAt {α : Type} (cause : Cause) (rest : List Char) : Except Fault α :=
  .error ⟨cause, Text.byteLength rest⟩

/-- A fault behind the first byte of `rest`, or at its end if it is empty. -/
def failBehind {α : Type} (cause : Cause) (rest : List Char) : Except Fault α :=
  .error ⟨cause, Text.byteLength rest - 1⟩

/-- Line and column after so many bytes of the text, from the line and column of its start. -/
def placeAfter (bytes line column : Nat) : List Char → Nat × Nat
  | [] => (line, column + bytes)
  | c :: cs =>
    if bytes = 0 then (line, column)
    else if c = '\n' then placeAfter (bytes - 1) (line + 1) 0 cs
    else if bytes ≤ c.utf8Size then (line, column + bytes)
    else placeAfter (bytes - c.utf8Size) line (column + c.utf8Size) cs

/-- The words for a fault in a text: lines count from one, columns are bytes of the line. -/
def Fault.message (text : List Char) (fault : Fault) : String :=
  let (line, column) := placeAfter (Text.byteLength text - fault.bytesLeft) 1 0 text
  fault.cause.message ++ " at line " ++ Text.decimal line ++ " column " ++ Text.decimal column

end RequestRunner.Json
