import RequestRunner.Decimal.Shortest
import RequestRunner.Json.Value
import RequestRunner.Text.Ascii

/-!
# JSON text

Writing a value: compact, without any blanks, or pretty, with a line for each member and item and
two spaces of indentation. An empty array or object is written without a line break in both.

In a string the quote, the reverse solidus and the characters below U+0020 are escaped, with the
short forms where there are any and four lower case hexadecimal digits otherwise; all else is
written as it is. A fraction is written with the fewest digits that read back, with a decimal point
and without exponent from `1e-5` to below `1e16`.

## Main definitions

* `Json.escape` — a character inside a string.
* `Binary64.toJson` — a number.
* `Json.compact`, `Json.pretty` — a value.
-/

namespace RequestRunner

/-- The text of a finite number. -/
def Binary64.toJson (x : Binary64) : String :=
  let sign := if x.isNegative then "-" else ""
  if x.isZero then sign ++ "0.0"
  else
    let d := x.shortest
    sign ++ if -4 ≤ d.point ∧ d.point ≤ 16 then d.positional else d.scientific

namespace Json

/-- A character as it stands inside a string. -/
def escape (c : Char) : List Char :=
  if c = '"' then ['\\', '"']
  else if c = '\\' then ['\\', '\\']
  else if c = '\x08' then ['\\', 'b']
  else if c = '\x0c' then ['\\', 'f']
  else if c = '\n' then ['\\', 'n']
  else if c = '\r' then ['\\', 'r']
  else if c = '\t' then ['\\', 't']
  else if c.toNat < 32 then
    ['\\', 'u', '0', '0'] ++ (Nat.toDigits 16 (c.toNat / 16) ++ Nat.toDigits 16 (c.toNat % 16))
  else [c]

/-- The characters of a string with quotes around them. -/
def quoteChars (s : String) : List Char := '"' :: (s.toList.flatMap escape ++ ['"'])

/-- The characters of a whole number. -/
def integerChars (n : Int) : List Char :=
  if n < 0 then '-' :: Nat.toDigits 10 n.natAbs else Nat.toDigits 10 n.natAbs

/-- A line feed and `depth` times two spaces. -/
def newLine (depth : Nat) : List Char := '\n' :: List.replicate (2 * depth) ' '

mutual

/-- The compact text of a value. -/
def compactChars : Json → List Char
  | .null => ['n', 'u', 'l', 'l']
  | .bool true => ['t', 'r', 'u', 'e']
  | .bool false => ['f', 'a', 'l', 's', 'e']
  | .integer n => integerChars n
  | .float x => x.toJson.toList
  | .string s => quoteChars s
  | .array [] => ['[', ']']
  | .array (v :: vs) => '[' :: (compactChars v ++ compactItems vs)
  | .object [] => ['{', '}']
  | .object ((name, v) :: ms) =>
    '{' :: (quoteChars name ++ ':' :: (compactChars v ++ compactMembers ms))

/-- The further items of an array with its closing bracket. -/
def compactItems : List Json → List Char
  | [] => [']']
  | v :: vs => ',' :: (compactChars v ++ compactItems vs)

/-- The further members of an object with its closing brace. -/
def compactMembers : List (String × Json) → List Char
  | [] => ['}']
  | (name, v) :: ms => ',' :: (quoteChars name ++ ':' :: (compactChars v ++ compactMembers ms))

end

mutual

/-- The pretty text of a value that stands at the given depth. -/
def prettyChars (depth : Nat) : Json → List Char
  | .null => ['n', 'u', 'l', 'l']
  | .bool true => ['t', 'r', 'u', 'e']
  | .bool false => ['f', 'a', 'l', 's', 'e']
  | .integer n => integerChars n
  | .float x => x.toJson.toList
  | .string s => quoteChars s
  | .array [] => ['[', ']']
  | .array (v :: vs) =>
    '[' :: (newLine (depth + 1) ++ (prettyChars (depth + 1) v ++ prettyItems depth vs))
  | .object [] => ['{', '}']
  | .object ((name, v) :: ms) =>
    '{' :: (newLine (depth + 1) ++
      (quoteChars name ++ ':' :: ' ' :: (prettyChars (depth + 1) v ++ prettyMembers depth ms)))

/-- The further items of an array at the given depth with its closing bracket. -/
def prettyItems (depth : Nat) : List Json → List Char
  | [] => newLine depth ++ [']']
  | v :: vs => ',' :: (newLine (depth + 1) ++ (prettyChars (depth + 1) v ++ prettyItems depth vs))

/-- The further members of an object at the given depth with its closing brace. -/
def prettyMembers (depth : Nat) : List (String × Json) → List Char
  | [] => newLine depth ++ ['}']
  | (name, v) :: ms =>
    ',' :: (newLine (depth + 1) ++
      (quoteChars name ++ ':' :: ' ' :: (prettyChars (depth + 1) v ++ prettyMembers depth ms)))

end

/-- The text of a value without blanks. -/
def compact (v : Json) : String := String.ofList v.compactChars

/-- The text of a value with a line for each member and item. -/
def pretty (v : Json) : String := String.ofList (v.prettyChars 0)

end Json

end RequestRunner
