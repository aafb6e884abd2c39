import RequestRunner.Text.Ascii
import RequestRunner.Text.Utf8

/-!
# Percent signs in addresses

A byte that may not stand in a part of an address is written as a percent sign and two hexadecimal
digits. Which bytes those are depends on the part; control characters and all bytes beyond ASCII
are always among them.

## Main definitions

* `Url.Escapes` — the characters of ASCII that a part escapes.
* `Url.escape` — characters with those escaped.
* `Url.unescape` — the bytes of a text with escapes.
-/

namespace RequestRunner.Url

/-- The printable characters of ASCII that are escaped in some part. -/
abbrev Escapes := List Char

namespace Escapes

/-- None but those that are always escaped. -/
def control : Escapes := []

/-- Those of a fragment. -/
def fragment : Escapes := [' ', '"', '<', '>', '`']

/-- Those of a query. -/
def query : Escapes := [' ', '"', '#', '<', '>']

/-- Those of a query where quotes are escaped, too. -/
def webQuery : Escapes := '\'' :: query

/-- Those of a path. -/
def path : Escapes := ['#', '?', '{', '}'] ++ fragment

/-- Those of credentials. -/
def credentials : Escapes := ['/', ':', ';', '=', '@', '[', '\\', ']', '^', '|'] ++ path

end Escapes

/-- Two hexadecimal digits behind a percent sign. -/
def escapeByte (b : UInt8) : List Char :=
  ['%', (Nat.digitChar (b.toNat / 16)).toUpper, (Nat.digitChar (b.toNat % 16)).toUpper]

/-- A character, escaped if it has to be. -/
def escapeChar (escapes : Escapes) (c : Char) : List Char :=
  if c.toNat < 0x20 ∨ 0x7F ≤ c.toNat ∨ c ∈ escapes then (Text.encodeChar c).flatMap escapeByte
  else [c]

/-- Characters, escaped where they have to be. -/
def escape (escapes : Escapes) (cs : List Char) : String :=
  String.ofList (cs.flatMap (escapeChar escapes))

/-- The value of two hexadecimal digits. -/
def unescapeDigits? (high low : Char) : Option UInt8 := do
  return UInt8.ofNat ((← Text.hexValue high) * 16 + (← Text.hexValue low))

/-- The bytes of a text, with those that are written behind percent signs; a percent sign without
two digits stands for itself. -/
def unescape : List Char → List UInt8
  | [] => []
  | '%' :: high :: low :: cs =>
    match unescapeDigits? high low with
    | some b => b :: unescape cs
    | none => 0x25 :: unescape (high :: low :: cs)
  | c :: cs => Text.encodeChar c ++ unescape cs

end RequestRunner.Url
