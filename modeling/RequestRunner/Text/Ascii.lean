/-!
# Letters of ASCII

Field names of messages, schemes of addresses and host names ignore the case of the letters
`A` to `Z` and of no others.

## Main definitions

* `Text.lower` — a text with `A` to `Z` in lower case.
* `Text.sameIgnoringCase` — equality up to the case of those letters.
* `Text.decimal`, `Text.padLeft`, `Text.padRight` — numbers in decimal digits, filled columns.
* `Text.digitValue`, `Text.hexValue`, `Text.hexDigits` — digits and their values.
* `Text.readDigits?`, `Text.readNatural?` — the numbers that texts stand for.
-/

namespace RequestRunner.Text

/-- The text with the letters `A` to `Z` in lower case. -/
def lower (s : String) : String := String.ofList (s.toList.map Char.toLower)

/-- Equality up to the case of the letters `A` to `Z`. -/
def sameIgnoringCase (s t : String) : Bool := s.toList.map Char.toLower == t.toList.map Char.toLower

/-- A natural number in decimal digits. -/
def decimal (n : Nat) : String := String.ofList (Nat.toDigits 10 n)

/-- The text filled with `fill` on its left up to `width` characters. -/
def padLeft (width : Nat) (fill : Char) (s : String) : String :=
  String.ofList (List.replicate (width - s.length) fill ++ s.toList)

/-- The text filled with `fill` on its right up to `width` characters. -/
def padRight (width : Nat) (fill : Char) (s : String) : String :=
  String.ofList (s.toList ++ List.replicate (width - s.length) fill)

/-- The value of a decimal digit. -/
def digitValue (c : Char) : Option Nat :=
  if '0' ≤ c ∧ c ≤ '9' then some (c.toNat - 48) else none

/-- The value of a hexadecimal digit of either case. -/
def hexValue (c : Char) : Option Nat :=
  if '0' ≤ c ∧ c ≤ '9' then some (c.toNat - 48)
  else if 'a' ≤ c ∧ c ≤ 'f' then some (c.toNat - 87)
  else if 'A' ≤ c ∧ c ≤ 'F' then some (c.toNat - 55)
  else none

/-- A natural number in lower case hexadecimal digits. -/
def hexDigits (n : Nat) : String := String.ofList (Nat.toDigits 16 n)

/-- The value of digits with the given values of single digits; there has to be at least one, and
the value has to be below `bound`. -/
def readDigits? (value : Char → Option Nat) (base bound : Nat) (cs : List Char) : Option Nat :=
  if cs.isEmpty then none
  else do
    let n ← cs.foldl (fun n c => do return (← n) * base + (← value c)) (some 0)
    if n < bound then some n else none

/-- The value of decimal digits, which may have a plus sign before them, if it is below `bound`. -/
def readNatural? (bound : Nat) (cs : List Char) : Option Nat :=
  readDigits? digitValue 10 bound (if cs.head? = some '+' then cs.drop 1 else cs)

end RequestRunner.Text
