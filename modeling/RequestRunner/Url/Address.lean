import RequestRunner.Text.Ascii
import RequestRunner.Text.Split

/-!
# Numeric hosts

An address of thirty-two bits is written as up to four numbers, each in decimal, octal or
hexadecimal digits, where the last one fills all bytes that are left. An address of one hundred and
twenty-eight bits is written as eight pieces of sixteen bits; one run of zeros may be left out, and
the last two pieces may be written as four decimal numbers.

## Main definitions

* `Url.endsInNumber` — whether a host name has to be a numeric host.
* `Url.readIpv4?`, `Url.readIpv6?` — numeric hosts.
-/

namespace RequestRunner.Url

/-! ### Thirty-two bits -/

/-- The digits of one of the numbers, with their values and their base. -/
def numberForm : List Char → (Char → Option Nat) × Nat × List Char
  | '0' :: 'x' :: digits => (Text.hexValue, 16, digits)
  | '0' :: 'X' :: digits => (Text.hexValue, 16, digits)
  | '0' :: c :: digits => (fun d => (Text.digitValue d).filter (· < 8), 8, c :: digits)
  | digits => (Text.digitValue, 10, digits)

/-- One of the numbers, of any size. A mark of hexadecimal digits without any stands for zero. -/
def readNumber? (cs : List Char) : Option Nat :=
  if cs.isEmpty then none
  else
    let (value, base, digits) := numberForm cs
    if digits.isEmpty then some 0
    else digits.foldl (fun n c => do return (← n) * base + (← value c)) (some 0)

/-- The parts between the dots, without an empty one at the end. -/
def dotParts (cs : List Char) : List (List Char) :=
  let parts := Text.split '.' cs
  if parts.getLast? = some [] then parts.dropLast else parts

/-- Whether the last part is a number, so that the host has to be numeric. -/
def endsInNumber (cs : List Char) : Bool :=
  match (dotParts cs).getLast? with
  | none => false
  | some part => (!part.isEmpty && part.all Char.isDigit) || (readNumber? part).isSome

/-- The value of numbers, all but the last of which stand for one byte; `bytes` is how many bytes
there are from the first number on. -/
def combine? : Nat → List Nat → Option Nat
  | _, [] => none
  | 0, _ => none
  | bytes, [n] => if n < Nat.pow 256 bytes then some n else none
  | bytes + 1, n :: ns =>
    if n < 256 then do return n * Nat.pow 256 bytes + (← combine? bytes ns) else none

/-- An address of thirty-two bits. -/
def readIpv4? (cs : List Char) : Option Nat := do combine? 4 (← (dotParts cs).mapM readNumber?)

/-! ### One hundred and twenty-eight bits -/

/-- One of four decimal numbers: below 256 and without zeros at the head. -/
def readByte? (cs : List Char) : Option Nat :=
  if cs.length > 1 && cs.head? == some '0' then none else Text.readDigits? Text.digitValue 10 256 cs

/-- The two pieces that four decimal numbers stand for. -/
def readDotted? (cs : List Char) : Option (List Nat) := do
  match ← (Text.split '.' cs).mapM readByte? with
  | [a, b, c, d] => some [a * 256 + b, c * 256 + d]
  | _ => none

/-- A piece of one to four hexadecimal digits. -/
def readPiece? (cs : List Char) : Option Nat :=
  if cs.length > 4 then none else Text.readDigits? Text.hexValue 16 (Nat.pow 2 16) cs

/-- Pieces between colons; the last one may be four decimal numbers. -/
def readPieces? : List (List Char) → Option (List Nat)
  | [] => some []
  | [part] => if part.contains '.' then readDotted? part else (readPiece? part).map ([·])
  | part :: parts => do return (← readPiece? part) :: (← readPieces? parts)

/-- The pieces of a text; none for the empty one. -/
def readSide? (cs : List Char) : Option (List Nat) :=
  if cs.isEmpty then some [] else readPieces? (Text.split ':' cs)

/-- The texts before and behind the first two colons in a row. -/
def splitAtGap? : List Char → Option (List Char × List Char)
  | ':' :: ':' :: cs => some ([], cs)
  | c :: cs => (splitAtGap? cs).map fun (before, behind) => (c :: before, behind)
  | [] => none

/-- An address of one hundred and twenty-eight bits. -/
def readIpv6? (cs : List Char) : Option (List Nat) :=
  match splitAtGap? cs with
  | none => (readSide? cs).filter (·.length == 8)
  | some (before, behind) =>
    if before.contains '.' then none
    else do
      let first ← readSide? before
      let last ← readSide? behind
      if first.length + last.length < 8 then
        some (first ++ List.replicate (8 - first.length - last.length) 0 ++ last)
      else none

end RequestRunner.Url
