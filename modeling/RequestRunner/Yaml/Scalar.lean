import RequestRunner.Decimal.Shortest
import RequestRunner.Text.Quoted
import RequestRunner.Yaml.Document

/-!
# What scalars mean

A plain scalar is null, a truth value, a whole number, a fraction or a text, by the first form that
fits; any other scalar is a text unless a tag says otherwise. Whole numbers may be hexadecimal,
octal or binary behind `0x`, `0o` and `0b`. Decimal digits with a zero before them are a text.

## Main definitions

* `Yaml.Meaning`, `Yaml.Meaning.describe` — what a scalar means, and the words for it.
* `Yaml.isNull`, `Yaml.readBool?`, `Yaml.readUnsigned?`, `Yaml.readFraction?` — the single forms.
* `Yaml.meaning` — what a scalar means.
-/

namespace RequestRunner.Yaml

/-- What a scalar means; `wide` is a whole number that 64 bits do not hold. -/
inductive Meaning where
  | null
  | bool (b : Bool)
  | integer (n : Int)
  | wide (n : Int)
  | fraction (x : Binary64)
  | text (cs : List Char)
  deriving DecidableEq

/-- A whole number in decimal digits. -/
def integerText (n : Int) : String := (if n < 0 then "-" else "") ++ Text.decimal n.natAbs

/-- The words for what a scalar means. -/
def Meaning.describe : Meaning → String
  | null => "unit value"
  | bool b => "boolean `" ++ (if b then "true" else "false") ++ "`"
  | integer n => "integer `" ++ integerText n ++ "`"
  | wide n => "integer `" ++ integerText n ++ "` as " ++ (if n < 0 then "i128" else "u128")
  | fraction x => "floating point `" ++ x.positional ++ "`"
  | text cs => "string " ++ Text.quoted (String.ofList cs)

/-! ### Forms of plain scalars -/

/-- Whether the text is one of the forms of null. -/
def isNull (cs : List Char) : Bool :=
  ["null", "Null", "NULL", "~"].any (·.toList == cs)

/-- The truth value that the text is. -/
def readBool? (cs : List Char) : Option Bool :=
  if ["true", "True", "TRUE"].any (·.toList == cs) then some true
  else if ["false", "False", "FALSE"].any (·.toList == cs) then some false
  else none

/-- The text without one leading `c`. -/
def dropSign (c : Char) (cs : List Char) : List Char := if cs.head? = some c then cs.drop 1 else cs

/-- Whether the text starts with a sign. -/
def hasSign (cs : List Char) : Bool := cs.head?.any fun c => c == '+' || c == '-'

/-- Whether the text is a zero and further decimal digits, with or without a sign. -/
def isZeroPadded (cs : List Char) : Bool :=
  let digits := if hasSign cs then cs.drop 1 else cs
  1 < digits.length && digits.head? == some '0' && digits.all fun c => (Text.digitValue c).isSome

/-- The value of a digit in base eight. -/
def octalValue (c : Char) : Option Nat := (Text.digitValue c).filter (· < 8)

/-- The value of a digit in base two. -/
def binaryValue (c : Char) : Option Nat := (Text.digitValue c).filter (· < 2)

/-- The whole number below `bound` that the text writes behind the mark of another base. -/
def readMarked? (bound : Nat) (cs : List Char) : Option Nat :=
  match cs with
  | '0' :: 'x' :: rest => Text.readDigits? Text.hexValue 16 bound rest
  | '0' :: 'o' :: rest => Text.readDigits? octalValue 8 bound rest
  | '0' :: 'b' :: rest => Text.readDigits? binaryValue 2 bound rest
  | _ => none

/-- The whole number below `bound` that the text is, with or without a plus sign. -/
def readUnsigned? (bound : Nat) (cs : List Char) : Option Nat :=
  let digits := dropSign '+' cs
  (readMarked? bound digits).orElse fun _ =>
    if hasSign digits || isZeroPadded cs then none
    else Text.readDigits? Text.digitValue 10 bound digits

/-- The absolute value, at most `bound`, of the whole number that the text writes behind a minus
sign. -/
def readNegative? (bound : Nat) (cs : List Char) : Option Nat :=
  match cs with
  | '-' :: digits =>
    (readMarked? (bound + 1) digits).orElse fun _ =>
      if isZeroPadded cs then none else Text.readDigits? Text.digitValue 10 (bound + 1) digits
  | _ => none

/-- The whole number that the text is. -/
def readInteger? (cs : List Char) : Option Meaning :=
  ((readUnsigned? UInt64.size cs).map fun n => .integer n).orElse fun _ =>
  ((readNegative? (Nat.pow 2 63) cs).map fun n => .integer (-n)).orElse fun _ =>
  ((readUnsigned? (Nat.pow 2 128) cs).map fun n => .wide n).orElse fun _ =>
  (readNegative? (Nat.pow 2 127) cs).map fun n => .wide (-n)

/-- A whole number with an optional sign. -/
def readExponent? (cs : List Char) : Option Int :=
  match cs with
  | '-' :: digits => (Text.readDigits? Text.digitValue 10 (Nat.pow 10 digits.length) digits).map (-Int.ofNat ·)
  | _ =>
    let digits := dropSign '+' cs
    (Text.readDigits? Text.digitValue 10 (Nat.pow 10 digits.length) digits).map Int.ofNat

/-- The number `digits · 10 ^ exponent`, rounded; an infinity if it is too large. -/
def scaled (negative : Bool) (digits : List Char) (exponent : Int) : Binary64 :=
  let n := digits.foldl (fun n d => n * 10 + (Text.digitValue d).getD 0) 0
  if n = 0 ∨ (digits.length : Int) + exponent < -400 then .ofMagnitude negative 0
  else if 400 < (digits.length : Int) + exponent then .ofMagnitude negative Binary64.infinityMagnitude
  else .ofRatio negative (n * Nat.pow 10 exponent.toNat) (Nat.pow 10 (-exponent).toNat)

/-- The number that decimal digits with a point and an exponent stand for. -/
def readDecimal? (cs : List Char) : Option Binary64 :=
  let negative := cs.head? == some '-'
  let isDigit (c : Char) : Bool := (Text.digitValue c).isSome
  let (whole, rest) := (dropSign '-' cs).span isDigit
  let (behind, rest) := if rest.head? = some '.' then (rest.drop 1).span isDigit else ([], rest)
  let digits := (whole ++ behind).dropWhile (· == '0')
  if whole.isEmpty && behind.isEmpty then none
  else
    match rest with
    | [] => some (scaled negative digits (-Int.ofNat behind.length))
    | e :: rest =>
      if e = 'e' ∨ e = 'E' then
        (readExponent? rest).map fun n => scaled negative digits (n - Int.ofNat behind.length)
      else none

/-- The fraction that the text is. -/
def readFraction? (cs : List Char) : Option Binary64 :=
  let positive := dropSign '+' cs
  if positive ≠ cs ∧ hasSign positive then none
  else if [".inf", ".Inf", ".INF"].any (·.toList == positive) then
    some (.ofMagnitude false Binary64.infinityMagnitude)
  else if ["-.inf", "-.Inf", "-.INF"].any (·.toList == cs) then
    some (.ofMagnitude true Binary64.infinityMagnitude)
  else if [".nan", ".NaN", ".NAN"].any (·.toList == cs) then
    some (.ofMagnitude false (Binary64.infinityMagnitude + Nat.pow 2 51))
  else (readDecimal? positive).filter (·.isFinite)

/-- What a plain scalar without a tag means. -/
def plainMeaning (cs : List Char) : Meaning :=
  if cs.isEmpty || isNull cs then .null
  else
    match readBool? cs, readInteger? cs with
    | some b, _ => .bool b
    | none, some n => n
    | none, none =>
      if isZeroPadded cs then .text cs
      else
        match readFraction? cs with
        | some x => .fraction x
        | none => .text cs

/-! ### Tags -/

/-- The tag of one of the kinds of scalars. -/
def coreTag (name : String) : List Char := ("tag:yaml.org,2002:" ++ name).toList

/-- What a scalar means; for a text that does not fit its tag, the words for what was expected. -/
def meaning (tag : Option (List Char)) (cs : List Char) (style : ScalarStyle) :
    Except String Meaning :=
  match tag with
  | none => .ok (if style = .plain then plainMeaning cs else .text cs)
  | some t =>
    if t = coreTag "bool" then
      match readBool? cs with
      | some b => .ok (.bool b)
      | none => .error "a boolean"
    else if t = coreTag "int" then
      match readInteger? cs with
      | some n => .ok n
      | none => .error "an integer"
    else if t = coreTag "float" then
      match readFraction? cs with
      | some x => .ok (.fraction x)
      | none => .error "a float"
    else if t = coreTag "null" then if isNull cs then .ok .null else .error "null"
    else if t.head? = some '!' ∧ style = .plain then .ok (plainMeaning cs)
    else .ok (.text cs)

end RequestRunner.Yaml
