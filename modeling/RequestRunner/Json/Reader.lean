import RequestRunner.Data.FieldMap
import RequestRunner.Json.Error

/-!
# Reading JSON

Reading functions take the characters that are left and give a result with the characters that are
left behind it, or a fault. A value may have 127 arrays and objects around a place; what is skipped
may have any number.

Whole numbers from `-2 ^ 63` to `2 ^ 64 - 1` are kept exactly, `-0` and all others become binary
fractions. A fraction is read quickly rather than exactly: the digits go into a significand below
`2 ^ 64`, further digits are dropped, and the significand is multiplied or divided once by a power
of ten, after divisions by `1e308` where the power is smaller than that.

## Main definitions

* `Json.Reader` — the type of these functions.
* `Json.readArranged`, `Json.readValue`, `Json.skipValue` — reading and skipping any value.
* `Json.readString`, `Json.readUnsigned` — reading a value of one kind.
* `Json.readItems`, `Json.readMembers`, `Json.foldMembers` — the insides of arrays and objects.
* `Json.readAll` — the value that a whole text is.
* `Json.parse?` — the value of a text, if it has one.
-/

namespace RequestRunner.Json

/-- A function from the characters left to a result and the characters left behind it. -/
abbrev Reader (α : Type) := List Char → Except Fault (α × List Char)

/-- A character that may stand between the tokens. -/
def isGap (c : Char) : Bool := c == ' ' || c == '\n' || c == '\t' || c == '\r'

/-- The text from its next token. -/
def skipGap (cs : List Char) : List Char := cs.dropWhile isGap

/-- Whether the character is a decimal digit. -/
def isDigit (c : Char) : Bool := (Text.digitValue c).isSome

/-- Whether the text starts with a decimal digit. -/
def startsWithDigit (cs : List Char) : Bool := cs.head?.any isDigit

/-! ### Words and strings -/

/-- Reads exactly the given characters. -/
def readWord : List Char → List Char → Except Fault (List Char)
  | [], cs => .ok cs
  | _ :: _, [] => failAt .endInValue []
  | e :: es, c :: cs => if c = e then readWord es cs else failBehind .expectedWord (c :: cs)

/-- Reads four hexadecimal digits. -/
def readHexUnit (cs : List Char) : Except Fault (Nat × List Char) :=
  match (cs.take 4).mapM Text.hexValue with
  | some [a, b, c, d] => .ok (((a * 16 + b) * 16 + c) * 16 + d, cs.drop 4)
  | _ =>
    let bytesLeft := Text.byteLength cs
    if bytesLeft < 4 then .error ⟨.endInString, 0⟩ else .error ⟨.badEscape, bytesLeft - 4⟩

/-- The character that a letter stands for behind a reverse solidus. -/
def shortEscape? (c : Char) : Option Char :=
  if c = '"' then some '"'
  else if c = '\\' then some '\\'
  else if c = '/' then some '/'
  else if c = 'b' then some '\x08'
  else if c = 'f' then some '\x0c'
  else if c = 'n' then some '\n'
  else if c = 'r' then some '\r'
  else if c = 't' then some '\t'
  else none

/-- Reads the rest of a surrogate pair behind its first unit. -/
def readLowUnit (high : Nat) (cs : List Char) : Except Fault (Char × List Char) :=
  match cs with
  | [] => failAt .endInString []
  | '\\' :: [] => failAt .endInString []
  | '\\' :: 'u' :: rest => do
    let (low, rest) ← readHexUnit rest
    if 0xDC00 ≤ low ∧ low ≤ 0xDFFF then
      .ok (Char.ofNat ((high - 0xD800) * 1024 + (low - 0xDC00) + 0x10000), rest)
    else failAt .loneSurrogate rest
  | '\\' :: rest => failBehind .endOfEscape rest
  | rest => failBehind .endOfEscape rest

/-- Reads an escape behind its reverse solidus. -/
def readEscape (cs : List Char) : Except Fault (Char × List Char) :=
  match cs with
  | [] => failAt .endInString []
  | 'u' :: rest => do
    let (unit, rest) ← readHexUnit rest
    if 0xDC00 ≤ unit ∧ unit ≤ 0xDFFF then failAt .loneSurrogate rest
    else if 0xD800 ≤ unit ∧ unit ≤ 0xDBFF then readLowUnit unit rest
    else .ok (Char.ofNat unit, rest)
  | c :: rest =>
    match shortEscape? c with
    | some e => .ok (e, rest)
    | none => failBehind .badEscape (c :: rest)

/-- Reads the characters of a string up to its closing quote; `fuel` is at least their number. -/
def readStringChars : Nat → List Char → Except Fault (List Char × List Char)
  | 0, cs => failAt .endInString cs
  | _, [] => failAt .endInString []
  | fuel + 1, c :: cs =>
    if c = '"' then .ok ([], cs)
    else if c = '\\' then do
      let (e, rest) ← readEscape cs
      let (es, rest) ← readStringChars fuel rest
      .ok (e :: es, rest)
    else if c.toNat < 32 then failBehind .controlCharacter (c :: cs)
    else do
      let (es, rest) ← readStringChars fuel cs
      .ok (c :: es, rest)

/-- Reads a string behind its opening quote. -/
def readQuoted : Reader String := fun cs => do
  let (s, rest) ← readStringChars (cs.length + 1) cs
  .ok (String.ofList s, rest)

/-- Skips a string behind its opening quote, whatever its escapes stand for; `fuel` is at least the
number of characters. -/
def skipStringChars : Nat → List Char → Except Fault (List Char)
  | 0, cs => failAt .endInString cs
  | _, [] => failAt .endInString []
  | fuel + 1, c :: cs =>
    if c = '"' then .ok cs
    else if c = '\\' then
      match cs with
      | [] => failAt .endInString []
      | 'u' :: rest => do
        let (_, rest) ← readHexUnit rest
        skipStringChars fuel rest
      | e :: rest =>
        if (shortEscape? e).isSome then skipStringChars fuel rest else failBehind .badEscape (e :: rest)
    else if c.toNat < 32 then failAt .controlCharacter (c :: cs)
    else skipStringChars fuel cs

/-- Skips a string behind its opening quote. -/
def skipQuoted (cs : List Char) : Except Fault (List Char) := skipStringChars (cs.length + 1) cs

/-! ### Numbers -/

/-- The digits at the front of the text appended to `n` as long as the number stays at or below
`limit`, and the text behind them. -/
def digitsWithin (limit n : Nat) : List Char → Nat × List Char
  | [] => (n, [])
  | c :: cs =>
    match Text.digitValue c with
    | some d => if n * 10 + d ≤ limit then digitsWithin limit (n * 10 + d) cs else (n, c :: cs)
    | none => (n, c :: cs)

/-- The greatest significand and the greatest exponent. -/
def greatestSignificand : Nat := UInt64.size - 1

/-- The greatest exponent that is not out of range by its digits alone. -/
def greatestExponent : Nat := Nat.pow 2 31 - 1

/-- `x · 10 ^ exponent` in steps, `none` if it is too large; after `steps` divisions by `1e308`
every significand is zero. -/
def scaleByPowerOfTen (x : Binary64) (exponent : Int) : Nat → Option Binary64
  | 0 => some x
  | steps + 1 =>
    if exponent.natAbs ≤ 308 then
      let power := Binary64.ofNat (Nat.pow 10 exponent.natAbs)
      if 0 ≤ exponent then
        let y := x.mul power
        if y.isFinite then some y else none
      else some (x.div power)
    else if x.isZero then some x
    else if 0 ≤ exponent then none
    else scaleByPowerOfTen (x.div (.ofNat (Nat.pow 10 308))) (exponent + 308) steps

/-- The fraction with the given parts, in front of `rest`. -/
def fraction (negative : Bool) (significand : Nat) (exponent : Int) (rest : List Char) :
    Except Fault (Json × List Char) :=
  match scaleByPowerOfTen (.ofNat significand) exponent 5 with
  | some x => .ok (.float (if negative then x.neg else x), rest)
  | none => failAt .outOfRange rest

/-- Reads an exponent behind its letter. -/
def readExponent (negative : Bool) (significand : Nat) (exponent : Int) (cs : List Char) :
    Except Fault (Json × List Char) :=
  let (shrinks, cs) :=
    match cs with
    | '+' :: rest => (false, rest)
    | '-' :: rest => (true, rest)
    | _ => (false, cs)
  if cs.isEmpty then failAt .endInValue []
  else if !startsWithDigit cs then failBehind .badNumber cs
  else
    let (e, rest) := digitsWithin greatestExponent 0 cs
    if startsWithDigit rest then
      if significand ≠ 0 ∧ !shrinks then failBehind .outOfRange rest
      else .ok (.float (.ofMagnitude negative 0), rest.dropWhile isDigit)
    else fraction negative significand (if shrinks then exponent - e else exponent + e) rest

/-- Reads the exponent of a number if there is one. -/
def readFractionEnd (negative : Bool) (significand : Nat) (exponent : Int) (cs : List Char) :
    Except Fault (Json × List Char) :=
  match cs with
  | 'e' :: rest => readExponent negative significand exponent rest
  | 'E' :: rest => readExponent negative significand exponent rest
  | _ => fraction negative significand exponent cs

/-- Reads the digits behind a decimal point. -/
def readDecimals (negative : Bool) (significand : Nat) (exponent : Int) (cs : List Char) :
    Except Fault (Json × List Char) :=
  let (s, rest) := digitsWithin greatestSignificand significand cs
  let exponent' := exponent - (cs.length - rest.length : Nat)
  if startsWithDigit rest then
    readFractionEnd negative s exponent' (rest.dropWhile isDigit)
  else if rest.length = cs.length then
    failBehind (if rest.isEmpty then .endInValue else .badNumber) rest
  else readFractionEnd negative s exponent' rest

/-- Reads what follows the whole part of a number. -/
def readNumberEnd (negative : Bool) (significand : Nat) (cs : List Char) :
    Except Fault (Json × List Char) :=
  match cs with
  | '.' :: rest => readDecimals negative significand 0 rest
  | 'e' :: rest => readExponent negative significand 0 rest
  | 'E' :: rest => readExponent negative significand 0 rest
  | _ =>
    if !negative then .ok (.integer significand, cs)
    else if significand = 0 ∨ Nat.pow 2 63 < significand then
      .ok (.float (Binary64.ofNat significand).neg, cs)
    else .ok (.integer (-significand), cs)

/-- Reads a number behind its sign. -/
def readNumber (negative : Bool) : Reader Json := fun cs =>
  match cs with
  | [] => failAt .endInValue []
  | '0' :: rest =>
    if startsWithDigit rest then failBehind .badNumber rest else readNumberEnd negative 0 rest
  | c :: _ =>
    if !isDigit c then failBehind .badNumber cs
    else
      let (s, rest) := digitsWithin greatestSignificand 0 cs
      if startsWithDigit rest then
        let behind := rest.dropWhile isDigit
        let exponent : Int := (rest.length - behind.length : Nat)
        match behind with
        | '.' :: more => readDecimals negative s exponent more
        | _ => readFractionEnd negative s exponent behind
      else readNumberEnd negative s rest

/-- Skips an exponent behind its letter. -/
def skipExponent (cs : List Char) : Except Fault (List Char) :=
  let cs :=
    match cs with
    | '+' :: rest => rest
    | '-' :: rest => rest
    | _ => cs
  if startsWithDigit cs then .ok (cs.dropWhile isDigit) else failBehind .badNumber cs

/-- Skips the exponent of a number if there is one. -/
def skipNumberEnd (cs : List Char) : Except Fault (List Char) :=
  match cs with
  | 'e' :: rest => skipExponent rest
  | 'E' :: rest => skipExponent rest
  | _ => .ok cs

/-- Skips a number behind its sign. -/
def skipNumber (cs : List Char) : Except Fault (List Char) :=
  let whole : Except Fault (List Char) :=
    match cs with
    | '0' :: rest => if startsWithDigit rest then failBehind .badNumber rest else .ok rest
    | _ => if startsWithDigit cs then .ok (cs.dropWhile isDigit) else failBehind .badNumber cs
  do
    let rest ← whole
    match rest with
    | '.' :: more =>
      if startsWithDigit more then skipNumberEnd (more.dropWhile isDigit)
      else failBehind .badNumber more
    | _ => skipNumberEnd rest

/-! ### Arrays and objects -/

/-- Reads the further items of an array up to its closing bracket, which is left; `isFirst` tells
whether none came before. `fuel` is at least the number of characters. -/
def readItems {α : Type} (item : Reader α) : Nat → Bool → Reader (List α)
  | 0, _, cs => failBehind .endInList cs
  | fuel + 1, isFirst, cs =>
    match skipGap cs with
    | [] => failBehind .endInList []
    | ']' :: rest => .ok ([], ']' :: rest)
    | c :: rest => do
      let start ←
        if isFirst then Except.ok (c :: rest)
        else if c = ',' then
          match skipGap rest with
          | [] => failBehind .endInValue []
          | ']' :: more => failBehind .trailingComma (']' :: more)
          | more => Except.ok more
        else failBehind .expectedListEnd (c :: rest)
      let (v, rest) ← item start
      let (vs, rest) ← readItems item fuel false rest
      .ok (v :: vs, rest)

/-- Reads the closing bracket of an array. -/
def closeArray (cs : List Char) : Except Fault (List Char) :=
  match skipGap cs with
  | [] => failBehind .endInList []
  | ']' :: rest => .ok rest
  | ',' :: rest =>
    match skipGap rest with
    | ']' :: more => failBehind .trailingComma (']' :: more)
    | more => failBehind .trailingText more
  | rest => failBehind .trailingText rest

/-- Reads the name of the next member with its colon; `none` before the closing brace. -/
def readKey (isFirst : Bool) (cs : List Char) : Except Fault (Option String × List Char) :=
  match skipGap cs with
  | [] => failBehind .endInObject []
  | '}' :: rest => .ok (none, '}' :: rest)
  | c :: rest => do
    let start ←
      if isFirst then Except.ok (c :: rest)
      else if c = ',' then Except.ok (skipGap rest)
      else failBehind .expectedObjectEnd (c :: rest)
    match start with
    | [] => failBehind .endInValue []
    | '"' :: more => do
      let (name, more) ← readQuoted more
      .ok (some name, more)
    | '}' :: more => failBehind .trailingComma ('}' :: more)
    | more => failBehind .keyNotString more

/-- Reads the colon behind a name. -/
def readColon (cs : List Char) : Except Fault (List Char) :=
  match skipGap cs with
  | [] => failBehind .endInObject []
  | ':' :: rest => .ok rest
  | rest => failBehind .expectedColon rest

/-- Goes through the members of an object up to its closing brace, which is left: `member` gets
the state, a name and the text behind it with the colon. `fuel` is at least the number of
characters. -/
def foldMembers {σ : Type} (member : σ → String → Reader σ) : Nat → Bool → σ → Reader σ
  | 0, _, _, cs => failBehind .endInObject cs
  | fuel + 1, isFirst, state, cs => do
    let (name, rest) ← readKey isFirst cs
    match name with
    | none => .ok (state, rest)
    | some name =>
      let (state, rest) ← member state name rest
      foldMembers member fuel false state rest

/-- Reads the members of an object up to its closing brace, which is left, in reverse order. -/
def readMembers {α : Type} (value : Reader α) : Reader (List (String × α)) := fun cs =>
  foldMembers
    (fun members name rest => do
      let rest ← readColon rest
      let (v, rest) ← value rest
      .ok ((name, v) :: members, rest))
    (cs.length + 1) true [] cs

/-- Reads the closing brace of an object. -/
def closeObject (cs : List Char) : Except Fault (List Char) :=
  match skipGap cs with
  | [] => failBehind .endInObject []
  | '}' :: rest => .ok rest
  | ',' :: rest => failBehind .trailingComma (',' :: rest)
  | rest => failBehind .trailingText rest

/-! ### Values -/

/-- Reads a value with at most `depth` arrays and objects one inside the other; `arrange` makes the
members of an object from those that were read, which it gets in the order of the text. -/
def readArranged (arrange : List (String × Json) → List (String × Json)) (depth : Nat) :
    Reader Json := fun cs =>
  match skipGap cs with
  | [] => failBehind .endInValue []
  | 'n' :: rest => do .ok (.null, ← readWord ['u', 'l', 'l'] rest)
  | 't' :: rest => do .ok (.bool true, ← readWord ['r', 'u', 'e'] rest)
  | 'f' :: rest => do .ok (.bool false, ← readWord ['a', 'l', 's', 'e'] rest)
  | '"' :: rest => do
    let (s, rest) ← readQuoted rest
    .ok (.string s, rest)
  | '-' :: rest => readNumber true rest
  | '[' :: rest =>
    match depth with
    | 0 => failBehind .tooDeep ('[' :: rest)
    | depth + 1 => do
      let (items, rest) ← readItems (readArranged arrange depth) (rest.length + 1) true rest
      .ok (.array items, ← closeArray rest)
  | '{' :: rest =>
    match depth with
    | 0 => failBehind .tooDeep ('{' :: rest)
    | depth + 1 => do
      let (members, rest) ← readMembers (readArranged arrange depth) rest
      .ok (.object (arrange members.reverse), ← closeObject rest)
  | c :: rest =>
    if isDigit c then readNumber false (c :: rest) else failBehind .expectedValue (c :: rest)

/-- Reads a value with at most `depth` arrays and objects one inside the other; the members of an
object are put in order, of several with one name the last. -/
def readValue (depth : Nat) : Reader Json := readArranged Sorted.ofList depth

/-- How many arrays and objects may stand one inside the other. -/
def depthLimit : Nat := 127

/-- The cause for a value of another kind than expected; a scalar is read, an array or object is
not. -/
def wrongKind {α : Type} (expected : String) (cs : List Char) : Except Fault α :=
  match cs with
  | '[' :: _ => failAt (.wrongType .sequence expected) cs
  | '{' :: _ => failAt (.wrongType .map expected) cs
  | _ => do
    let (v, rest) ← readValue 0 cs
    match v with
    | .null => failAt (.wrongType .null expected) rest
    | .bool b => failAt (.wrongType (.bool b) expected) rest
    | .integer n => failAt (.wrongType (.integer n) expected) rest
    | .float x => failAt (.wrongType (.float x) expected) rest
    | .string s => failAt (.wrongType (.string s) expected) rest
    | .array _ => failAt (.wrongType .sequence expected) rest
    | .object _ => failAt (.wrongType .map expected) rest

/-- Reads a string value. -/
def readString : Reader String := fun cs =>
  match skipGap cs with
  | [] => failBehind .endInValue []
  | '"' :: rest => readQuoted rest
  | rest => wrongKind "a string" rest

/-- Reads a string value, or `null` for none. -/
def readOptionalString : Reader (Option String) := fun cs =>
  match skipGap cs with
  | 'n' :: rest => do .ok (none, ← readWord ['u', 'l', 'l'] rest)
  | rest => do
    let (s, rest) ← readString rest
    .ok (some s, rest)

/-- Reads a whole number from zero to below `2 ^ bits`. -/
def readUnsigned (bits : Nat) : Reader Nat := fun cs =>
  let expected := "u" ++ Text.decimal bits
  let accept : Json × List Char → Except Fault (Nat × List Char)
    | (.integer n, rest) =>
      if 0 ≤ n ∧ n < Nat.pow 2 bits then .ok (n.toNat, rest)
      else failAt (.wrongValue (.integer n) expected) rest
    | (.float x, rest) => failAt (.wrongType (.float x) expected) rest
    | (_, rest) => failAt .expectedValue rest
  match skipGap cs with
  | [] => failBehind .endInValue []
  | '-' :: rest => do accept (← readNumber true rest)
  | c :: rest =>
    if isDigit c then do accept (← readNumber false (c :: rest)) else wrongKind expected (c :: rest)

/-- Reads an object with string values, of several members with one name the last. -/
def readStringMap : Reader FieldMap := fun cs =>
  match skipGap cs with
  | [] => failBehind .endInValue []
  | '{' :: rest => do
    let (members, rest) ← readMembers readString rest
    .ok (.ofList members.reverse, ← closeObject rest)
  | rest => wrongKind "a map" rest

/-! ### Skipping -/

/-- An array or object around the place. -/
inductive Frame where
  | list
  | object
  deriving DecidableEq

/-- Skips the name of a member with its colon. -/
def skipKey (cs : List Char) : Except Fault (List Char) :=
  match skipGap cs with
  | [] => failBehind .endInObject []
  | '"' :: rest => do readColon (← skipQuoted rest)
  | rest => failBehind .keyNotString rest

/-- What skipping goes on with: a value inside the given frames, or nothing. -/
inductive SkipStep where
  | value (frames : List Frame) (rest : List Char)
  | done (rest : List Char)

/-- Skips what may stand behind a value, or behind an opening bracket if `afterValue` is false, up
to the next value. -/
def skipCloses (afterValue : Bool) : List Frame → List Char → Except Fault SkipStep
  | [], cs => .ok (.done cs)
  | frame :: frames, cs =>
    let continueInside (rest : List Char) : Except Fault SkipStep :=
      match frame with
      | .list => .ok (.value (frame :: frames) rest)
      | .object => do .ok (.value (frame :: frames) (← skipKey rest))
    match skipGap cs, frame with
    | [], .list => failBehind .endInList []
    | [], .object => failBehind .endInObject []
    | ']' :: rest, .list => skipCloses true frames rest
    | '}' :: rest, .object => skipCloses true frames rest
    | c :: rest, frame =>
      if !afterValue then continueInside (c :: rest)
      else if c = ',' then continueInside rest
      else
        match frame with
        | .list => failBehind .expectedListEnd (c :: rest)
        | .object => failBehind .expectedObjectEnd (c :: rest)

/-- Skips a value inside the given frames and what follows it up to their end; `fuel` is at least
the number of characters. -/
def skipInside : Nat → List Frame → List Char → Except Fault (List Char)
  | 0, _, cs => failBehind .endInValue cs
  | fuel + 1, frames, cs => do
    let goOn (step : SkipStep) : Except Fault (List Char) :=
      match step with
      | .done rest => .ok rest
      | .value frames rest => skipInside fuel frames rest
    let next (rest : List Char) : Except Fault (List Char) := do
      goOn (← skipCloses true frames rest)
    match skipGap cs with
    | [] => failBehind .endInValue []
    | 'n' :: rest => next (← readWord ['u', 'l', 'l'] rest)
    | 't' :: rest => next (← readWord ['r', 'u', 'e'] rest)
    | 'f' :: rest => next (← readWord ['a', 'l', 's', 'e'] rest)
    | '"' :: rest => next (← skipQuoted rest)
    | '-' :: rest => next (← skipNumber rest)
    | '[' :: rest => goOn (← skipCloses false (.list :: frames) rest)
    | '{' :: rest => goOn (← skipCloses false (.object :: frames) rest)
    | c :: rest =>
      if isDigit c then next (← skipNumber (c :: rest)) else failBehind .expectedValue (c :: rest)

/-- Skips a value of any depth. -/
def skipValue (cs : List Char) : Except Fault (List Char) := skipInside (cs.length + 1) [] cs

/-! ### Whole texts -/

/-- What a reader makes of a whole text, with nothing but gaps behind it. -/
def readAll {α : Type} (reader : Reader α) (text : List Char) : Except Fault α := do
  let (v, rest) ← reader text
  match skipGap rest with
  | [] => .ok v
  | rest => failBehind .trailingText rest

/-- The value of a text, if it is one. -/
def parse? (text : String) : Option Json :=
  (readAll (readValue depthLimit) text.toList).toOption

end RequestRunner.Json
