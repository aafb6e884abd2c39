import RequestRunner.Text.Blank
import RequestRunner.Text.Word
import RequestRunner.Document.Method

/-!
# Kinds of lines

What one line of a document looks like on its own; what it means depends on where it stands. The
first of these rules that fits decides.

1. Only blanks: `blank`.
2. The first characters that are not blank are `###`: `separator`.
3. From the first column a verb, a space and something that looks like an address, or an `http` or
   `https` address alone: `method`. A line with a blank before the verb is no method line.
4. `#` or `//` first: `comment`.
5. A colon with something before it: `header`.
6. All else: `text`.

## Main definitions

* `LineKind` — the six kinds.
* `looksLikeAddress`, `isBareAddress` — the two shapes of an address in rule 3.
* `LineKind.ofLine` — the kind of a line.
-/

namespace RequestRunner

/-- What one line of a document looks like on its own. -/
inductive LineKind where
  | /-- A line that opens a new region. -/
    separator
  | /-- A verb with an address, or an address alone for the verb `GET`. -/
    method (method : Method) (url : String)
  | comment
  | blank
  | header (name value : String)
  | text
  deriving DecidableEq

/-- What follows `start` in `cs`, if `cs` starts with it. -/
def after? (start : String) (cs : List Char) : Option (List Char) :=
  if start.toList.isPrefixOf cs then some (cs.drop start.length) else none

/-- What follows `http://` or `https://`. -/
def afterScheme? (cs : List Char) : Option (List Char) :=
  (after? "http://" cs).orElse fun _ => after? "https://" cs

/-- A character of a label in a host name. -/
def isLabelChar (c : Char) : Bool := Text.isWord c || c == '-'

/-- Label characters, a dot and a further label character. -/
def startsWithDottedHost (cs : List Char) : Bool :=
  match cs.span isLabelChar with
  | (_ :: _, '.' :: c :: _) => isLabelChar c
  | _ => false

/-- Whether the text starts as an address may: an `http` or `https` scheme, a slash, a placeholder
in double braces, or a host name with a dot in it. -/
def looksLikeAddress (cs : List Char) : Bool :=
  (afterScheme? cs).isSome || cs.head? == some '/' || (after? "\x7b\x7b" cs).isSome ||
    startsWithDottedHost cs

/-- Whether the text is an `http` or `https` address and nothing else. -/
def isBareAddress (cs : List Char) : Bool :=
  match afterScheme? cs with
  | some rest => !rest.isEmpty && rest.all (!Text.isBlank ·)
  | none => false

/-- The parts before and after the first `c`. -/
def splitAt? (c : Char) (cs : List Char) : Option (List Char × List Char) :=
  match cs.span (· != c) with
  | (before, _ :: behind) => some (before, behind)
  | (_, []) => none

namespace LineKind

/-- A verb and an address behind the first space of the line. -/
def ofVerbAndAddress? (line : List Char) : Option LineKind := do
  let (verb, rest) ← splitAt? ' ' line
  let m ← Method.ofVerb? (String.ofList verb)
  let url := Text.trim rest
  if looksLikeAddress url then some (.method m (String.ofList url)) else none

/-- The method line that `line` is, which has no blanks at its end. -/
def ofMethodLine? (line : List Char) : Option LineKind :=
  (ofVerbAndAddress? line).orElse fun _ =>
    if isBareAddress line then some (.method .get (String.ofList line)) else none

/-- The kind of a line that is neither blank nor a separator nor a method line, from the line
without the blanks around it. -/
def ofTrimmed (trimmed : List Char) : LineKind :=
  if trimmed.head? == some '#' || (after? "//" trimmed).isSome then .comment
  else match splitAt? ':' trimmed with
    | some (name@(_ :: _), value) =>
      .header (String.ofList (Text.trim name)) (String.ofList (Text.trim value))
    | _ => .text

/-- The kind of a line given as characters. -/
def ofChars (line : List Char) : LineKind :=
  let trimmed := Text.trim line
  if trimmed.isEmpty then .blank
  else if (after? "###" trimmed).isSome then .separator
  else (ofMethodLine? (Text.trimEnd line)).getD (ofTrimmed trimmed)

/-- The kind of a line. -/
def ofLine (line : String) : LineKind := ofChars line.toList

end LineKind

end RequestRunner
