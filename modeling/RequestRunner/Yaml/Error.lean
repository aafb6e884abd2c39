import RequestRunner.Text.Ascii

/-!
# Faults in YAML text

Why a text is no YAML stream: what is wrong and where, and what was being read and where that
began. A place at the very start of the text is not mentioned.

## Main definitions

* `Yaml.Mark` — a place in a text.
* `Yaml.Problem`, `Yaml.Activity` — what is wrong, and what was being read.
* `Yaml.Fault`, `Yaml.Fault.message` — the fault and its words.
-/

namespace RequestRunner.Yaml

/-- A place in a text: characters before it, lines before it, characters before it in its line. -/
structure Mark where
  index : Nat
  line : Nat
  column : Nat
  deriving DecidableEq

namespace Mark

/-- The start of a text. -/
def start : Mark := ⟨0, 0, 0⟩

/-- Whether the place is the start of the first line. -/
def isStart (m : Mark) : Bool := m.line == 0 && m.column == 0

/-- Line and column, counted from one. -/
def text (m : Mark) : String :=
  "line " ++ Text.decimal (m.line + 1) ++ " column " ++ Text.decimal (m.column + 1)

/-- The place behind a message; nothing for the start of the first line. -/
def suffix (m : Mark) : String := if m.isStart then "" else " at " ++ m.text

end Mark

/-- What is wrong with a text. -/
inductive Problem where
  | controlCharacter (byte : Nat)
  | noToken
  | noColonBehindKey
  | valueNotAllowed
  | keyNotAllowed
  | entryNotAllowed
  | unknownDirective
  | noDirectiveName
  | badDirectiveName
  | noLineEnd
  | noVersionPoint
  | longVersion
  | noVersion
  | noBlank
  | noBlankOrLineEnd
  | noAnchorName
  | noClosingAngle
  | noMark
  | noTagText
  | noEscapedOctet
  | badLeadingOctet
  | badTrailingOctet
  | zeroIndentation
  | tabForIndentation
  | markerInQuotes
  | endInQuotes
  | unknownEscape
  | noHexDigit
  | badCodePoint
  | colonInFlow
  | tabBelowIndentation
  | noDocumentStart
  | repeatedVersion
  | wrongVersion
  | repeatedTagHandle
  | undefinedTagHandle
  | noContent
  | noDash
  | noKey
  | noCommaOrBracket
  | noCommaOrBrace
  | unknownAnchor
  deriving DecidableEq

/-- What was being read. -/
inductive Activity where
  | nextToken
  | simpleKey
  | directive
  | versionDirective
  | tagDirective
  | tagDirectiveText
  | tagDirectiveHandle
  | anchor
  | aliasOf
  | tag
  | tagText
  | blockScalar
  | quotedScalar
  | quotedEscape
  | plainScalar
  | node
  | blockNode
  | flowNode
  | blockCollection
  | blockMapping
  | flowSequence
  | flowMapping
  deriving DecidableEq

/-- The words for a problem. -/
def Problem.text : Problem → String
  | controlCharacter _ => "control characters are not allowed"
  | noToken => "found character that cannot start any token"
  | noColonBehindKey => "could not find expected ':'"
  | valueNotAllowed => "mapping values are not allowed in this context"
  | keyNotAllowed => "mapping keys are not allowed in this context"
  | entryNotAllowed => "block sequence entries are not allowed in this context"
  | unknownDirective => "found unknown directive name"
  | noDirectiveName => "could not find expected directive name"
  | badDirectiveName => "found unexpected non-alphabetical character"
  | noLineEnd => "did not find expected comment or line break"
  | noVersionPoint => "did not find expected digit or '.' character"
  | longVersion => "found extremely long version number"
  | noVersion => "did not find expected version number"
  | noBlank => "did not find expected whitespace"
  | noBlankOrLineEnd => "did not find expected whitespace or line break"
  | noAnchorName => "did not find expected alphabetic or numeric character"
  | noClosingAngle => "did not find the expected '>'"
  | noMark => "did not find expected '!'"
  | noTagText => "did not find expected tag URI"
  | noEscapedOctet => "did not find URI escaped octet"
  | badLeadingOctet => "found an incorrect leading UTF-8 octet"
  | badTrailingOctet => "found an incorrect trailing UTF-8 octet"
  | zeroIndentation => "found an indentation indicator equal to 0"
  | tabForIndentation => "found a tab character where an indentation space is expected"
  | markerInQuotes => "found unexpected document indicator"
  | endInQuotes => "found unexpected end of stream"
  | unknownEscape => "found unknown escape character"
  | noHexDigit => "did not find expected hexdecimal number"
  | badCodePoint => "found invalid Unicode character escape code"
  | colonInFlow => "found unexpected ':'"
  | tabBelowIndentation => "found a tab character that violates indentation"
  | noDocumentStart => "did not find expected <document start>"
  | repeatedVersion => "found duplicate %YAML directive"
  | wrongVersion => "found incompatible YAML document"
  | repeatedTagHandle => "found duplicate %TAG directive"
  | undefinedTagHandle => "found undefined tag handle"
  | noContent => "did not find expected node content"
  | noDash => "did not find expected '-' indicator"
  | noKey => "did not find expected key"
  | noCommaOrBracket => "did not find expected ',' or ']'"
  | noCommaOrBrace => "did not find expected ',' or '\x7d'"
  | unknownAnchor => "unknown anchor"

/-- The words for an activity. -/
def Activity.text : Activity → String
  | nextToken => "while scanning for the next token"
  | simpleKey => "while scanning a simple key"
  | directive => "while scanning a directive"
  | versionDirective => "while scanning a %YAML directive"
  | tagDirective => "while scanning a %TAG directive"
  | tagDirectiveText => "while parsing a %TAG directive"
  | tagDirectiveHandle => "while parsing a tag directive"
  | anchor => "while scanning an anchor"
  | aliasOf => "while scanning an alias"
  | tag => "while scanning a tag"
  | tagText => "while parsing a tag"
  | blockScalar => "while scanning a block scalar"
  | quotedScalar => "while scanning a quoted scalar"
  | quotedEscape => "while parsing a quoted scalar"
  | plainScalar => "while scanning a plain scalar"
  | node => "while parsing a node"
  | blockNode => "while parsing a block node"
  | flowNode => "while parsing a flow node"
  | blockCollection => "while parsing a block collection"
  | blockMapping => "while parsing a block mapping"
  | flowSequence => "while parsing a flow sequence"
  | flowMapping => "while parsing a flow mapping"

/-- What is wrong and where, and what was being read since where. -/
structure Fault where
  problem : Problem
  place : Mark
  reading : Option (Activity × Mark)
  deriving DecidableEq

/-- The words for a fault. The start of what was being read is mentioned if it is another place
than that of the fault. -/
def Fault.message (f : Fault) : String :=
  let location :=
    match f.problem with
    | .controlCharacter byte => if byte = 0 then "" else " at position " ++ Text.decimal byte
    | _ => f.place.suffix
  let reading :=
    match f.reading with
    | none => ""
    | some (activity, since) =>
      ", " ++ activity.text ++
        (if since.line = f.place.line ∧ since.column = f.place.column then "" else since.suffix)
  f.problem.text ++ location ++ reading

end RequestRunner.Yaml
