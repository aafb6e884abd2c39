import RequestRunner.Yaml.ScalarText
import RequestRunner.Text.Utf8

/-!
# Tokens

The tokens of a YAML stream. Indentation has become tokens of its own, and a key that is written
without a question mark has a token in front of it all the same. The functions here read the tokens
whose text does not depend on what came before.

## Main definitions

* `Yaml.TokenKind`, `Yaml.Token` — what a token is, and where it stands.
* `Yaml.readAnchor`, `Yaml.readTag`, `Yaml.readDirective` — names, tags and directives.
-/

namespace RequestRunner.Yaml

/-- What a token is. -/
inductive TokenKind where
  | streamStart
  | streamEnd
  | version (major minor : Nat)
  | tagHandle (handle replacement : List Char)
  | documentStart
  | documentEnd
  | blockSequenceStart
  | blockMappingStart
  | blockEnd
  | flowSequenceStart
  | flowSequenceEnd
  | flowMappingStart
  | flowMappingEnd
  | blockEntry
  | flowEntry
  | key
  | value
  | aliasOf (name : List Char)
  | anchor (name : List Char)
  | tag (handle suffix : List Char)
  | scalar (text : List Char) (style : ScalarStyle)
  deriving DecidableEq

/-- A token with its first place and the place behind it. -/
structure Token where
  kind : TokenKind
  start : Mark
  stop : Mark
  deriving DecidableEq

/-- Reads the name behind the sign of an anchor or alias, the sign included. -/
def readAnchor (activity : Activity) (p : Cursor) : Except Fault (List Char × Cursor) :=
  let (name, q) := p.skip.takeWhile isNameChar
  let ends :=
    atBlankOrEnd q.rest ||
      q.rest.head?.any fun c =>
        c == '?' || c == ':' || c == ',' || c == ']' || c == '}' || c == '%' || c == '@' || c == '\x60'
  if name.isEmpty || !ends then q.fail .noAnchorName (some (activity, p.mark)) else .ok (name, q)

/-- Whether the character may stand in the text of a tag; inside angle brackets more may. -/
def isTagChar (inAngles : Bool) (c : Char) : Bool :=
  isNameChar c || c == ';' || c == '/' || c == '?' || c == ':' || c == '@' || c == '&' || c == '=' ||
    c == '+' || c == '$' || c == '.' || c == '%' || c == '!' || c == '~' || c == '*' || c == '\'' ||
    c == '(' || c == ')' || (inAngles && (c == ',' || c == '[' || c == ']'))

/-- How many bytes a character has by its first byte. -/
def octetWidth? (octet : Nat) : Option Nat :=
  if octet < 0x80 then some 1
  else if octet / 0x20 = 6 then some 2
  else if octet / 0x10 = 14 then some 3
  else if octet / 0x08 = 30 then some 4
  else none

/-- Reads the escaped bytes of one character: `left` is how many are still to come, none for a
character that has not begun. `fuel` is at least the number of characters. -/
def readOctets (reading : Option (Activity × Mark)) :
    Nat → Option Nat → Cursor → Except Fault (List UInt8 × Cursor)
  | 0, _, p => .ok ([], p)
  | fuel + 1, left, p =>
    match left with
    | some 0 => .ok ([], p)
    | _ =>
      match p.rest with
      | '%' :: a :: b :: _ =>
        match Text.hexValue a, Text.hexValue b with
        | some x, some y =>
          let octet := x * 16 + y
          match left, octetWidth? octet with
          | none, none => p.fail .badLeadingOctet reading
          | none, some width => do
            let (more, q) ← readOctets reading fuel (some (width - 1)) (p.skipMany 3)
            .ok (.ofNat octet :: more, q)
          | some n, _ =>
            if octet / 0x40 ≠ 2 then p.fail .badTrailingOctet reading
            else do
              let (more, q) ← readOctets reading fuel (some (n - 1)) (p.skipMany 3)
              .ok (.ofNat octet :: more, q)
        | _, _ => p.fail .noEscapedOctet reading
      | _ => p.fail .noEscapedOctet reading

/-- Reads the text of a tag; `fuel` is at least the number of characters. -/
def readTagChars (inAngles : Bool) (reading : Option (Activity × Mark)) :
    Nat → Cursor → Except Fault (List Char × Cursor)
  | 0, p => .ok ([], p)
  | fuel + 1, p =>
    match p.rest with
    | [] => .ok ([], p)
    | c :: _ =>
      if !isTagChar inAngles c then .ok ([], p)
      else if c = '%' then do
        let (octets, q) ← readOctets reading 5 none p
        let (more, q) ← readTagChars inAngles reading fuel q
        .ok (Text.decodeLossy octets ++ more, q)
      else do
        let (more, q) ← readTagChars inAngles reading fuel p.skip
        .ok (c :: more, q)

/-- Reads the text of a tag, of which `head` with its first character has been read already; there
has to be a text, or a `head` that is not empty. -/
def readTagText (inAngles inDirective : Bool) (head : List Char) (start : Mark) (p : Cursor) :
    Except Fault (List Char × Cursor) := do
  let reading := some (if inDirective then Activity.tagDirectiveText else .tagText, start)
  let (text, q) ← readTagChars inAngles reading (p.rest.length + 1) p
  if head.isEmpty ∧ text.isEmpty then q.fail .noTagText reading
  else .ok (head.drop 1 ++ text, q)

/-- Reads a handle with its exclamation marks. -/
def readTagHandle (inDirective : Bool) (start : Mark) (p : Cursor) :
    Except Fault (List Char × Cursor) :=
  if !p.isAt '!' then p.fail .noMark (some (if inDirective then .directive else .tag, start))
  else
    let (name, q) := p.skip.takeWhile isNameChar
    if q.isAt '!' then .ok ('!' :: (name ++ ['!']), q.skip)
    else if inDirective ∧ !name.isEmpty then q.fail .noMark (some (.tagDirectiveHandle, start))
    else .ok ('!' :: name, q)

/-- Reads a tag: handle and suffix. A tag without handle has the handle `!`, the tag `!` alone has
an empty handle, and so has one in angle brackets. -/
def readTag (inFlow : Bool) (p : Cursor) : Except Fault (List Char × List Char × Cursor) := do
  let start := p.mark
  let (handle, suffix, q) ←
    if (p.rest.drop 1).head?.any (· == '<') then do
      let (suffix, q) ← readTagText true false [] start (p.skipMany 2)
      if !q.isAt '>' then q.fail .noClosingAngle (some (.tag, start))
      else Except.ok ([], suffix, q.skip)
    else do
      let (handle, q) ← readTagHandle false start p
      if 1 < handle.length ∧ handle.getLast? = some '!' then do
        let (suffix, q) ← readTagText false false [] start q
        Except.ok (handle, suffix, q)
      else do
        let (suffix, q) ← readTagText false false handle start q
        if suffix.isEmpty then Except.ok ([], ['!'], q) else Except.ok (['!'], suffix, q)
  if !(inFlow && q.isAt ',') && !atBlankOrEnd q.rest then
    q.fail .noBlankOrLineEnd (some (.tag, start))
  else .ok (handle, suffix, q)

/-- Reads a number of a version. -/
def readVersionNumber (start : Mark) (p : Cursor) : Except Fault (Nat × Cursor) :=
  let (digits, q) := p.takeWhile fun c => (Text.digitValue c).isSome
  if 9 < digits.length then (p.skipMany 9).fail .longVersion (some (.versionDirective, start))
  else if digits.isEmpty then p.fail .noVersion (some (.versionDirective, start))
  else .ok (digits.foldl (fun n d => n * 10 + (Text.digitValue d).getD 0) 0, q)

/-- Reads a directive with the rest of its line. -/
def readDirective (p : Cursor) : Except Fault (Token × Cursor) := do
  let start := p.mark
  let (name, q) := p.skip.takeWhile isNameChar
  if name.isEmpty then q.fail .noDirectiveName (some (.directive, start))
  else if !atBlankOrEnd q.rest then q.fail .badDirectiveName (some (.directive, start))
  else do
    let (kind, q) ←
      if name = "YAML".toList then do
        let (major, q) ← readVersionNumber start (q.skipWhile isSpaceOrTab)
        if !q.isAt '.' then q.fail .noVersionPoint (some (.versionDirective, start))
        else do
          let (minor, q) ← readVersionNumber start q.skip
          Except.ok (TokenKind.version major minor, q)
      else if name = "TAG".toList then do
        let (handle, q) ← readTagHandle true start (q.skipWhile isSpaceOrTab)
        if !atBlank q.rest then q.fail .noBlank (some (.tagDirective, start))
        else do
          let (replacement, q) ← readTagText true true [] start (q.skipWhile isSpaceOrTab)
          if !atBlankOrEnd q.rest then q.fail .noBlankOrLineEnd (some (.tagDirective, start))
          else Except.ok (TokenKind.tagHandle handle replacement, q)
      else q.fail .unknownDirective (some (.directive, start))
    let stop := q.mark
    let q := q.skipComment
    if !atBreakOrEnd q.rest then q.fail .noLineEnd (some (.directive, start))
    else .ok (⟨kind, start, stop⟩, q.skipBreak)

end RequestRunner.Yaml
