import RequestRunner.Yaml.Cursor

/-!
# Scalars as they are written

Reading the content of block scalars, quoted scalars and plain scalars. Inside quoted and plain
scalars a single line break is folded into a space, further ones stay, and blanks around line
breaks are dropped.

## Main definitions

* `Yaml.ScalarStyle` — the ways to write a scalar.
* `Yaml.readBlockScalar`, `Yaml.readQuotedScalar`, `Yaml.readPlainScalar` — content and the cursor
  past it.
-/

namespace RequestRunner.Yaml

/-- The ways to write a scalar. -/
inductive ScalarStyle where
  | plain
  | singleQuoted
  | doubleQuoted
  | literal
  | folded
  deriving DecidableEq

/-! ### Block scalars -/

/-- What becomes of the line breaks at the end of a block scalar. -/
inductive Chomping where
  | strip
  | clip
  | keep
  deriving DecidableEq

/-- Reads the sign for the line breaks at the end. -/
def readChomping? (p : Cursor) : Option Chomping × Cursor :=
  if p.isAt '+' then (some .keep, p.skip)
  else if p.isAt '-' then (some .strip, p.skip)
  else (none, p)

/-- Reads the digit for the indentation. -/
def readIncrement? (start : Mark) (p : Cursor) : Except Fault (Option Nat × Cursor) :=
  match p.rest.head?.bind Text.digitValue with
  | none => .ok (none, p)
  | some 0 => p.fail .zeroIndentation (some (.blockScalar, start))
  | some n => .ok (some n, p.skip)

/-- Reads spaces and line breaks up to the next line with content: the line breaks, the greatest
column that was reached, and the cursor past them. With `indent = 0` every space counts as
indentation. `fuel` is at least the number of characters. -/
def readBlockBreaks (start : Mark) (indent : Nat) :
    Nat → Nat → Cursor → Except Fault (List Char × Nat × Cursor)
  | 0, widest, p => .ok ([], widest, p)
  | fuel + 1, widest, p =>
    let spaces := (p.rest.takeWhile (· == ' ')).length
    let p := p.skipMany (if indent = 0 then spaces else min spaces (indent - p.mark.column))
    let widest := max widest p.mark.column
    if (indent = 0 ∨ p.mark.column < indent) ∧ p.isAt '\t' then
      p.fail .tabForIndentation (some (.blockScalar, start))
    else if atBreak p.rest then do
      let (breaks, widest, q) ← readBlockBreaks start indent fuel widest p.skipLine
      .ok (p.lineBreak ++ breaks, widest, q)
    else .ok ([], widest, p)

/-- Reads the lines of a block scalar that are indented by `indent`. `leading` is the break before
the line, `trailing` the further breaks before it, and `afterBlank` tells whether the line before
starts with a blank. The result is the content with the break and the further breaks that follow
its last line. `fuel` is at least the number of characters. -/
def readBlockLines (start : Mark) (isLiteral : Bool) (indent : Nat) :
    Nat → List Char → List Char → Bool → Cursor →
      Except Fault (List Char × List Char × List Char × Cursor)
  | 0, leading, trailing, _, p => .ok ([], leading, trailing, p)
  | fuel + 1, leading, trailing, afterBlank, p =>
    if p.mark.column = indent ∧ !p.rest.isEmpty then do
      let startsBlank := atBlank p.rest
      let before :=
        if !isLiteral && leading.head? == some '\n' && !afterBlank && !startsBlank then
          (if trailing.isEmpty then [' '] else []) ++ trailing
        else leading ++ trailing
      let (line, p) := p.takeWhile (!isBreak ·)
      let leading := p.lineBreak
      let p := p.skipBreak
      let (trailing, _, p) ← readBlockBreaks start indent (p.rest.length + 1) 0 p
      let (content, leading, trailing, p) ←
        readBlockLines start isLiteral indent fuel leading trailing startsBlank p
      .ok (before ++ line ++ content, leading, trailing, p)
    else .ok ([], leading, trailing, p)

/-- Reads a block scalar; `parent` is the indentation around it, `-1` for none. -/
def readBlockScalar (isLiteral : Bool) (parent : Int) (p : Cursor) :
    Except Fault (List Char × Cursor) := do
  let start := p.mark
  let (sign, q) := readChomping? p.skip
  let (increment, q) ← readIncrement? start q
  let (sign, q) := if sign.isSome then (sign, q) else readChomping? q
  let q := q.skipComment
  if !atBreakOrEnd q.rest then q.fail .noLineEnd (some (.blockScalar, start))
  else do
    let q := q.skipBreak
    let given := match increment with
      | some n => (max parent 0).toNat + n
      | none => 0
    let (trailing, widest, q) ← readBlockBreaks start given (q.rest.length + 1) 0 q
    let indent := if given = 0 then max widest (max (parent + 1).toNat 1) else given
    let (content, leading, trailing, q) ←
      readBlockLines start isLiteral indent (q.rest.length + 1) [] trailing false q
    let ending := match sign.getD .clip with
      | .strip => []
      | .clip => leading
      | .keep => leading ++ trailing
    .ok (content ++ ending, q)

/-! ### Folding -/

/-- Blanks and line breaks between the words of a scalar. -/
structure Gap where
  blanks : List Char
  leading : List Char
  trailing : List Char
  hasBreak : Bool

/-- No gap. -/
def Gap.none : Gap := ⟨[], [], [], false⟩

/-- What a gap stands for in the content. -/
def Gap.text (g : Gap) : List Char :=
  if g.hasBreak then
    if g.leading.head? == some '\n' then
      if g.trailing.isEmpty then [' '] else g.trailing
    else g.leading ++ g.trailing
  else g.blanks

/-- Reads blanks and line breaks, where `g` holds what came before. Behind a break a tab before the
column `indent` is a fault if one is given. `fuel` is at least the number of characters. -/
def readGap (indent : Option (Nat × Mark)) : Nat → Gap → Cursor → Except Fault (Gap × Cursor)
  | 0, g, p => .ok (g, p)
  | fuel + 1, g, p =>
    match p.rest with
    | [] => .ok (g, p)
    | c :: _ =>
      if isSpaceOrTab c then
        let widened := if g.hasBreak then g else { g with blanks := g.blanks ++ [c] }
        match indent with
        | some (column, start) =>
          if g.hasBreak ∧ p.mark.column < column ∧ c = '\t' then
            p.fail .tabBelowIndentation (some (.plainScalar, start))
          else readGap indent fuel widened p.skip
        | none => readGap indent fuel widened p.skip
      else if isBreak c then
        let g :=
          if g.hasBreak then { g with trailing := g.trailing ++ p.lineBreak }
          else { g with blanks := [], leading := p.lineBreak, hasBreak := true }
        readGap indent fuel g p.skipLine
      else .ok (g, p)

/-! ### Quoted scalars -/

/-- The character for a letter behind a reverse solidus. -/
def escapedChar? (c : Char) : Option Char :=
  if c = '0' then some '\x00'
  else if c = 'a' then some '\x07'
  else if c = 'b' then some '\x08'
  else if c = 't' ∨ c = '\t' then some '\t'
  else if c = 'n' then some '\n'
  else if c = 'v' then some '\x0b'
  else if c = 'f' then some '\x0c'
  else if c = 'r' then some '\r'
  else if c = 'e' then some '\x1b'
  else if c = ' ' ∨ c = '"' ∨ c = '/' ∨ c = '\\' then some c
  else if c = 'N' then some '\u0085'
  else if c = '_' then some '\u00a0'
  else if c = 'L' then some '\u2028'
  else if c = 'P' then some '\u2029'
  else none

/-- How many hexadecimal digits follow the letter. -/
def codeLength? (c : Char) : Option Nat :=
  if c = 'x' then some 2 else if c = 'u' then some 4 else if c = 'U' then some 8 else none

/-- Reads an escape, the reverse solidus included. -/
def readQuotedEscape (start : Mark) (p : Cursor) : Except Fault (Char × Cursor) :=
  let reading := some (Activity.quotedEscape, start)
  match p.rest.drop 1 with
  | [] => p.fail .unknownEscape reading
  | c :: rest =>
    match escapedChar? c, codeLength? c with
    | some e, _ => .ok (e, p.skipMany 2)
    | none, none => p.fail .unknownEscape reading
    | none, some n =>
      let p := p.skipMany 2
      let digits := (rest.take n).map Text.hexValue
      if digits.length < n ∨ digits.any (·.isNone) then p.fail .noHexDigit reading
      else
        let code := digits.foldl (fun v d => v * 16 + d.getD 0) 0
        if h : code.isValidChar then .ok (Char.ofNatAux code h, p.skipMany n)
        else p.fail .badCodePoint reading

/-- Reads the characters of a quoted scalar up to a blank, a line break, the closing quote or the
end. The flag tells whether an escaped line break ended it. `fuel` is at least the number of
characters. -/
def readQuotedWord (single : Bool) (start : Mark) :
    Nat → Cursor → Except Fault (List Char × Bool × Cursor)
  | 0, p => .ok ([], false, p)
  | fuel + 1, p =>
    match p.rest with
    | [] => .ok ([], false, p)
    | c :: rest =>
      if isSpaceOrTab c ∨ isBreak c then .ok ([], false, p)
      else if single ∧ c = '\'' then
        if rest.head? = some '\'' then do
          let (more, escaped, q) ← readQuotedWord single start fuel (p.skipMany 2)
          .ok ('\'' :: more, escaped, q)
        else .ok ([], false, p)
      else if !single ∧ c = '"' then .ok ([], false, p)
      else if !single ∧ c = '\\' then
        if atBreak rest then .ok ([], true, p.skip.skipLine)
        else do
          let (e, q) ← readQuotedEscape start p
          let (more, escaped, q) ← readQuotedWord single start fuel q
          .ok (e :: more, escaped, q)
      else do
        let (more, escaped, q) ← readQuotedWord single start fuel p.skip
        .ok (c :: more, escaped, q)

/-- Reads a quoted scalar behind its opening quote; `fuel` is at least the number of characters. -/
def readQuotedParts (single : Bool) (start : Mark) :
    Nat → Cursor → Except Fault (List Char × Cursor)
  | 0, p => p.fail .endInQuotes (some (.quotedScalar, start))
  | fuel + 1, p =>
    if p.atDocumentMarker then p.fail .markerInQuotes (some (.quotedScalar, start))
    else if p.rest.isEmpty then p.fail .endInQuotes (some (.quotedScalar, start))
    else do
      let (word, escaped, p) ← readQuotedWord single start (p.rest.length + 1) p
      if p.isAt (if single then '\'' else '"') then .ok (word, p.skip)
      else do
        let (gap, p) ← readGap none (p.rest.length + 1) { Gap.none with hasBreak := escaped } p
        let (more, p) ← readQuotedParts single start fuel p
        .ok (word ++ gap.text ++ more, p)

/-- Reads a quoted scalar. -/
def readQuotedScalar (single : Bool) (p : Cursor) : Except Fault (List Char × Cursor) :=
  readQuotedParts single p.mark (p.rest.length + 1) p.skip

/-! ### Plain scalars -/

/-- Whether the character ends a plain scalar inside brackets. -/
def isFlowIndicator (c : Char) : Bool := c == ',' || c == '[' || c == ']' || c == '{' || c == '}'

/-- Reads the characters of a plain scalar up to a blank, a line break or an indicator that ends
it. `fuel` is at least the number of characters. -/
def readPlainWord (inFlow : Bool) (start : Mark) :
    Nat → Cursor → Except Fault (List Char × Cursor)
  | 0, p => .ok ([], p)
  | fuel + 1, p =>
    match p.rest with
    | [] => .ok ([], p)
    | c :: rest =>
      if isSpaceOrTab c ∨ isBreak c then .ok ([], p)
      else if inFlow ∧ c = ':' ∧ rest.head?.any (fun n => isFlowIndicator n || n == '?') then
        p.fail .colonInFlow (some (.plainScalar, start))
      else if (c = ':' ∧ atBlankOrEnd rest) ∨ (inFlow ∧ isFlowIndicator c) then .ok ([], p)
      else do
        let (more, q) ← readPlainWord inFlow start fuel p.skip
        .ok (c :: more, q)

/-- Reads a plain scalar, where `gap` holds what came before the cursor. The flag tells whether the
scalar ends behind a line break. `fuel` is at least the number of characters. -/
def readPlainParts (inFlow : Bool) (indent : Nat) (start : Mark) :
    Nat → Gap → Cursor → Except Fault (List Char × Bool × Cursor)
  | 0, gap, p => .ok ([], gap.hasBreak, p)
  | fuel + 1, gap, p =>
    if p.atDocumentMarker || p.isAt '#' then .ok ([], gap.hasBreak, p)
    else do
      let (word, q) ← readPlainWord inFlow start (p.rest.length + 1) p
      let before := if word.isEmpty then [] else gap.text
      let gap := if word.isEmpty then gap else Gap.none
      if !(atBlank q.rest || atBreak q.rest) then .ok (before ++ word, gap.hasBreak, q)
      else do
        let (gap, q) ← readGap (some (indent, start)) (q.rest.length + 1) gap q
        if !inFlow ∧ q.mark.column < indent then .ok (before ++ word, gap.hasBreak, q)
        else do
          let (more, ended, q) ← readPlainParts inFlow indent start fuel gap q
          .ok (before ++ word ++ more, ended, q)

/-- Reads a plain scalar whose lines stand right of the column of `parent`, the indentation around
it. -/
def readPlainScalar (inFlow : Bool) (parent : Int) (p : Cursor) :
    Except Fault (List Char × Bool × Cursor) :=
  readPlainParts inFlow (parent + 1).toNat p.mark (p.rest.length + 1) Gap.none p

end RequestRunner.Yaml
