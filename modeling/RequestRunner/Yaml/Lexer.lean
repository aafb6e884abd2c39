import RequestRunner.Yaml.Token

/-!
# Lexing

Tokens are read one after the other as they are asked for. A key without a question mark is only
known when its colon comes: the place of every token that may begin such a key is remembered for
each level of brackets, and a token is not given out as long as a key may have to be put before it.
Such a key ends in its line and within 1024 characters.

## Main definitions

* `Yaml.Lexer` — what is left to read, the tokens that are ready and the indentation.
* `Yaml.Lexer.peek`, `Yaml.Lexer.advance` — the next token, and past it.
-/

namespace RequestRunner.Yaml

/-- A place where a key without a question mark may begin, with the number of its first token. -/
structure KeyPlace where
  possible : Bool
  required : Bool
  token : Nat
  mark : Mark

/-- No such place. -/
def KeyPlace.none : KeyPlace := ⟨false, false, 0, .start⟩

/-- The state of lexing. `queue` holds the tokens that are ready, `taken` counts those given out,
`keys` has a place for each level of brackets, the innermost first, and `indents` the indentation
around the current one, which is `-1` outside all blocks. -/
structure Lexer where
  cursor : Cursor
  started : Bool
  flowLevel : Nat
  queue : List Token
  taken : Nat
  indent : Int
  indents : List Int
  keyAllowed : Bool
  keys : List KeyPlace

namespace Lexer

/-- The state before the first token. -/
def ofText (text : List Char) : Lexer :=
  ⟨⟨text, .start⟩, false, 0, [], 0, -1, [], true, []⟩

/-- Whether the place is inside brackets. -/
def inFlow (l : Lexer) : Bool := 0 < l.flowLevel

/-- The lexer with a token added at the end of the queue. -/
def push (l : Lexer) (kind : TokenKind) (start stop : Mark) : Lexer :=
  { l with queue := l.queue ++ [⟨kind, start, stop⟩] }

/-- The lexer with a token put before the token with the given number. -/
def insertAt (l : Lexer) (number : Nat) (kind : TokenKind) (mark : Mark) : Lexer :=
  let n := number - l.taken
  { l with queue := l.queue.take n ++ ⟨kind, mark, mark⟩ :: l.queue.drop n }

/-- A fault at the cursor. -/
def fail {α : Type} (l : Lexer) (problem : Problem) (reading : Option (Activity × Mark)) :
    Except Fault α :=
  l.cursor.fail problem reading

/-! ### Keys -/

/-- Whether a key can no longer begin at the place. -/
def isStale (l : Lexer) (k : KeyPlace) : Bool :=
  k.possible && (k.mark.line < l.cursor.mark.line || k.mark.index + 1024 < l.cursor.mark.index)

/-- Forgets the places where a key can no longer begin; a required key is then a fault. -/
def dropStaleKeys (l : Lexer) : Except Fault Lexer :=
  match l.keys.reverse.find? fun k => l.isStale k && k.required with
  | some k => l.fail .noColonBehindKey (some (.simpleKey, k.mark))
  | none =>
    let age (k : KeyPlace) := if l.isStale k then { k with possible := false } else k
    .ok { l with keys := l.keys.map age }

/-- Forgets the innermost place. -/
def dropKey (l : Lexer) : Except Fault Lexer :=
  match l.keys with
  | [] => .ok l
  | k :: rest =>
    if k.possible && k.required then l.fail .noColonBehindKey (some (.simpleKey, k.mark))
    else .ok { l with keys := { k with possible := false } :: rest }

/-- Remembers the cursor as a place where a key may begin, if one may. -/
def saveKey (l : Lexer) : Except Fault Lexer :=
  if l.keyAllowed then do
    let required := !l.inFlow && l.indent == l.cursor.mark.column
    let l ← l.dropKey
    let key := ⟨true, required, l.taken + l.queue.length, l.cursor.mark⟩
    .ok { l with keys := key :: l.keys.drop 1 }
  else .ok l

/-! ### Indentation -/

/-- Opens a block at the column if it is indented deeper; its token goes to the end of the queue or
before the token with the given number. -/
def openBlock (l : Lexer) (column : Nat) (number : Option Nat) (kind : TokenKind) (mark : Mark) :
    Lexer :=
  if l.inFlow ∨ ¬ l.indent < column then l
  else
    let l := { l with indents := l.indent :: l.indents, indent := column }
    match number with
    | none => l.push kind mark mark
    | some n => l.insertAt n kind mark

/-- The blocks that end at the column: how many, and the indentation around them. -/
def closing (column : Int) : Int → List Int → Nat × Int × List Int
  | indent, [] => (0, indent, [])
  | indent, outer :: rest =>
    if column < indent then
      let (n, indent, rest) := closing column outer rest
      (n + 1, indent, rest)
    else (0, indent, outer :: rest)

/-- Closes the blocks that are indented deeper than the column. -/
def closeBlocks (l : Lexer) (column : Int) : Lexer :=
  if l.inFlow then l
  else
    let (n, indent, indents) := closing column l.indent l.indents
    let stop : Token := ⟨.blockEnd, l.cursor.mark, l.cursor.mark⟩
    { l with indent := indent, indents := indents, queue := l.queue ++ List.replicate n stop }

/-! ### Single tokens -/

/-- Moves to the next token past blanks, comments and line breaks; `fuel` is at least the number of
characters. -/
def skipToToken : Nat → Lexer → Lexer
  | 0, l => l
  | fuel + 1, l =>
    let p := l.cursor
    let p := if p.mark.index = 0 ∧ p.isAt '\uFEFF' then p.skip else p
    let p := p.skipWhile fun c => c == ' ' || ((l.inFlow || !l.keyAllowed) && c == '\t')
    let p := if p.isAt '#' then p.skipWhile (!isBreak ·) else p
    if atBreak p.rest then
      skipToToken fuel { l with cursor := p.skipLine, keyAllowed := l.keyAllowed || !l.inFlow }
    else { l with cursor := p }

/-- Takes `n` characters as a token. -/
def takeSign (l : Lexer) (n : Nat) (kind : TokenKind) : Lexer :=
  let start := l.cursor.mark
  let p := l.cursor.skipMany n
  { l with cursor := p }.push kind start p.mark

/-- Ends the blocks and the key before a directive, a document marker or the end. -/
def leaveDocument (l : Lexer) : Except Fault Lexer := do
  let l ← (l.closeBlocks (-1)).dropKey
  .ok { l with keyAllowed := false }

/-- Takes the end of the stream, which counts as a new line. -/
def takeEnd (l : Lexer) : Except Fault Lexer := do
  let m := l.cursor.mark
  let m := if m.column = 0 then m else ⟨m.index, m.line + 1, 0⟩
  let l ← { l with cursor := ⟨[], m⟩ }.leaveDocument
  .ok (l.push .streamEnd m m)

/-- Takes an opening bracket. -/
def takeOpen (l : Lexer) (kind : TokenKind) : Except Fault Lexer := do
  let l ← l.saveKey
  let l := { l with keys := .none :: l.keys, flowLevel := l.flowLevel + 1, keyAllowed := true }
  .ok (l.takeSign 1 kind)

/-- Takes a closing bracket. -/
def takeClose (l : Lexer) (kind : TokenKind) : Except Fault Lexer := do
  let l ← l.dropKey
  let l :=
    if l.inFlow then { l with keys := l.keys.drop 1, flowLevel := l.flowLevel - 1 } else l
  .ok ({ l with keyAllowed := false }.takeSign 1 kind)

/-- Takes a comma between brackets. -/
def takeComma (l : Lexer) : Except Fault Lexer := do
  let l ← l.dropKey
  .ok ({ l with keyAllowed := true }.takeSign 1 .flowEntry)

/-- Takes the hyphen of an entry. -/
def takeHyphen (l : Lexer) : Except Fault Lexer := do
  if !l.inFlow && !l.keyAllowed then l.fail .entryNotAllowed none
  else do
    let l := l.openBlock l.cursor.mark.column none .blockSequenceStart l.cursor.mark
    let l ← l.dropKey
    .ok ({ l with keyAllowed := true }.takeSign 1 .blockEntry)

/-- Takes the question mark of a key. -/
def takeQuestion (l : Lexer) : Except Fault Lexer := do
  if !l.inFlow && !l.keyAllowed then l.fail .keyNotAllowed none
  else do
    let l := l.openBlock l.cursor.mark.column none .blockMappingStart l.cursor.mark
    let l ← l.dropKey
    .ok ({ l with keyAllowed := !l.inFlow }.takeSign 1 .key)

/-- Takes the colon of a value. If a key may begin at the remembered place, it did. -/
def takeColon (l : Lexer) : Except Fault Lexer :=
  match l.keys with
  | k :: rest =>
    if k.possible then
      let l := l.insertAt k.token .key k.mark
      let l := l.openBlock k.mark.column (some k.token) .blockMappingStart k.mark
      let keys := { k with possible := false } :: rest
      .ok ({ l with keys, keyAllowed := false }.takeSign 1 .value)
    else if !l.inFlow && !l.keyAllowed then l.fail .valueNotAllowed none
    else
      let l := l.openBlock l.cursor.mark.column none .blockMappingStart l.cursor.mark
      .ok ({ l with keyAllowed := !l.inFlow }.takeSign 1 .value)
  | [] => l.fail .valueNotAllowed none

/-- Takes an anchor or an alias. -/
def takeAnchor (l : Lexer) (isAlias : Bool) : Except Fault Lexer := do
  let l ← l.saveKey
  let start := l.cursor.mark
  let (name, p) ← readAnchor (if isAlias then .aliasOf else .anchor) l.cursor
  .ok ({ l with cursor := p, keyAllowed := false }.push
    (if isAlias then .aliasOf name else .anchor name) start p.mark)

/-- Takes a tag. -/
def takeTag (l : Lexer) : Except Fault Lexer := do
  let l ← l.saveKey
  let start := l.cursor.mark
  let (handle, suffix, p) ← readTag l.inFlow l.cursor
  .ok ({ l with cursor := p, keyAllowed := false }.push (.tag handle suffix) start p.mark)

/-- Takes a block scalar. -/
def takeBlockScalar (l : Lexer) (isLiteral : Bool) : Except Fault Lexer := do
  let l ← l.dropKey
  let start := l.cursor.mark
  let (text, p) ← readBlockScalar isLiteral l.indent l.cursor
  .ok ({ l with cursor := p, keyAllowed := true }.push
    (.scalar text (if isLiteral then .literal else .folded)) start p.mark)

/-- Takes a quoted scalar. -/
def takeQuotedScalar (l : Lexer) (single : Bool) : Except Fault Lexer := do
  let l ← l.saveKey
  let start := l.cursor.mark
  let (text, p) ← readQuotedScalar single l.cursor
  .ok ({ l with cursor := p, keyAllowed := false }.push
    (.scalar text (if single then .singleQuoted else .doubleQuoted)) start p.mark)

/-- Takes a plain scalar. -/
def takePlainScalar (l : Lexer) : Except Fault Lexer := do
  let l ← l.saveKey
  let start := l.cursor.mark
  let (text, ended, p) ← readPlainScalar l.inFlow l.indent l.cursor
  .ok ({ l with cursor := p, keyAllowed := ended }.push (.scalar text .plain) start p.mark)

/-- Whether a plain scalar may start with `c` before `rest`. -/
def startsPlain (l : Lexer) (c : Char) (rest : List Char) : Bool :=
  let isIndicator :=
    isSpaceOrTab c || isBreak c || isFlowIndicator c || c == '-' || c == '?' || c == ':' ||
      c == '#' || c == '&' || c == '*' || c == '!' || c == '|' || c == '>' || c == '\'' ||
      c == '"' || c == '%' || c == '@' || c == '\x60'
  !isIndicator || (c == '-' && !atBlank rest) ||
    (!l.inFlow && (c == '?' || c == ':') && !atBlankOrEnd rest)

/-- Takes the next token with the tokens that its place brings along. -/
def takeToken (l : Lexer) : Except Fault Lexer :=
  if !l.started then
    let m := l.cursor.mark
    .ok ({ l with started := true, keys := [.none] }.push .streamStart m m)
  else do
    let l ← (skipToToken (l.cursor.rest.length + 1) l).dropStaleKeys
    let l := l.closeBlocks l.cursor.mark.column
    let p := l.cursor
    match p.rest with
    | [] => l.takeEnd
    | c :: rest =>
      if p.mark.column = 0 ∧ c = '%' then do
        let l ← l.leaveDocument
        let (token, p) ← readDirective l.cursor
        .ok { l with cursor := p, queue := l.queue ++ [token] }
      else if p.atMarker '-' then do .ok ((← l.leaveDocument).takeSign 3 .documentStart)
      else if p.atMarker '.' then do .ok ((← l.leaveDocument).takeSign 3 .documentEnd)
      else if c = '[' then l.takeOpen .flowSequenceStart
      else if c = '{' then l.takeOpen .flowMappingStart
      else if c = ']' then l.takeClose .flowSequenceEnd
      else if c = '}' then l.takeClose .flowMappingEnd
      else if c = ',' then l.takeComma
      else if c = '-' ∧ atBlankOrEnd rest then l.takeHyphen
      else if c = '?' ∧ (l.inFlow ∨ atBlankOrEnd rest) then l.takeQuestion
      else if c = ':' ∧ (l.inFlow ∨ atBlankOrEnd rest) then l.takeColon
      else if c = '*' then l.takeAnchor true
      else if c = '&' then l.takeAnchor false
      else if c = '!' then l.takeTag
      else if c = '|' ∧ !l.inFlow then l.takeBlockScalar true
      else if c = '>' ∧ !l.inFlow then l.takeBlockScalar false
      else if c = '\'' then l.takeQuotedScalar true
      else if c = '"' then l.takeQuotedScalar false
      else if l.startsPlain c rest then l.takePlainScalar
      else l.fail .noToken (some (.nextToken, p.mark))

/-! ### The next token -/

/-- Takes tokens until the first of the queue can be given out; `fuel` is more than the number of
characters. -/
def fill : Nat → Lexer → Except Fault Lexer
  | 0, l => .ok l
  | fuel + 1, l =>
    match l.queue with
    | [] => do fill fuel (← l.takeToken)
    | _ :: _ => do
      let l ← l.dropStaleKeys
      if l.keys.any fun k => k.possible && k.token == l.taken then do fill fuel (← l.takeToken)
      else .ok l

/-- The next token, with the lexer that has it ready. -/
def peek (l : Lexer) : Except Fault (Token × Lexer) := do
  let l ← l.fill (l.cursor.rest.length + 3)
  match l.queue with
  | token :: _ => .ok (token, l)
  | [] => .ok (⟨.streamEnd, l.cursor.mark, l.cursor.mark⟩, l)

/-- Past the next token, which is ready. -/
def advance (l : Lexer) : Lexer := { l with queue := l.queue.drop 1, taken := l.taken + 1 }

end Lexer

end RequestRunner.Yaml
