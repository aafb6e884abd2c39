import RequestRunner.Text.Utf8
import RequestRunner.Yaml.Lexer

/-!
# Documents

The nodes of a document in the order of the text. A collection is given by its start and its end
with its nodes between them, keys and values of a mapping in turn; a node that is left out is an
empty plain scalar. What stands before a fault is kept, since a reader may find something else wrong
with it first.

## Main definitions

* `Yaml.Event` — a scalar, the start or end of a collection, or an alias.
* `Yaml.Document` — the events with their places, and the fault that ends them if there is one.
* `Yaml.Document.ofText` — the first document of a stream, and whether anything follows it.
-/

namespace RequestRunner.Yaml

/-- A part of a document. -/
inductive Event where
  | scalar (tag : Option (List Char)) (text : List Char) (style : ScalarStyle)
  | sequenceStart
  | sequenceEnd
  | mappingStart
  | mappingEnd
  | /-- A repetition of the node whose anchor has the number. -/
    aliasOf (anchor : Nat)
  deriving DecidableEq

/-- The events of a document with their places. `anchors` gives for the number of an anchor the
index of the event that it stands at, the latest first. -/
structure Document where
  events : List (Event × Mark)
  anchors : List (Nat × Nat)
  fault : Option Fault

namespace Document

/-- What is known while a document is read: the events in reverse order, the names of anchors with
their numbers, and what the handles of tags stand for. -/
structure Draft where
  lexer : Lexer
  events : List (Event × Mark)
  names : List (List Char × Nat)
  anchors : List (Nat × Nat)
  handles : List (List Char × List Char)

/-- Reading with a draft that outlives a fault. -/
abbrev Reading := ExceptT Fault (StateM Draft)

/-- The next token. -/
def peek : Reading Token := do
  match (← get).lexer.peek with
  | .ok (token, l) =>
    modify fun d => { d with lexer := l }
    return token
  | .error fault => throw fault

/-- Moves past the next token. -/
def advance : Reading Unit := modify fun d => { d with lexer := d.lexer.advance }

/-- Adds an event. -/
def emit (event : Event) (mark : Mark) : Reading Unit :=
  modify fun d => { d with events := (event, mark) :: d.events }

/-- Adds an empty plain scalar for a node that is left out. -/
def emitEmpty (mark : Mark) : Reading Unit := emit (.scalar none [] .plain) mark

/-- Gives the next event the anchor. The number of an anchor is how many names there are before
it. -/
def setAnchor (name : List Char) : Reading Unit :=
  modify fun d =>
    { d with
      names := (name, d.names.length) :: d.names.filter (·.1 != name)
      anchors := (d.names.length, d.events.length) :: d.anchors }

/-- A fault at a token. -/
def failAt {α : Type} (problem : Problem) (token : Token) (activity : Activity) (since : Mark) :
    Reading α :=
  throw ⟨problem, token.start, some (activity, since)⟩

/-- What is read next. -/
inductive Part where
  | node (inBlock indentless : Bool)
  | blockEntries (since : Mark)
  | indentlessEntries
  | blockKeys (since : Mark)
  | blockValue
  | flowItems (since : Mark) (isFirst : Bool)
  | pairKey
  | pairValue
  | flowKeys (since : Mark) (isFirst : Bool)
  | flowValue

/-- The tag that handle and suffix stand for; the tag `!` alone is none. -/
def resolveTag (handle suffix : List Char) (start mark : Mark) : Reading (Option (List Char)) := do
  let tag ←
    if handle.isEmpty then pure suffix
    else
      match (← get).handles.find? (·.1 == handle) with
      | some (_, replacement) => pure (replacement ++ suffix)
      | none => throw ⟨.undefinedTagHandle, mark, some (.node, start)⟩
  return if tag = ['!'] then none else some tag

/-- What stands before the content of a node. -/
structure Properties where
  anchor : Option (List Char)
  tag : Option (List Char × List Char × Mark)
  start : Mark

/-- Reads anchor and tag in either order. -/
def readProperties : Reading Properties := do
  let first ← peek
  match first.kind with
  | .anchor name =>
    advance
    let second ← peek
    match second.kind with
    | .tag handle suffix =>
      advance
      return ⟨some name, some (handle, suffix, second.start), first.start⟩
    | _ => return ⟨some name, none, first.start⟩
  | .tag handle suffix =>
    advance
    let second ← peek
    match second.kind with
    | .anchor name =>
      advance
      return ⟨some name, some (handle, suffix, first.start), first.start⟩
    | _ => return ⟨none, some (handle, suffix, first.start), first.start⟩
  | _ => return ⟨none, none, first.start⟩

/-- Reads a part with everything inside it. `fuel` bounds the number of parts one inside or behind
the other. -/
def readPart : Nat → Part → Reading Unit
  | 0, _ => return
  | fuel + 1, .node inBlock indentless => do
    let first ← peek
    match first.kind with
    | .aliasOf name =>
      match (← get).names.find? (·.1 == name) with
      | some (_, anchor) =>
        emit (.aliasOf anchor) first.start
        advance
      | none => throw ⟨.unknownAnchor, first.start, none⟩
    | _ =>
      let properties ← readProperties
      let start := properties.start
      let token ← peek
      let tag ← match properties.tag with
        | some (handle, suffix, mark) => resolveTag handle suffix start mark
        | none => pure none
      let announce (event : Event) : Reading Unit := do
        if let some name := properties.anchor then setAnchor name
        emit event start
      match token.kind with
      | .scalar text style =>
        announce (.scalar tag text style)
        advance
      | .flowSequenceStart =>
        announce .sequenceStart
        advance
        readPart fuel (.flowItems token.start true)
      | .flowMappingStart =>
        announce .mappingStart
        advance
        readPart fuel (.flowKeys token.start true)
      | kind =>
        if indentless ∧ kind = .blockEntry then
          announce .sequenceStart
          readPart fuel .indentlessEntries
        else if inBlock ∧ kind = .blockSequenceStart then
          announce .sequenceStart
          advance
          readPart fuel (.blockEntries token.start)
        else if inBlock ∧ kind = .blockMappingStart then
          announce .mappingStart
          advance
          readPart fuel (.blockKeys token.start)
        else if properties.anchor.isSome ∨ properties.tag.isSome then
          announce (.scalar tag [] .plain)
        else failAt .noContent token (if inBlock then .blockNode else .flowNode) start
  | fuel + 1, .blockEntries since => do
    let token ← peek
    match token.kind with
    | .blockEntry =>
      advance
      let next ← peek
      if next.kind = .blockEntry ∨ next.kind = .blockEnd then emitEmpty token.stop
      else readPart fuel (.node true false)
      readPart fuel (.blockEntries since)
    | .blockEnd =>
      emit .sequenceEnd token.start
      advance
    | _ => failAt .noDash token .blockCollection since
  | fuel + 1, .indentlessEntries => do
    let token ← peek
    if token.kind = .blockEntry then
      advance
      let next ← peek
      if next.kind ∈ [.blockEntry, .key, .value, .blockEnd] then
        emitEmpty token.stop
      else readPart fuel (.node true false)
      readPart fuel .indentlessEntries
    else emit .sequenceEnd token.start
  | fuel + 1, .blockKeys since => do
    let token ← peek
    match token.kind with
    | .key =>
      advance
      let next ← peek
      if next.kind = .key ∨ next.kind = .value ∨ next.kind = .blockEnd then emitEmpty token.stop
      else readPart fuel (.node true true)
      readPart fuel .blockValue
      readPart fuel (.blockKeys since)
    | .blockEnd =>
      emit .mappingEnd token.start
      advance
    | _ => failAt .noKey token .blockMapping since
  | fuel + 1, .blockValue => do
    let token ← peek
    if token.kind = .value then
      advance
      let next ← peek
      if next.kind = .key ∨ next.kind = .value ∨ next.kind = .blockEnd then emitEmpty token.stop
      else readPart fuel (.node true true)
    else emitEmpty token.start
  | fuel + 1, .flowItems since isFirst => do
    let token ← peek
    if token.kind ≠ .flowSequenceEnd ∧ !isFirst then
      if token.kind = .flowEntry then advance
      else failAt .noCommaOrBracket token .flowSequence since
    let token ← peek
    match token.kind with
    | .flowSequenceEnd =>
      emit .sequenceEnd token.start
      advance
    | .key =>
      emit .mappingStart token.start
      advance
      readPart fuel .pairKey
      readPart fuel .pairValue
      let next ← peek
      emit .mappingEnd next.start
      readPart fuel (.flowItems since false)
    | _ =>
      readPart fuel (.node false false)
      readPart fuel (.flowItems since false)
  | fuel + 1, .pairKey => do
    let token ← peek
    if token.kind = .value ∨ token.kind = .flowEntry ∨ token.kind = .flowSequenceEnd then
      advance
      emitEmpty token.stop
    else readPart fuel (.node false false)
  | fuel + 1, .pairValue => do
    let token ← peek
    if token.kind = .value then
      advance
      let next ← peek
      if next.kind = .flowEntry ∨ next.kind = .flowSequenceEnd then emitEmpty next.start
      else readPart fuel (.node false false)
    else emitEmpty token.start
  | fuel + 1, .flowKeys since isFirst => do
    let token ← peek
    if token.kind ≠ .flowMappingEnd ∧ !isFirst then
      if token.kind = .flowEntry then advance
      else failAt .noCommaOrBrace token .flowMapping since
    let token ← peek
    match token.kind with
    | .flowMappingEnd =>
      emit .mappingEnd token.start
      advance
    | .key =>
      advance
      let next ← peek
      if next.kind = .value ∨ next.kind = .flowEntry ∨ next.kind = .flowMappingEnd then
        emitEmpty next.start
      else readPart fuel (.node false false)
      readPart fuel .flowValue
      readPart fuel (.flowKeys since false)
    | _ =>
      readPart fuel (.node false false)
      let next ← peek
      emitEmpty next.start
      readPart fuel (.flowKeys since false)
  | fuel + 1, .flowValue => do
    let token ← peek
    if token.kind = .value then
      advance
      let next ← peek
      if next.kind = .flowEntry ∨ next.kind = .flowMappingEnd then emitEmpty next.start
      else readPart fuel (.node false false)
    else emitEmpty token.start

/-- What the handles stand for where no directive says otherwise. -/
def defaultHandles : List (List Char × List Char) :=
  [("!".toList, "!".toList), ("!!".toList, "tag:yaml.org,2002:".toList)]

/-- Reads the directives before a document; `fuel` is at least the number of characters. -/
def readDirectives : Nat → Bool → List (List Char × List Char) → Reading Unit
  | 0, _, _ => return
  | fuel + 1, versioned, handles => do
    let token ← peek
    match token.kind with
    | .version major minor =>
      if versioned then throw ⟨.repeatedVersion, token.start, none⟩
      else if major ≠ 1 ∨ (minor ≠ 1 ∧ minor ≠ 2) then
        throw ⟨.wrongVersion, token.start, none⟩
      else
        advance
        readDirectives fuel true handles
    | .tagHandle handle replacement =>
      if handles.any (·.1 == handle) then throw ⟨.repeatedTagHandle, token.start, none⟩
      else
        advance
        readDirectives fuel versioned (handles ++ [(handle, replacement)])
    | _ => modify fun d => { d with handles := handles ++ defaultHandles }

/-- Whether a token begins or ends a document by itself. -/
def isBoundary (kind : TokenKind) : Bool :=
  match kind with
  | .version _ _ => true
  | .tagHandle _ _ => true
  | .documentStart => true
  | .documentEnd => true
  | .streamEnd => true
  | _ => false

/-- Reads the first document with its end. -/
def readFirst (fuel : Nat) : Reading Unit := do
  let _ ← peek
  advance
  let token ← peek
  if token.kind ≠ .streamEnd then
    if !isBoundary token.kind || token.kind = .documentEnd then
      readDirectives fuel false []
      readPart fuel (.node true false)
    else
      readDirectives fuel false []
      let token ← peek
      if token.kind ≠ .documentStart then throw ⟨.noDocumentStart, token.start, none⟩
      advance
      let next ← peek
      if isBoundary next.kind then emitEmpty next.start else readPart fuel (.node true false)
    let token ← peek
    if token.kind = .documentEnd then advance

/-- Whether anything but the end of the stream follows a document; a fault does. `fuel` is at least
the number of characters. -/
def hasMore : Nat → Reading Bool
  | 0 => return false
  | fuel + 1 => do
    let token ← peek
    if token.kind = .documentEnd then
      advance
      hasMore fuel
    else return token.kind ≠ .streamEnd

/-- Whether a character may stand in a text. -/
def isAllowed (c : Char) : Bool :=
  let n := c.toNat
  n == 9 || n == 10 || n == 13 || (0x20 ≤ n && n ≤ 0x7E) || n == 0x85 || (0xA0 ≤ n && n ≤ 0xD7FF) ||
    (0xE000 ≤ n && n ≤ 0xFFFD) || 0x10000 ≤ n

/-- The document of which nothing could be read. -/
def broken (fault : Fault) : Document := ⟨[], [], some fault⟩

/-- The first document of a text, and whether anything follows it. A control character is found
before all else. -/
def ofText (text : List Char) : Document × Bool :=
  match text.find? (!isAllowed ·) with
  | some _ =>
    let byte := Text.byteLength (text.takeWhile isAllowed)
    (broken ⟨.controlCharacter byte, .start, none⟩, false)
  | none =>
    let fuel := 16 * text.length + 64
    let draft : Draft := ⟨.ofText text, [], [], [], []⟩
    match (readFirst fuel).run.run draft with
    | (.error fault, d) => (⟨d.events.reverse, d.anchors, some fault⟩, false)
    | (.ok (), d) =>
      let more := match (hasMore fuel).run.run d with
        | (.ok b, _) => b
        | (.error _, _) => true
      (⟨d.events.reverse, d.anchors, none⟩, more)

end Document

end RequestRunner.Yaml
