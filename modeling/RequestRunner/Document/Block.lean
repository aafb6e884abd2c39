import RequestRunner.Document.Headers
import RequestRunner.Document.Region
import RequestRunner.Text.Line
import RequestRunner.Text.Split

/-!
# Request blocks

A document is a text of lines. Each method line gives one block, which takes its region without
the blank lines at the region's end. The lines from the method line to the first blank line after
it hold the headers, what follows that blank line is the body, and comments and other text among
the headers say nothing.

## Main definitions

* `Block` — a request with the lines it takes up.
* `Block.ofRegion?` — the block of a region, if the region has a method line.
* `blocks` — the blocks of a document, in order.
* `blockAt?` — the first block that covers a line.
* `render` — a document that holds the given blocks.
-/

namespace RequestRunner

/-- A request of a document with the lines it takes up, all zero-based and inclusive. -/
structure Block where
  method : Method
  url : String
  headers : Headers
  body : String
  startLine : Nat
  endLine : Nat
  methodLine : Nat
  deriving DecidableEq

/-- The last line from `first` up to the given one that is not blank, or `first` if all are. -/
def lastFilled (kinds : List LineKind) (first : Nat) : Nat → Nat
  | 0 => first
  | n + 1 =>
    if n + 1 ≤ first then first
    else if kinds[n + 1]? = some .blank then lastFilled kinds first n
    else n + 1

/-- The headers that the header lines among `kinds` give, one after the other. -/
def Headers.ofKinds (kinds : List LineKind) : Headers :=
  kinds.foldl
    (fun headers kind =>
      match kind with
      | .header name value => headers.insert name value
      | _ => headers)
    .empty

namespace Block

/-- Whether the block takes up the line. -/
def covers (b : Block) (line : Nat) : Bool := b.startLine ≤ line && line ≤ b.endLine

/-- The block of a region, if the region has a method line. -/
def ofRegion? (lines : List String) (kinds : List LineKind) (region : Region) : Option Block := do
  let methodLine ← region.methodLine
  let .method method url ← kinds[methodLine]? | none
  let endLine := lastFilled kinds methodLine region.last
  let inner := (kinds.drop (methodLine + 1)).take (endLine - methodLine)
  let body :=
    match inner.findIdx? (· == .blank) with
    | some gap => Text.joinLines ((lines.drop (methodLine + gap + 2)).take (endLine - (methodLine + gap + 1)))
    | none => ""
  some ⟨method, url, .ofKinds (inner.takeWhile (· != .blank)), body, region.start, endLine, methodLine⟩

/-- The lines that write a block: a separator, the method line, a header a line behind one space,
and the body behind an empty line if there is one. -/
def toLines (b : Block) : List String :=
  ["###", b.method.name ++ " " ++ b.url] ++
    b.headers.entries.map (fun h => " " ++ h.name ++ ": " ++ h.value) ++
    if b.body.isEmpty then [] else "" :: Text.splitText '\n' b.body

end Block

/-- The kinds of a document's lines. -/
def lineKinds (document : String) : List LineKind := (Text.lines document).map LineKind.ofLine

/-- The blocks of a document, in order. -/
def blocks (document : String) : List Block :=
  let lines := Text.lines document
  let kinds := lines.map LineKind.ofLine
  (regions kinds).filterMap (Block.ofRegion? lines kinds)

/-- The first block that covers the line. -/
def blockAt? (bs : List Block) (line : Nat) : Option Block := bs.find? (·.covers line)

/-- A document that holds the blocks, every line ended by a carriage return and a line feed. -/
def render (bs : List Block) : String :=
  String.join ((bs.flatMap Block.toLines).map (· ++ "\r\n"))

end RequestRunner
