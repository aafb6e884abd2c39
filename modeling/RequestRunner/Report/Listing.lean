import RequestRunner.Document.Block
import RequestRunner.Json.Printer

/-!
# Showing blocks

A block as a line of a listing, with line numbers that count from one, and as JSON.

## Main definitions

* `Block.listing` — the line of a listing.
* `Block.toJson` — the JSON form; the headers are an object in their own order.
-/

namespace RequestRunner.Block

/-- The line of a listing for the block number `index`, which counts from zero. -/
def listing (index : Nat) (b : Block) : String :=
  Text.padLeft 3 ' ' (Text.decimal (index + 1)) ++ "  L" ++ Text.decimal (b.startLine + 1) ++ "-" ++
    Text.decimal (b.endLine + 1) ++ "  " ++ Text.padRight 7 ' ' b.method.name ++ " " ++ b.url ++
    (if b.headers.isEmpty then "" else "  [" ++ Text.decimal b.headers.size ++ " header(s)]") ++
    (if b.body.isEmpty then "" else "  [body]")

/-- The headers as a JSON object in their own order. -/
def headersToJson (headers : Headers) : Json :=
  .object (headers.entries.map fun h => (h.name, .string h.value))

/-- The block as a JSON object. -/
def toJson (b : Block) : Json :=
  .object
    [("method", .string b.method.name), ("url", .string b.url), ("headers", headersToJson b.headers),
      ("body", .string b.body), ("startLine", .integer b.startLine), ("endLine", .integer b.endLine),
      ("methodLine", .integer b.methodLine)]

end RequestRunner.Block
