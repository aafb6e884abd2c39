/-!
# Lines of a text

A line ends at `'\n'`, and a `'\r'` right before that `'\n'` belongs to the ending. What follows
the last `'\n'` is a line only if it is not empty; a `'\r'` at its end is part of it.

## Main definitions

* `Text.lines` — the lines of a text, without their endings.
* `Text.joinLines` — lines put together with `'\n'` between them.
-/

namespace RequestRunner.Text

/-- A line that a `'\n'` ends, from its characters in reverse: a `'\r'` at its end is not kept. -/
def endedLine : List Char → List Char
  | '\r' :: before => before.reverse
  | line => line.reverse

/-- The lines of `cs`, where `line` holds in reverse the characters of the line that is open. -/
def linesFrom (line : List Char) : List Char → List (List Char)
  | [] => if line.isEmpty then [] else [line.reverse]
  | c :: cs =>
    if c = '\n' then endedLine line :: linesFrom [] cs else linesFrom (c :: line) cs

/-- The lines of a text, without their endings. -/
def lines (text : String) : List String := (linesFrom [] text.toList).map String.ofList

/-- Lines put together with a line feed between any two. -/
def joinLines (ls : List String) : String := "\n".intercalate ls

end RequestRunner.Text
