import RequestRunner.Yaml.Error

/-!
# Reading places

The characters that are left of a YAML text together with the place of the first of them. Line
breaks are the line feed, the carriage return with or without one, and U+0085, U+2028 and U+2029.
In the content of a scalar the first three become a line feed.

## Main definitions

* `Yaml.Cursor` — the characters left and their place.
* `Yaml.Cursor.skip`, `Yaml.Cursor.skipLine` — past a character, past a line break.
* `Yaml.Cursor.takeWhile` — past the characters of a class.
-/

namespace RequestRunner.Yaml

/-- The characters that are left and the place of the first. -/
structure Cursor where
  rest : List Char
  mark : Mark

/-- A space or a tab. -/
def isSpaceOrTab (c : Char) : Bool := c == ' ' || c == '\t'

/-- A character that ends a line. -/
def isBreak (c : Char) : Bool :=
  c == '\n' || c == '\r' || c == '\u0085' || c == '\u2028' || c == '\u2029'

/-- A character of a name: ASCII letters and digits, the hyphen and the underscore. -/
def isNameChar (c : Char) : Bool := c.isAlphanum || c == '-' || c == '_'

/-- Whether a text is at its end or starts with a line break. -/
def atBreakOrEnd (cs : List Char) : Bool := cs.head?.all isBreak

/-- Whether a text is at its end or starts with a blank or a line break. -/
def atBlankOrEnd (cs : List Char) : Bool := cs.head?.all fun c => isSpaceOrTab c || isBreak c

/-- Whether a text starts with a blank. -/
def atBlank (cs : List Char) : Bool := cs.head?.any isSpaceOrTab

/-- Whether a text starts with a line break. -/
def atBreak (cs : List Char) : Bool := cs.head?.any isBreak

namespace Cursor

/-- Whether the next character is `c`. -/
def isAt (p : Cursor) (c : Char) : Bool := p.rest.head? == some c

/-- A cursor past one character, which is no line break. -/
def skip (p : Cursor) : Cursor :=
  ⟨p.rest.drop 1, ⟨p.mark.index + 1, p.mark.line, p.mark.column + 1⟩⟩

/-- A cursor past `n` characters, none of them a line break. -/
def skipMany (p : Cursor) (n : Nat) : Cursor :=
  ⟨p.rest.drop n, ⟨p.mark.index + n, p.mark.line, p.mark.column + n⟩⟩

/-- A cursor past a line break. -/
def skipLine (p : Cursor) : Cursor :=
  match p.rest with
  | '\r' :: '\n' :: rest => ⟨rest, ⟨p.mark.index + 2, p.mark.line + 1, 0⟩⟩
  | _ :: rest => ⟨rest, ⟨p.mark.index + 1, p.mark.line + 1, 0⟩⟩
  | [] => p

/-- What a line break stands for in the content of a scalar. -/
def lineBreak (p : Cursor) : List Char :=
  match p.rest with
  | '\u2028' :: _ => ['\u2028']
  | '\u2029' :: _ => ['\u2029']
  | c :: _ => if isBreak c then ['\n'] else []
  | [] => []

/-- The characters of a class at the front, and the cursor past them. -/
def takeWhile (p : Cursor) (q : Char → Bool) : List Char × Cursor :=
  let taken := p.rest.takeWhile q
  (taken, p.skipMany taken.length)

/-- A cursor past the characters of a class. -/
def skipWhile (p : Cursor) (q : Char → Bool) : Cursor := (p.takeWhile q).2

/-- A cursor past the blanks and the comment that may follow in the line. -/
def skipComment (p : Cursor) : Cursor :=
  let p := p.skipWhile isSpaceOrTab
  if p.isAt '#' then p.skipWhile (!isBreak ·) else p

/-- A cursor past the line break if there is one. -/
def skipBreak (p : Cursor) : Cursor := if atBreak p.rest then p.skipLine else p

/-- Whether a document marker of three times `c` stands at the start of the line. -/
def atMarker (p : Cursor) (c : Char) : Bool :=
  p.mark.column == 0 && p.rest.take 3 == [c, c, c] && atBlankOrEnd (p.rest.drop 3)

/-- Whether a document marker stands at the start of the line. -/
def atDocumentMarker (p : Cursor) : Bool := p.atMarker '-' || p.atMarker '.'

/-- A fault at the cursor. -/
def fail {α : Type} (p : Cursor) (problem : Problem) (reading : Option (Activity × Mark)) :
    Except Fault α :=
  .error ⟨problem, p.mark, reading⟩

end Cursor

end RequestRunner.Yaml
