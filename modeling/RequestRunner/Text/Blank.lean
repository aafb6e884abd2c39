/-!
# Blank characters

The characters that separate words and that a line is trimmed of: those with the Unicode property
`White_Space`. The zero width space and the byte order mark do not have it.

## Main definitions

* `Text.isBlank` — membership in the class.
* `Text.trimStart`, `Text.trimEnd`, `Text.trim` — a text without its leading blanks, without its
  trailing blanks, without either.
-/

namespace RequestRunner.Text

/-- The characters with the Unicode property `White_Space`. -/
def isBlank (c : Char) : Bool :=
  let n := c.toNat
  (9 ≤ n && n ≤ 13) || n == 0x20 || n == 0x85 || n == 0xA0 || n == 0x1680 ||
    (0x2000 ≤ n && n ≤ 0x200A) || n == 0x2028 || n == 0x2029 || n == 0x202F || n == 0x205F ||
    n == 0x3000

/-- The text from its first character that is not blank. -/
def trimStart (cs : List Char) : List Char := cs.dropWhile isBlank

/-- The text up to its last character that is not blank. -/
def trimEnd (cs : List Char) : List Char := (cs.reverse.dropWhile isBlank).reverse

/-- The text between its first and its last character that is not blank. -/
def trim (cs : List Char) : List Char := trimStart (trimEnd cs)

end RequestRunner.Text
