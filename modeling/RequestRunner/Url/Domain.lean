import RequestRunner.Text.Hidden
import RequestRunner.Text.Split
import RequestRunner.Text.Utf8
import RequestRunner.Text.Word
import RequestRunner.Url.Punycode

/-!
# Host names

A host name is a list of labels with dots between them. Letters are taken as small ones, wide forms
as the plain ones, and characters that only steer the layout are left out. A label with letters
beyond ASCII is written in ASCII behind a mark.

Names in plain ASCII are read as they should be. For letters beyond it this is an approximation: the
full tables, which say of each character whether it may stand in a name and what it is taken for,
are large, and only their most common rules are here. Ligatures are not resolved, marks are not
composed with the letters before them, and joiners are refused also where a script needs them. What
is proved of requests does not rest on this: it holds for any lawful reader of addresses, see
`Url.Reader`.

## Main definitions

* `Domain.fold?` — a character as it is taken.
* `Domain.isForbidden` — the characters of ASCII that no host name has.
* `Domain.ofBytes?` — the host name that bytes give, in ASCII.
-/

namespace RequestRunner.Domain

/-! ### Characters -/

/-- Runs of capital letters, with the distance to the small ones. -/
def capitalRuns : List (Nat × Nat × Nat) :=
  [(0x41, 0x5A, 32), (0xC0, 0xD6, 32), (0xD8, 0xDE, 32), (0x391, 0x3A1, 32), (0x3A3, 0x3AB, 32),
    (0x400, 0x40F, 80), (0x410, 0x42F, 32), (0x531, 0x556, 48), (0x10A0, 0x10C5, 7264),
    (0x10400, 0x10427, 40)]

/-- Runs of letters where each capital is followed by its small letter; last is a capital. -/
def capitalPairs : List (Nat × Nat) :=
  [(0x100, 0x12E), (0x132, 0x136), (0x139, 0x147), (0x14A, 0x176), (0x179, 0x17D), (0x1CD, 0x1DB),
    (0x1DE, 0x1EE), (0x1F8, 0x21E), (0x222, 0x232), (0x370, 0x372), (0x3D8, 0x3EE), (0x460, 0x480),
    (0x48A, 0x4BE), (0x4C1, 0x4CD), (0x4D0, 0x52E), (0x1E00, 0x1E94), (0x1EA0, 0x1EFE)]

/-- The small letter of a capital one; any other character itself. -/
def small (c : Char) : Char :=
  let n := c.toNat
  match capitalRuns.find? fun run => run.1 ≤ n && n ≤ run.2.1 with
  | some run => Char.ofNat (n + run.2.2)
  | none =>
    if capitalPairs.any fun run => run.1 ≤ n && n ≤ run.2 && (n - run.1) % 2 == 0 then
      Char.ofNat (n + 1)
    else c

/-- The plain form of a wide one; any other character itself. -/
def plain (c : Char) : Char :=
  let n := c.toNat
  if 0xFF01 ≤ n ∧ n ≤ 0xFF5E then Char.ofNat (n - 0xFEE0)
  else if n = 0x3002 ∨ n = 0xFF61 then '.'
  else if n = 0xA0 ∨ n = 0x3000 then ' '
  else c

/-- Whether the character only steers the layout. -/
def isIgnored (c : Char) : Bool :=
  let n := c.toNat
  n == 0xAD || n == 0x34F || n == 0x200B || n == 0x2060 || n == 0x2064 || n == 0xFEFF ||
    (0x180B ≤ n && n ≤ 0x180D) || (0xFE00 ≤ n && n ≤ 0xFE0F) || (0xE0100 ≤ n && n ≤ 0xE01EF)

/-- Whether a character beyond ASCII may stand in a label. -/
def isAllowed (c : Char) : Bool := Text.isWord c && c.toNat != 0x200C && c.toNat != 0x200D ||
  !Text.isHidden c

/-- Whether a character belongs to the one before it. -/
def isMark (c : Char) : Bool := Text.isWord c && Text.isHidden c

/-- A character as it is taken, if a host name can have it. -/
def fold? (c : Char) : Option (List Char) :=
  if isIgnored c then some []
  else
    let c := small (plain c)
    if Punycode.isBasic c || isAllowed c then some [c] else none

/-- Whether a character of ASCII is one that no host name has. -/
def isForbidden (c : Char) : Bool :=
  c.toNat ≤ 0x20 || c.toNat == 0x7F || "%#/:<>?@[\\]^|".toList.contains c

/-! ### Labels -/

/-- The mark of a label that is written in ASCII. -/
def mark : List Char := "xn--".toList

/-- Whether letters form a label that needs the mark. -/
def needsMark (label : List Char) : Bool :=
  label.any (!Punycode.isBasic ·) && !(label.head?.any isMark)

/-- Whether the text behind a mark is the written form of a label that needs it. -/
def isWritten (cs : List Char) : Bool :=
  match Punycode.decode? cs with
  | none => false
  | some label =>
    needsMark label && label.all (fun c => fold? c == some [c]) && Punycode.encode label == cs

/-- The written form of a label. -/
def writeLabel? (label : List Char) : Option (List Char) :=
  if label.all Punycode.isBasic then
    if mark.isPrefixOf label && !isWritten (label.drop mark.length) then none else some label
  else if needsMark label then some (mark ++ Punycode.encode label)
  else none

/-- The host name of characters, in ASCII. -/
def ofChars? (cs : List Char) : Option (List Char) := do
  let folded ← cs.mapM fold?
  let labels ← (Text.split '.' folded.flatten).mapM writeLabel?
  let name := ['.'].intercalate labels
  if name.any isForbidden then none else some name

/-- The host name that bytes give, in ASCII. -/
def ofBytes? (bytes : List UInt8) : Option (List Char) := do ofChars? (← Text.decode? bytes)

end RequestRunner.Domain
