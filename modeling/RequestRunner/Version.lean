import RequestRunner.Text.Ascii

/-!
# Version numbers

A version is three numbers below `2 ^ 64` with dots between them. Each may have a plus sign and
leading zeros, and one `v` may stand before the first. Versions are compared number by number.

## Main definitions

* `Version`, `Version.ofText?` — the three numbers, and how they are read.
* `Version.isBelow` — the order of versions.
* `isNewer` — whether one text is a version above another.
-/

namespace RequestRunner

/-- The three numbers of a version. -/
structure Version where
  major : Nat
  minor : Nat
  patch : Nat
  deriving DecidableEq

namespace Version

/-- One of the numbers. -/
def part? (cs : List Char) : Option Nat := Text.readNatural? UInt64.size cs

/-- The text with one `v` less if it starts with that. -/
def dropMark (cs : List Char) : List Char := if cs.head? = some 'v' then cs.drop 1 else cs

/-- The parts before and behind the first dot. -/
def splitAtDot? (cs : List Char) : Option (List Char × List Char) :=
  match cs.span (· != '.') with
  | (part, _ :: rest) => some (part, rest)
  | (_, []) => none

/-- The version that a text is. -/
def ofText? (text : String) : Option Version := do
  let (major, rest) ← splitAtDot? (dropMark text.toList)
  let (minor, patch) ← splitAtDot? rest
  return ⟨← part? major, ← part? minor, ← part? patch⟩

/-- Whether the version comes before the other. -/
def isBelow (v w : Version) : Bool :=
  v.major < w.major ||
    (v.major == w.major && (v.minor < w.minor || (v.minor == w.minor && v.patch < w.patch)))

end Version

/-- Whether `latest` is a version above the version `current`. -/
def isNewer (latest current : String) : Bool :=
  match Version.ofText? latest, Version.ofText? current with
  | some l, some c => c.isBelow l
  | _, _ => false

end RequestRunner
