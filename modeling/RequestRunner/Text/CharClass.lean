/-!
# Character classes given by ranges

A Unicode property is a list of inclusive ranges of code points, in increasing order.

## Main definitions

* `Text.CharClass` — such a list.
* `Text.CharClass.contains` — whether a character lies in one of the ranges.
-/

namespace RequestRunner.Text

/-- A set of code points as inclusive ranges in increasing order. -/
abbrev CharClass := List (Nat × Nat)

/-- Whether the character lies in one of the ranges; the search ends at the first range that
starts after it. -/
def CharClass.contains (c : Char) : CharClass → Bool
  | [] => false
  | (lo, hi) :: rest =>
    if c.toNat < lo then false else c.toNat ≤ hi || CharClass.contains c rest

end RequestRunner.Text
