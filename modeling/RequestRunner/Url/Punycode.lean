import RequestRunner.Text.Ascii

/-!
# Host names in ASCII

A label of a host name that has letters beyond ASCII is written with its letters of ASCII first and
behind them, as numbers, which other letters go where. The numbers are written least digit first,
with thirty-six digits and with an end that shows by a threshold, which adapts to the numbers so
far.

## Main definitions

* `Punycode.encode` — a label in ASCII.
* `Punycode.decode?` — the label that such a text stands for.
-/

namespace RequestRunner.Punycode

/-- The threshold of the digit at place `k`, where places are counted in steps of 36. -/
def threshold (bias k : Nat) : Nat := if k ≤ bias then 1 else min 26 (k - bias)

/-- A threshold is one at least. So the number that is left gets less with each digit that is
written. -/
theorem one_le_threshold (bias k : Nat) : 1 ≤ threshold bias k := by
  unfold threshold; split <;> omega

/-- The number of places by which the bias grows, and what is left of the difference. -/
def scaleDown (delta : Nat) : Nat × Nat :=
  if delta > 455 then
    let (places, rest) := scaleDown (delta / 35)
    (places + 36, rest)
  else (0, delta)
termination_by delta

/-- The bias after a difference; `count` is the number of letters placed so far. -/
def adapt (delta count : Nat) (isFirst : Bool) : Nat :=
  let halved := if isFirst then delta / 700 else delta / 2
  let (places, rest) := scaleDown (halved + halved / count)
  places + 36 * rest / (rest + 38)

/-- A digit below thirty-six. -/
def digit (n : Nat) : Char := Char.ofNat (if n < 26 then 97 + n else 22 + n)

/-- The value of a digit. -/
def digitValue? (c : Char) : Option Nat :=
  if 'a' ≤ c ∧ c ≤ 'z' then some (c.toNat - 97)
  else if '0' ≤ c ∧ c ≤ '9' then some (c.toNat - 22)
  else none

/-! ### Writing -/

/-- The digits of a number from place `k` on. -/
def digits (bias k n : Nat) : List Char :=
  let t := threshold bias k
  if n < t then [digit n] else digit (t + (n - t) % (36 - t)) :: digits bias (k + 36) ((n - t) / (36 - t))
termination_by n
decreasing_by
  have h := one_le_threshold bias k
  exact Nat.lt_of_le_of_lt (Nat.div_le_self _ _) (by omega)

/-- What has been written, and what the next number depends on. -/
structure Writer where
  out : List Char
  delta : Nat
  bias : Nat
  count : Nat

/-- Passes one letter of the label while the letters with code `n` are placed. -/
def Writer.pass (basic n : Nat) (w : Writer) (c : Char) : Writer :=
  if c.toNat < n then { w with delta := w.delta + 1 }
  else if c.toNat = n then
    { out := w.out ++ digits w.bias 36 w.delta
      delta := 0
      bias := adapt w.delta (w.count + 1) (w.count == basic)
      count := w.count + 1 }
  else w

/-- Places the letters with the given codes, in order; all below `next` are placed. -/
def place (label : List Char) (basic : Nat) : Nat → Writer → List Nat → Writer
  | _, w, [] => w
  | next, w, n :: codes =>
    let w := { w with delta := w.delta + (n - next) * (w.count + 1) }
    let w := label.foldl (Writer.pass basic n) w
    place label basic (n + 1) { w with delta := w.delta + 1 } codes

/-- Whether a letter belongs to ASCII. -/
def isBasic (c : Char) : Bool := c.toNat < 128

/-- A label in ASCII. -/
def encode (label : List Char) : List Char :=
  let basic := label.filter isBasic
  let codes := (((label.filter (!isBasic ·)).map Char.toNat).mergeSort (· ≤ ·)).eraseDups
  let head := if basic.isEmpty then [] else basic ++ ['-']
  head ++ (place label basic.length 128 ⟨[], 0, 72, basic.length⟩ codes).out

/-! ### Reading -/

/-- Reads a number from place `k` on: `weight` is what a digit counts, `n` is what was read. -/
def readNumber? (bias : Nat) : Nat → Nat → Nat → List Char → Option (Nat × List Char)
  | _, _, _, [] => none
  | k, weight, n, c :: cs => do
    let d ← digitValue? c
    let n := n + d * weight
    let t := threshold bias k
    if d < t then some (n, cs) else readNumber? bias (k + 36) (weight * (36 - t)) n cs

/-- Reads the numbers and puts their letters into the label; `fuel` is at least the number of
characters. -/
def insertAll : Nat → Nat → Nat → Nat → List Char → List Char → Option (List Char)
  | _, _, _, _, label, [] => some label
  | 0, _, _, _, _, _ => none
  | fuel + 1, bias, code, position, label, cs => do
    let (n, rest) ← readNumber? bias 36 1 position cs
    let count := label.length + 1
    let code := code + n / count
    if code.isValidChar then
      insertAll fuel (adapt (n - position) count (position == 0)) code (n % count + 1)
        (label.insertIdx (n % count) (Char.ofNat code)) rest
    else none

/-- The label that a text stands for. -/
def decode? (cs : List Char) : Option (List Char) :=
  let tail := (cs.reverse.takeWhile (· != '-')).reverse
  let head := cs.take (cs.length - tail.length - 1)
  insertAll (tail.length + 1) 72 128 0 head tail

end RequestRunner.Punycode
