import RequestRunner.Decimal.Binary64

/-!
# Shortest decimal digits

The decimal that stands for a binary number is the one with the fewest digits among those that are
nearer to it than to any other number of the format, and of several the nearest. The numbers that
round to a given one form an interval around it, which has its ends if the significand is even.

## Main definitions

* `Decimal` — digits with the place of the decimal point.
* `Binary64.shortest` — the decimal of a finite number.
* `Decimal.positional`, `Decimal.scientific` — the two ways to write a decimal.
-/

namespace RequestRunner

/-- The number `0.d₁d₂… · 10 ^ point`, for digits `d₁d₂…` of which neither the first nor the last
is zero. -/
structure Decimal where
  digits : List Char
  point : Int
  deriving DecidableEq

namespace Decimal

/-- The digits of a positive number at the decimal place `10 ^ place`. -/
def ofNat (n : Nat) (place : Int) : Decimal :=
  let written := Nat.toDigits 10 n
  ⟨(written.reverse.dropWhile (· == '0')).reverse, (written.length : Int) + place⟩

/-- The digits with a decimal point and at least one digit on either side. -/
def positional (d : Decimal) : String :=
  let n := d.point.toNat
  let whole := d.digits.take n ++ List.replicate (n - d.digits.length) '0'
  let behind := List.replicate (-d.point).toNat '0' ++ d.digits.drop n
  String.ofList
    ((if whole.isEmpty then ['0'] else whole) ++ '.' :: (if behind.isEmpty then ['0'] else behind))

/-- One digit, the others behind a decimal point if there are any, and a signed exponent. -/
def scientific (d : Decimal) : String :=
  let e := d.point - 1
  let behind := d.digits.drop 1
  String.ofList
    (d.digits.take 1 ++ (if behind.isEmpty then [] else '.' :: behind) ++
      ['e', if e < 0 then '-' else '+'] ++ Nat.toDigits 10 e.natAbs)

end Decimal

namespace Binary64

/-- How many digits the whole part of `num / den` has, and for a number below one how many zeros
follow its decimal point, as a negative number; for positive arguments. -/
def decimalPoint (num den : Nat) : Int :=
  let e : Int := ((Nat.toDigits 10 num).length : Int) - (Nat.toDigits 10 den).length
  if den * Nat.pow 10 e.toNat ≤ num * Nat.pow 10 (-e).toNat then e + 1 else e

/-- The multiple of `den` nearest to `num` among the two around it that lie between `low` and
`high`, as its factor; `closed` tells whether these bounds count as between. -/
def nearestMultiple? (closed : Bool) (low num high den : Nat) : Option Nat :=
  let inside (n : Nat) : Bool :=
    if closed then low ≤ n * den && n * den ≤ high else low < n * den && n * den < high
  let q := num / den
  let r := num % den
  if inside q ∧ (¬ inside (q + 1) ∨ 2 * r < den ∨ (2 * r = den ∧ q % 2 = 0)) then some q
  else if inside (q + 1) then some (q + 1)
  else none

/-- The first grid of powers of ten, from the place `point - 1` downwards, that has a multiple
between the bounds; `tries` limits how many grids are looked at. -/
def firstGrid (closed : Bool) (low num high den : Nat) (place : Int) : Nat → Decimal
  | 0 => .ofNat (num / den) 0
  | tries + 1 =>
    let up := Nat.pow 10 (-place).toNat
    match nearestMultiple? closed (low * up) (num * up) (high * up) (den * Nat.pow 10 place.toNat) with
    | some n => .ofNat n place
    | none => firstGrid closed low num high den (place - 1) tries

/-- The shortest decimal that rounds to a finite number other than zero; seventeen digits always
suffice. -/
def shortest (x : Binary64) : Decimal :=
  let m := x.significand
  let up := Nat.pow 2 (x.scale - 1077)
  let den := Nat.pow 2 (1077 - x.scale)
  let below := if x.fraction = 0 ∧ 1 < x.scale then 1 else 2
  firstGrid (m % 2 = 0) ((4 * m - below) * up) (4 * m * up) ((4 * m + 2) * up) den
    (decimalPoint (4 * m * up) den - 1) 17

/-- The sign and the shortest decimal with a point and without exponent; `inf` and `NaN` for what
is no number. -/
def positional (x : Binary64) : String :=
  let sign := if x.isNegative then "-" else ""
  if x.isFinite then sign ++ (if x.isZero then "0.0" else x.shortest.positional)
  else if x.magnitude = infinityMagnitude then sign ++ "inf"
  else "NaN"

end Binary64

end RequestRunner
