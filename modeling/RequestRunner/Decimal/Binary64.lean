/-!
# Binary floating point numbers of 64 bits

Numbers of the IEEE format `binary64` as their bit patterns, with the arithmetic done on natural
numbers: a result is the exact ratio rounded to the nearest number of the format, of two equally
near ones the one with the even significand.

## Main definitions

* `Binary64` — a bit pattern.
* `Binary64.significand`, `Binary64.scale` — the number is `significand · 2 ^ (scale - 1075)`.
* `Binary64.ofRatio` — the ratio of two natural numbers, rounded.
* `Binary64.mul`, `Binary64.div` — rounded product and quotient.
-/

namespace RequestRunner

/-- A number of the format `binary64` by its bits. -/
structure Binary64 where
  bits : UInt64
  deriving DecidableEq

namespace Binary64

/-- The number with this sign and these lower 63 bits. -/
def ofMagnitude (negative : Bool) (magnitude : Nat) : Binary64 :=
  ⟨UInt64.ofNat (if negative then Nat.pow 2 63 + magnitude else magnitude)⟩

/-- The lower 63 bits of an infinity; those of a finite number are less. -/
def infinityMagnitude : Nat := 2047 * Nat.pow 2 52

/-- Whether the sign bit is set. -/
def isNegative (x : Binary64) : Bool := Nat.pow 2 63 ≤ x.bits.toNat

/-- The bits without the sign. -/
def magnitude (x : Binary64) : Nat := x.bits.toNat % Nat.pow 2 63

/-- Whether the number is neither an infinity nor a NaN. -/
def isFinite (x : Binary64) : Bool := x.magnitude < infinityMagnitude

/-- Whether the number is a zero of either sign. -/
def isZero (x : Binary64) : Bool := x.magnitude == 0

/-- The bits behind the binary point. -/
def fraction (x : Binary64) : Nat := x.magnitude % Nat.pow 2 52

/-- The exponent of the last bit of the significand, plus 1075. -/
def scale (x : Binary64) : Nat := max 1 (x.magnitude / Nat.pow 2 52)

/-- The significand as a natural number. -/
def significand (x : Binary64) : Nat :=
  if x.magnitude < Nat.pow 2 52 then x.fraction else Nat.pow 2 52 + x.fraction

/-- The number with the opposite sign. -/
def neg (x : Binary64) : Binary64 := ofMagnitude (!x.isNegative) x.magnitude

/-- Numerator of the exact value of a finite number without its sign, over `denominator`. -/
def numerator (x : Binary64) : Nat := x.significand * Nat.pow 2 (x.scale - 1075)

/-- Denominator of the exact value of a finite number. -/
def denominator (x : Binary64) : Nat := Nat.pow 2 (1075 - x.scale)

/-- The quotient rounded to the nearest natural number, a half to the even neighbour. -/
def divideToEven (num den : Nat) : Nat :=
  let q := num / den
  let r := num % den
  if den < 2 * r ∨ (den = 2 * r ∧ q % 2 = 1) then q + 1 else q

/-- The greatest `e` with `2 ^ e ≤ num / den`, for positive arguments. -/
def floorLog2 (num den : Nat) : Int :=
  let e : Int := (num.log2 : Int) - den.log2
  if den * Nat.pow 2 e.toNat ≤ num * Nat.pow 2 (-e).toNat then e else e - 1

/-- `num / den` with the given sign, rounded to the nearest number of the format; an infinity if it
is too large. -/
def ofRatio (negative : Bool) (num den : Nat) : Binary64 :=
  if num = 0 then ofMagnitude negative 0
  else
    let e := max (floorLog2 num den - 52) (-1074)
    let q := divideToEven (num * Nat.pow 2 (-e).toNat) (den * Nat.pow 2 e.toNat)
    ofMagnitude negative (min infinityMagnitude ((e + 1074).toNat * Nat.pow 2 52 + q))

/-- A natural number, rounded. -/
def ofNat (n : Nat) : Binary64 := ofRatio false n 1

/-- The product of two finite numbers, rounded. -/
def mul (x y : Binary64) : Binary64 :=
  ofRatio (x.isNegative != y.isNegative) (x.numerator * y.numerator) (x.denominator * y.denominator)

/-- The quotient of two finite numbers, the second not zero, rounded. -/
def div (x y : Binary64) : Binary64 :=
  ofRatio (x.isNegative != y.isNegative) (x.numerator * y.denominator) (x.denominator * y.numerator)

end Binary64

end RequestRunner
