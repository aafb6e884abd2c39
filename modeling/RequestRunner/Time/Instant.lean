import RequestRunner.Text.Ascii

/-!
# Instants and their dates

An instant is a number of seconds since the start of 1970 with nanoseconds; nanoseconds from a
whole second on stand for a leap second. Dates are those of the Gregorian calendar, extended in
both directions, in the time zone UTC.

## Main definitions

* `Instant` — seconds and nanoseconds.
* `Date.ofDays` — the date so many days after the first of January 1970.
* `Instant.clock`, `Instant.rfc3339` — the time of day, and date and time, as text.
-/

namespace RequestRunner

/-- A point in time. -/
structure Instant where
  seconds : Int
  nanos : Nat
  deriving DecidableEq

/-- A day of the calendar. -/
structure Date where
  year : Int
  month : Nat
  day : Nat
  deriving DecidableEq

/-- The date so many days after the first of January 1970. Counted in years that start in March,
four hundred years have 146097 days and a leap day is the last day of its year. -/
def Date.ofDays (days : Int) : Date :=
  let shifted := days + 719468
  let era := shifted.fdiv 146097
  let dayOfEra := (shifted.fmod 146097).toNat
  let yearOfEra := (dayOfEra - dayOfEra / 1460 + dayOfEra / 36524 - dayOfEra / 146096) / 365
  let dayOfYear := dayOfEra - (365 * yearOfEra + yearOfEra / 4 - yearOfEra / 100)
  let monthFromMarch := (5 * dayOfYear + 2) / 153
  let day := dayOfYear - (153 * monthFromMarch + 2) / 5 + 1
  let month := if monthFromMarch < 10 then monthFromMarch + 3 else monthFromMarch - 9
  let year := era * 400 + yearOfEra + (if month ≤ 2 then 1 else 0)
  ⟨year, month, day⟩

/-- The number in decimal digits, with zeros on its left up to `width` digits. -/
def zeroPadded (width n : Nat) : String := Text.padLeft width '0' (Text.decimal n)

/-- Year, month and day; a year outside `0` to `9999` has a sign. -/
def Date.text (d : Date) : String :=
  let year :=
    if 0 ≤ d.year ∧ d.year ≤ 9999 then zeroPadded 4 d.year.toNat
    else (if d.year < 0 then "-" else "+") ++ zeroPadded 4 d.year.natAbs
  year ++ "-" ++ zeroPadded 2 d.month ++ "-" ++ zeroPadded 2 d.day

namespace Instant

/-- The number of nanoseconds in a second. -/
def nanosPerSecond : Nat := 1000000000

/-- Hours, minutes and seconds of the day; a leap second is the second 60. -/
def clock (t : Instant) : String :=
  let s := (t.seconds.fmod 86400).toNat
  let leap := if nanosPerSecond ≤ t.nanos then 1 else 0
  zeroPadded 2 (s / 3600) ++ ":" ++ zeroPadded 2 (s / 60 % 60) ++ ":" ++ zeroPadded 2 (s % 60 + leap)

/-- The fraction of the second with as few of three, six or nine digits as it needs, or nothing. -/
def fractionText (t : Instant) : String :=
  let n := t.nanos % nanosPerSecond
  if n = 0 then ""
  else if n % 1000000 = 0 then "." ++ zeroPadded 3 (n / 1000000)
  else if n % 1000 = 0 then "." ++ zeroPadded 6 (n / 1000)
  else "." ++ zeroPadded 9 n

/-- Date and time with the mark of the time zone UTC. -/
def rfc3339 (t : Instant) : String :=
  (Date.ofDays (t.seconds.fdiv 86400)).text ++ "T" ++ t.clock ++ t.fractionText ++ "Z"

end Instant

end RequestRunner
