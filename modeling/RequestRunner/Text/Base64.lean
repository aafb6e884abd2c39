/-!
# Bytes in sixty-four characters

Three bytes are written as four characters of six bits each; where bytes are missing at the end,
equals signs fill up the last four.

## Main definitions

* `Text.base64` — bytes as text.
-/

namespace RequestRunner.Text

/-- The characters for six bits, in order. -/
def base64Alphabet : List Char :=
  "ABCDEFGHIJKLMNOPQRSTUVWXYZabcdefghijklmnopqrstuvwxyz0123456789+/".toList

/-- The character for the lowest six bits of a number. -/
def base64Char (n : Nat) : Char := base64Alphabet.getD (n % 64) 'A'

/-- The characters for bytes. -/
def base64Chars : List UInt8 → List Char
  | [] => []
  | [a] =>
    let n := a.toNat * 16
    [base64Char (n / 64), base64Char n, '=', '=']
  | [a, b] =>
    let n := (a.toNat * 256 + b.toNat) * 4
    [base64Char (n / 4096), base64Char (n / 64), base64Char n, '=']
  | a :: b :: c :: rest =>
    let n := (a.toNat * 256 + b.toNat) * 256 + c.toNat
    base64Char (n / 262144) :: base64Char (n / 4096) :: base64Char (n / 64) :: base64Char n ::
      base64Chars rest

/-- Bytes as text. -/
def base64 (bytes : List UInt8) : String := String.ofList (base64Chars bytes)

end RequestRunner.Text
