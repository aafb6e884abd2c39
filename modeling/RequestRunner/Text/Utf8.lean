/-!
# Bytes and characters

UTF-8 as the Unicode standard has it: no overlong forms, no surrogates, nothing above U+10FFFF.
Reading in spite of faults puts U+FFFD for each maximal run of bytes that begins a character but
does not go on as one, and for each byte that begins none.

## Main definitions

* `Text.byteLength` — how many bytes characters take.
* `Text.encode` — the bytes of characters.
* `Text.decodeLossy` — characters of any bytes.
* `Text.decode?` — characters of bytes without a fault.
-/

namespace RequestRunner.Text

/-- The replacement character U+FFFD. -/
def replacement : Char := '\uFFFD'

/-- How many bytes the characters take. -/
def byteLength (cs : List Char) : Nat := cs.foldl (fun bytes c => bytes + c.utf8Size) 0

/-- The bytes of a character. -/
def encodeChar (c : Char) : List UInt8 :=
  let n := c.toNat
  let tail (shift : Nat) : UInt8 := UInt8.ofNat (0x80 + n / Nat.pow 2 shift % 64)
  if n < 0x80 then [UInt8.ofNat n]
  else if n < 0x800 then [UInt8.ofNat (0xC0 + n / 64), tail 0]
  else if n < 0x10000 then [UInt8.ofNat (0xE0 + n / 4096), tail 6, tail 0]
  else [UInt8.ofNat (0xF0 + n / 262144), tail 12, tail 6, tail 0]

/-- The bytes of characters. -/
def encode (cs : List Char) : List UInt8 := cs.flatMap encodeChar

/-- Whether `b` may follow the leading byte `lead` directly. -/
def isSecond (lead b : UInt8) : Bool :=
  let lo : UInt8 := if lead = 0xE0 then 0xA0 else if lead = 0xF0 then 0x90 else 0x80
  let hi : UInt8 := if lead = 0xED then 0x9F else if lead = 0xF4 then 0x8F else 0xBF
  lo ≤ b && b ≤ hi

/-- Whether the byte may stand in third or fourth place. -/
def isTail (b : UInt8) : Bool := 0x80 ≤ b && b ≤ 0xBF

/-- How many bytes follow the leading byte; `none` for a byte that begins no character. -/
def tailLength? (lead : UInt8) : Option Nat :=
  if lead < 0x80 then some 0
  else if 0xC2 ≤ lead && lead ≤ 0xDF then some 1
  else if 0xE0 ≤ lead && lead ≤ 0xEF then some 2
  else if 0xF0 ≤ lead && lead ≤ 0xF4 then some 3
  else none

/-- The lower six bits. -/
def tailBits (b : UInt8) : Nat := b.toNat % 64

/-- The first character of the bytes, `none` in place of it if there is a fault, and how many bytes
behind the first one it takes. -/
def decodeFirst (lead : UInt8) (rest : List UInt8) : Option Char × Nat :=
  match tailLength? lead, rest with
  | none, _ => (none, 0)
  | some 0, _ => (some (Char.ofNat lead.toNat), 0)
  | some 1, b :: _ =>
    if isSecond lead b then (some (Char.ofNat (lead.toNat % 32 * 64 + tailBits b)), 1) else (none, 0)
  | some 2, b :: c :: _ =>
    if !isSecond lead b then (none, 0)
    else if !isTail c then (none, 1)
    else (some (Char.ofNat ((lead.toNat % 16 * 64 + tailBits b) * 64 + tailBits c)), 2)
  | some _, b :: c :: d :: _ =>
    if !isSecond lead b then (none, 0)
    else if !isTail c then (none, 1)
    else if !isTail d then (none, 2)
    else
      (some (Char.ofNat (((lead.toNat % 8 * 64 + tailBits b) * 64 + tailBits c) * 64 + tailBits d)), 3)
  | some _, [] => (none, 0)
  | some _, [b] => (none, if isSecond lead b then 1 else 0)
  | some _, [b, c] => (none, if !isSecond lead b then 0 else if isTail c then 2 else 1)

/-- The characters of bytes, `none` for a fault; `fuel` is at least the number of bytes. -/
def decodeAll : Nat → List UInt8 → List (Option Char)
  | 0, _ => []
  | _, [] => []
  | fuel + 1, lead :: rest =>
    let (c, taken) := decodeFirst lead rest
    c :: decodeAll fuel (rest.drop taken)

/-- The characters of any bytes, U+FFFD for a fault. -/
def decodeLossy (bytes : List UInt8) : List Char :=
  (decodeAll bytes.length bytes).map (·.getD replacement)

/-- The characters of bytes that have no fault. -/
def decode? (bytes : List UInt8) : Option (List Char) := (decodeAll bytes.length bytes).mapM id

end RequestRunner.Text
