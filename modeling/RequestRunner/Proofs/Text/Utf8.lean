import Mathlib.Data.List.Basic
import RequestRunner.Text.Utf8

/-!
# Encoding and decoding

Characters are read back from their bytes, and bytes without a fault are those of the characters that
they are read as. So decoding and encoding are inverse to each other.

## Main results

* `Text.decodeFirst_encodeChar`, `Text.encodeChar_of_decodeFirst` — one character, written and read.
* `Text.decode?_encode`, `Text.encode_of_decode?` — texts.
-/

namespace RequestRunner.Text

variable {c : Char} {lead b d e : UInt8} {bytes rest : List UInt8} {cs : List Char} {n fuel taken : Nat}

/-! ### Bytes as numbers -/

/-- The bytes behind the first one of a character are those from `0x80` to `0xBF`, as numbers.
Stated in `Nat`, where `omega` decides what depends on it. -/
lemma isTail_iff : isTail b ↔ 0x80 ≤ b.toNat ∧ b.toNat ≤ 0xBF := by
  rw [isTail, Bool.and_eq_true, decide_eq_true_iff, decide_eq_true_iff, UInt8.le_iff_toNat_le,
    UInt8.le_iff_toNat_le]
  rfl

/-- The second byte of a character as a number. After four of the first bytes its range is narrower:
what is left out there would be overlong, half of a pair, or beyond the last character. -/
lemma isSecond_iff : isSecond lead b ↔
    (if lead.toNat = 0xE0 then 0xA0 else if lead.toNat = 0xF0 then 0x90 else 0x80) ≤ b.toNat ∧
      b.toNat ≤ if lead.toNat = 0xED then 0x9F else if lead.toNat = 0xF4 then 0x8F else 0xBF := by
  have hlead : ∀ k : UInt8, lead = k ↔ lead.toNat = k.toNat := fun k => UInt8.toNat_inj.symm
  simp only [isSecond, Bool.and_eq_true, decide_eq_true_iff, UInt8.le_iff_toNat_le, hlead,
    apply_ite UInt8.toNat]
  rfl

/-- How many bytes follow the first one, by its range as a number. The bytes `0xC0`, `0xC1` and
those from `0xF5` on start no character. -/
lemma tailLength?_eq : tailLength? lead =
    if lead.toNat < 0x80 then some 0
    else if 0xC2 ≤ lead.toNat ∧ lead.toNat ≤ 0xDF then some 1
    else if 0xE0 ≤ lead.toNat ∧ lead.toNat ≤ 0xEF then some 2
    else if 0xF0 ≤ lead.toNat ∧ lead.toNat ≤ 0xF4 then some 3
    else none := by
  simp only [tailLength?, Bool.and_eq_true, decide_eq_true_iff, UInt8.le_iff_toNat_le,
    UInt8.lt_iff_toNat_lt]
  rfl

/-- A number below 256 is the number of its byte. -/
lemma toNat_ofNat_of_lt (h : n < 256) : (UInt8.ofNat n).toNat = n :=
  UInt8.toNat_ofNat_of_lt' h

/-- The number of a character is below the last one, and no half of a pair. -/
lemma toNat_valid (c : Char) : c.toNat < 0xD800 ∨ (0xDFFF < c.toNat ∧ c.toNat < 0x110000) := c.valid

/-- A number within these bounds is the number of its character. -/
lemma toNat_ofNat (h : n < 0xD800 ∨ (0xDFFF < n ∧ n < 0x110000)) : (Char.ofNat n).toNat = n := by
  have hvalid : n.isValidChar := h
  rw [Char.ofNat, dif_pos hvalid]
  rfl

/-! ### One character -/

/-- The powers of two by which the bits of a character are cut into bytes. -/
lemma pow_zero_six_twelve : Nat.pow 2 0 = 1 ∧ Nat.pow 2 6 = 64 ∧ Nat.pow 2 12 = 4096 := ⟨rfl, rfl, rfl⟩

/-- A first byte of ASCII is a character by itself. -/
lemma decodeFirst_one (h : lead.toNat < 0x80) :
    decodeFirst lead rest = (some (Char.ofNat lead.toNat), 0) := by
  have hlen : tailLength? lead = some 0 := by rw [tailLength?_eq, if_pos h]
  simp [decodeFirst, hlen]

/-- A character of two bytes is put together of five and six bits. -/
lemma decodeFirst_two (h : 0xC2 ≤ lead.toNat ∧ lead.toNat ≤ 0xDF) (hb : isSecond lead b) :
    decodeFirst lead (b :: rest) =
      (some (Char.ofNat (lead.toNat % 32 * 64 + b.toNat % 64)), 1) := by
  have hlen : tailLength? lead = some 1 := by rw [tailLength?_eq, if_neg (by omega), if_pos h]
  simp [decodeFirst, hlen, hb, tailBits]

/-- A character of three bytes is put together of four, six and six bits. -/
lemma decodeFirst_three (h : 0xE0 ≤ lead.toNat ∧ lead.toNat ≤ 0xEF) (hb : isSecond lead b)
    (hd : isTail d) :
    decodeFirst lead (b :: d :: rest) =
      (some (Char.ofNat ((lead.toNat % 16 * 64 + b.toNat % 64) * 64 + d.toNat % 64)), 2) := by
  have hlen : tailLength? lead = some 2 := by
    rw [tailLength?_eq, if_neg (by omega), if_neg (by omega), if_pos h]
  simp [decodeFirst, hlen, hb, hd, tailBits]

/-- A character of four bytes is put together of three and three times six bits. -/
lemma decodeFirst_four (h : 0xF0 ≤ lead.toNat ∧ lead.toNat ≤ 0xF4) (hb : isSecond lead b)
    (hd : isTail d) (he : isTail e) :
    decodeFirst lead (b :: d :: e :: rest) =
      (some (Char.ofNat
        (((lead.toNat % 8 * 64 + b.toNat % 64) * 64 + d.toNat % 64) * 64 + e.toNat % 64)), 3) := by
  have hlen : tailLength? lead = some 3 := by
    rw [tailLength?_eq, if_neg (by omega), if_neg (by omega), if_neg (by omega), if_pos h]
  simp [decodeFirst, hlen, hb, hd, he, tailBits]

/-- **A character is read back from its bytes**, whatever follows them.

**Proof sketch.** By the number of bytes. Each byte is a number below 256 that holds some of the
bits of the character. The first one tells the number of bytes by its range, the second one is in
the narrower range that a first byte may ask for since the character is no smaller than its number
of bytes needs, and the bits put together are the character again. -/
theorem decodeFirst_encodeChar (c : Char) : ∃ lead tail, encodeChar c = lead :: tail ∧
    ∀ rest, decodeFirst lead (tail ++ rest) = (some c, tail.length) := by
  have hvalid := toNat_valid c
  have hc := Char.ofNat_toNat c
  simp only [encodeChar, pow_zero_six_twelve, Nat.div_one]
  -- From here on only the number counts, so that `omega` sees one variable.
  generalize c.toNat = n at hvalid hc
  have hbyte : ∀ k < 256, ∃ byte : UInt8, UInt8.ofNat k = byte ∧ byte.toNat = k :=
    fun k hk => ⟨_, rfl, toNat_ofNat_of_lt hk⟩
  have htail : ∀ k, ∃ byte : UInt8, UInt8.ofNat (0x80 + k % 64) = byte ∧ byte.toNat = 0x80 + k % 64 :=
    fun k => hbyte _ (by omega)
  split
  · obtain ⟨lead, hl, hlead⟩ := hbyte n (by omega)
    refine ⟨lead, [], by rw [hl], fun rest => ?_⟩
    rw [List.nil_append, decodeFirst_one (by omega), hlead, hc, List.length_nil]
  split
  · obtain ⟨lead, hl, hlead⟩ := hbyte (0xC0 + n / 64) (by omega)
    obtain ⟨b, hb, hb'⟩ := htail n
    have hsecond : isSecond lead b := by
      rw [isSecond_iff, hlead, hb']
      grind
    have hback : lead.toNat % 32 * 64 + b.toNat % 64 = n := by omega
    refine ⟨lead, [b], by rw [hl, hb], fun rest => ?_⟩
    rw [List.singleton_append, decodeFirst_two (by omega) hsecond, hback, hc, List.length_singleton]
  split
  · obtain ⟨lead, hl, hlead⟩ := hbyte (0xE0 + n / 4096) (by omega)
    obtain ⟨b, hb, hb'⟩ := htail (n / 64)
    obtain ⟨d, hd, hd'⟩ := htail n
    have hsecond : isSecond lead b := by
      rw [isSecond_iff, hlead, hb']
      grind
    have hback : (lead.toNat % 16 * 64 + b.toNat % 64) * 64 + d.toNat % 64 = n := by omega
    refine ⟨lead, [b, d], by rw [hl, hb, hd], fun rest => ?_⟩
    rw [List.cons_append, List.singleton_append,
      decodeFirst_three (by omega) hsecond (isTail_iff.2 (by omega)), hback, hc]
    rfl
  · obtain ⟨lead, hl, hlead⟩ := hbyte (0xF0 + n / 262144) (by omega)
    obtain ⟨b, hb, hb'⟩ := htail (n / 4096)
    obtain ⟨d, hd, hd'⟩ := htail (n / 64)
    obtain ⟨e, he, he'⟩ := htail n
    have hsecond : isSecond lead b := by
      rw [isSecond_iff, hlead, hb']
      grind
    have hback : ((lead.toNat % 8 * 64 + b.toNat % 64) * 64 + d.toNat % 64) * 64 + e.toNat % 64 = n := by
      omega
    refine ⟨lead, [b, d, e], by rw [hl, hb, hd, he], fun rest => ?_⟩
    rw [List.cons_append, List.cons_append, List.singleton_append,
      decodeFirst_four (by omega) hsecond (isTail_iff.2 (by omega)) (isTail_iff.2 (by omega)), hback, hc]
    rfl

/-! ### The bytes of a character that is read

The range of the first byte tells how many there are, and the second one keeps out what is overlong or
no character. -/

/-- The bounds of a second byte apart from each other: those that hold behind every first byte, and
those that hold behind one of the four. -/
lemma bounds_of_isSecond (h : isSecond lead b) :
    0x80 ≤ b.toNat ∧ b.toNat ≤ 0xBF ∧ (lead.toNat = 0xE0 → 0xA0 ≤ b.toNat) ∧
      (lead.toNat = 0xED → b.toNat ≤ 0x9F) ∧ (lead.toNat = 0xF0 → 0x90 ≤ b.toNat) ∧
      (lead.toNat = 0xF4 → b.toNat ≤ 0x8F) := by
  rw [isSecond_iff] at h
  grind

/-- A byte is the byte of its number. With the number as a variable, so that the equation is left to
arithmetic. -/
lemma ofNat_eq_of_toNat (h : n = b.toNat) : UInt8.ofNat n = b := by
  rw [h, UInt8.ofNat_toNat]

/-- The bytes of a character that was read from one byte. -/
lemma encodeChar_one (h : lead.toNat < 0x80) : encodeChar (Char.ofNat lead.toNat) = [lead] := by
  have hn := @toNat_ofNat lead.toNat (by omega)
  simp only [encodeChar, hn]
  rw [if_pos h, ofNat_eq_of_toNat rfl]

/-- The bytes of a character that was read from two bytes. -/
lemma encodeChar_two (h : 0xC2 ≤ lead.toNat ∧ lead.toNat ≤ 0xDF) (hb : isSecond lead b) :
    encodeChar (Char.ofNat (lead.toNat % 32 * 64 + b.toNat % 64)) = [lead, b] := by
  have hb' := bounds_of_isSecond hb
  have hn := @toNat_ofNat (lead.toNat % 32 * 64 + b.toNat % 64) (by omega)
  simp only [encodeChar, pow_zero_six_twelve, Nat.div_one, hn]
  rw [if_neg (by omega), if_pos (by omega), @ofNat_eq_of_toNat lead _ (by omega),
    @ofNat_eq_of_toNat b _ (by omega)]

/-- The bytes of a character that was read from three bytes. The second one has kept out what is
overlong and what is half of a pair. -/
lemma encodeChar_three (h : 0xE0 ≤ lead.toNat ∧ lead.toNat ≤ 0xEF) (hb : isSecond lead b)
    (hd : isTail d) :
    encodeChar (Char.ofNat ((lead.toNat % 16 * 64 + b.toNat % 64) * 64 + d.toNat % 64)) =
      [lead, b, d] := by
  have hb' := bounds_of_isSecond hb
  have hd' := isTail_iff.1 hd
  have hn := @toNat_ofNat ((lead.toNat % 16 * 64 + b.toNat % 64) * 64 + d.toNat % 64) (by omega)
  simp only [encodeChar, pow_zero_six_twelve, Nat.div_one, hn]
  rw [if_neg (by omega), if_neg (by omega), if_pos (by omega), @ofNat_eq_of_toNat lead _ (by omega),
    @ofNat_eq_of_toNat b _ (by omega), @ofNat_eq_of_toNat d _ (by omega)]

/-- The bytes of a character that was read from four bytes. The second one has kept out what is
overlong and what is beyond the last character. -/
lemma encodeChar_four (h : 0xF0 ≤ lead.toNat ∧ lead.toNat ≤ 0xF4) (hb : isSecond lead b)
    (hd : isTail d) (he : isTail e) :
    encodeChar (Char.ofNat
      (((lead.toNat % 8 * 64 + b.toNat % 64) * 64 + d.toNat % 64) * 64 + e.toNat % 64)) =
        [lead, b, d, e] := by
  have hb' := bounds_of_isSecond hb
  have hd' := isTail_iff.1 hd
  have he' := isTail_iff.1 he
  have hn := @toNat_ofNat (((lead.toNat % 8 * 64 + b.toNat % 64) * 64 + d.toNat % 64) * 64 +
    e.toNat % 64) (by omega)
  simp only [encodeChar, pow_zero_six_twelve, Nat.div_one, hn]
  rw [if_neg (by omega), if_neg (by omega), if_neg (by omega), @ofNat_eq_of_toNat lead _ (by omega),
    @ofNat_eq_of_toNat b _ (by omega), @ofNat_eq_of_toNat d _ (by omega),
    @ofNat_eq_of_toNat e _ (by omega)]

/-- **A character that is read has the bytes that it is read from.**

**Proof sketch.** By the number of bytes that the first one asks for. Where all of them are in their
ranges, the character has just these bytes; where one is not, no character is read. -/
theorem encodeChar_of_decodeFirst (h : decodeFirst lead rest = (some c, taken)) :
    encodeChar c ++ rest.drop taken = lead :: rest := by
  unfold decodeFirst at h
  split at h <;> rename_i hlen <;> rw [tailLength?_eq] at hlen
  · cases h
  · simp only [Prod.mk.injEq, Option.some.injEq] at h
    obtain ⟨rfl, rfl⟩ := h
    rw [encodeChar_one (by grind)]
    rfl
  · split at h
    · rename_i hb
      simp only [Prod.mk.injEq, Option.some.injEq, tailBits] at h
      obtain ⟨rfl, rfl⟩ := h
      rw [encodeChar_two (by grind) hb]
      rfl
    · cases h
  -- Three bytes: each of the two behind the first one is looked at in turn.
  · split at h
    · cases h
    split at h
    · cases h
    rename_i hb hd
    rw [Bool.not_eq_true', Bool.not_eq_false] at hb hd
    simp only [Prod.mk.injEq, Option.some.injEq, tailBits] at h
    obtain ⟨rfl, rfl⟩ := h
    rw [encodeChar_three (by grind) hb hd]
    rfl
  · split at h
    · cases h
    split at h
    · cases h
    split at h
    · cases h
    rename_i hb hd he
    rw [Bool.not_eq_true', Bool.not_eq_false] at hb hd he
    simp only [Prod.mk.injEq, Option.some.injEq, tailBits] at h
    obtain ⟨rfl, rfl⟩ := h
    rw [encodeChar_four (by grind) hb hd he]
    rfl
  all_goals exact absurd (congrArg Prod.fst h) (Option.some_ne_none c).symm

/-! ### Bytes of ASCII -/

/-- A character of ASCII is one byte. -/
lemma encodeChar_of_lt (h : c.toNat < 128) : encodeChar c = [UInt8.ofNat c.toNat] := if_pos h

/-- The bytes of a character that is none of ASCII are none of ASCII. So no such character can pass
for a mark, a blank or a control character when bytes are looked at.

**Proof sketch.** By the number of bytes. The first one is marked by its upper bits, and the others
begin at 0x80. -/
lemma le_of_mem_encodeChar (h : 128 ≤ c.toNat) : ∀ byte ∈ encodeChar c, 128 ≤ byte.toNat := by
  have hvalid := toNat_valid c
  have htail : ∀ k, 128 ≤ (UInt8.ofNat (0x80 + k % 64)).toNat := by
    intro k
    rw [toNat_ofNat_of_lt (by omega)]
    omega
  have hlead : ∀ k, 128 ≤ k → k < 256 → 128 ≤ (UInt8.ofNat k).toNat := by
    intro k hk hlt
    rwa [toNat_ofNat_of_lt hlt]
  rw [encodeChar, if_neg (by omega)]
  split
  · simpa using ⟨hlead _ (by omega) (by omega), htail _⟩
  split
  · simpa using ⟨hlead _ (by omega) (by omega), htail _, htail _⟩
  · simpa using ⟨hlead _ (by omega) (by omega), htail _, htail _, htail _⟩

/-! ### Texts -/

/-- Reading the bytes of characters one after the other gives these characters, with as much fuel as
there are bytes.

**Proof sketch.** Induction on the characters. The first one is read back from its bytes whatever
follows (`decodeFirst_encodeChar`), and it takes at least one unit of the fuel. -/
lemma decodeAll_encode (h : (encode cs).length ≤ fuel) : decodeAll fuel (encode cs) = cs.map some := by
  induction cs generalizing fuel with
  | nil => cases fuel <;> rfl
  | cons c cs ih =>
    obtain ⟨lead, tail, hchar, hfirst⟩ := decodeFirst_encodeChar c
    have hcut : encode (c :: cs) = lead :: (tail ++ encode cs) := by
      rw [encode, List.flatMap_cons, hchar, List.cons_append, encode]
    rw [hcut, List.length_cons, List.length_append] at h
    obtain ⟨fuel, rfl⟩ := Nat.exists_eq_succ_of_ne_zero (Nat.ne_zero_of_lt h)
    rw [hcut, decodeAll, hfirst]
    simp only [List.drop_left]
    rw [ih (by omega), List.map_cons]

/-- Characters without a fault among them are all there. -/
lemma mapM_id_eq_some_iff {found : List (Option Char)} :
    found.mapM id = some cs ↔ found = cs.map some := by
  induction found generalizing cs with
  | nil => cases cs <;> simp
  | cons c found ih =>
    simp only [List.mapM_cons, id_eq, Option.bind_eq_bind, Option.bind_eq_some_iff, Option.pure_def,
      Option.some.injEq]
    constructor
    · rintro ⟨c, rfl, cs, hcs, rfl⟩
      rw [ih.1 hcs, List.map_cons]
    · intro h
      obtain ⟨c, cs, rfl, rfl, hfound⟩ := List.map_eq_cons_iff.1 h.symm
      exact ⟨c, rfl, cs, ih.2 hfound.symm, rfl⟩

/-- **Characters are read back from their bytes.** -/
theorem decode?_encode (cs : List Char) : decode? (encode cs) = some cs :=
  mapM_id_eq_some_iff.2 (decodeAll_encode (Nat.le_refl _))

/-- If no fault is found on the way through some bytes, they are those of the characters that were
read.

**Proof sketch.** Induction on the fuel, which the bytes do not exceed. The first character has the
bytes that it was read from (`encodeChar_of_decodeFirst`), and the others those that are left. -/
lemma encode_of_decodeAll (hfuel : bytes.length ≤ fuel)
    (h : decodeAll fuel bytes = cs.map some) : encode cs = bytes := by
  induction fuel generalizing bytes cs with
  | zero =>
    obtain rfl := List.length_eq_zero_iff.1 (Nat.le_zero.1 hfuel)
    obtain rfl := List.map_eq_nil_iff.1 h.symm
    rfl
  | succ fuel ih =>
    rcases bytes with _ | ⟨lead, rest⟩
    · obtain rfl := List.map_eq_nil_iff.1 h.symm
      rfl
    · rcases hfirst : decodeFirst lead rest with ⟨found, taken⟩
      rw [decodeAll, hfirst] at h
      obtain ⟨c, cs, rfl, rfl, hrest⟩ := List.map_eq_cons_iff.1 h.symm
      have hlength : (rest.drop taken).length ≤ fuel := by
        rw [List.length_drop]
        rw [List.length_cons] at hfuel
        omega
      rw [encode, List.flatMap_cons, ← encode, ih hlength hrest.symm]
      exact encodeChar_of_decodeFirst hfirst

/-- **Bytes without a fault are those of the characters that they are read as.** -/
theorem encode_of_decode? (h : decode? bytes = some cs) : encode cs = bytes :=
  encode_of_decodeAll (Nat.le_refl _) (mapM_id_eq_some_iff.1 h)

end RequestRunner.Text
