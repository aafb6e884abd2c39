import RequestRunner.Proofs.Json.Grammar
import RequestRunner.Proofs.Text.Digits
import RequestRunner.Proofs.Text.Utf8

/-!
# Reading the tokens of a value

What a text of a string or of a whole number is read as, whatever follows it. A string ends with its
quote. A number has no end of its own, so what follows it must be something that can stand behind a
value.

## Main definitions

* `Json.Delimited` — what can stand behind a value.

## Main results

* `Json.skipGap_append` — gaps are skipped.
* `Json.readQuoted_of_stringText` — a string is read from each of its texts.
* `Json.readNumber_toDigits` — a number is read up to its last digit.
-/

namespace RequestRunner.Json

/-- Nothing, a gap, a comma or a closing bracket stands at the front. -/
def Delimited (rest : List Char) : Prop :=
  ∀ c, rest.head? = some c → isGap c ∨ c = ',' ∨ c = ']' ∨ c = '}'

variable {gap cs rest : List Char} {c : Char} {n : Nat}

/-! ### Gaps -/

/-- A gap in front is skipped with all that is skipped behind it. -/
lemma skipGap_append (hgap : Gap gap) (cs : List Char) : skipGap (gap ++ cs) = skipGap cs :=
  List.dropWhile_append_of_pos hgap

/-- Nothing is skipped before a token. -/
lemma skipGap_cons (h : isGap c = false) (cs : List Char) : skipGap (c :: cs) = c :: cs := by
  have hnot : ¬ isGap c = true := by rw [h]; decide
  exact List.dropWhile_cons_of_neg hnot

/-- The next token is what follows the gap. -/
lemma skipGap_append_cons (hgap : Gap gap) (h : isGap c = false) (cs : List Char) :
    skipGap (gap ++ c :: cs) = c :: cs := by
  rw [skipGap_append hgap, skipGap_cons h]

/-- A character is no gap if it is none of the four. -/
lemma isGap_eq_false (hspace : c ≠ ' ') (hfeed : c ≠ '\n') (htab : c ≠ '\t')
    (hreturn : c ≠ '\r') : isGap c = false := by
  simp [isGap, hspace, hfeed, htab, hreturn]

/-! ### Strings -/

/-- A unit is read from its four digits. -/
lemma readHexUnit_append (h : UnitText n cs) (rest : List Char) :
    readHexUnit (cs ++ rest) = .ok (n, rest) := by
  cases h with
  | digits h₁ h₂ h₃ h₄ => simp [readHexUnit, h₁, h₂, h₃, h₄]

/-- **A character is read from each of its escapes.**

**Proof sketch.** One case for each form. A letter is none of those that begin a number; a character
is no surrogate, so its own number is not taken for half of a pair; and two surrogates give the
character that they are the numbers of. -/
lemma readEscape_append {form : List Char} (h : EscapeText c form) (rest : List Char) :
    readEscape (form ++ rest) = .ok (c, rest) := by
  cases h with
  | @letter e he =>
    have hu : e ≠ 'u' := by
      rintro rfl
      exact absurd he (by simp [shortEscape?])
    simp [readEscape, he]
  | @unit cs hcs =>
    have hvalid := Text.toNat_valid c
    have hlow : ¬ (0xDC00 ≤ c.toNat ∧ c.toNat ≤ 0xDFFF) := by omega
    have hhigh : ¬ (0xD800 ≤ c.toNat ∧ c.toNat ≤ 0xDBFF) := by omega
    have hunit := readHexUnit_append hcs rest
    simp only [List.cons_append, readEscape, hunit, bind, Except.bind]
    rw [if_neg hlow, if_neg hhigh, Char.ofNat_toNat]
  | @pair high low cs cs' hcs hcs' hhigh hlow hc =>
    have hfirst : ¬ (0xDC00 ≤ high ∧ high ≤ 0xDFFF) := by omega
    have hunit := readHexUnit_append hcs ('\\' :: 'u' :: (cs' ++ rest))
    have hunit' := readHexUnit_append hcs' rest
    simp only [List.cons_append, List.append_assoc, readEscape, hunit, bind, Except.bind]
    rw [if_neg hfirst, if_pos hhigh]
    simp only [readLowUnit, hunit', bind, Except.bind]
    rw [if_pos hlow, hc, Char.ofNat_toNat]

/-- A text of a string is at least as long as the string. -/
lemma StringText.length_le {s : List Char} (h : StringText s cs) : s.length ≤ cs.length := by
  induction h with
  | nil => exact Nat.le_refl 0
  | plain _ _ _ _ ih =>
    simp only [List.length_cons]
    omega
  | escape _ _ ih =>
    simp only [List.length_cons, List.length_append]
    omega

/-- The characters of a string are read up to its quote, by induction on the text, with fuel for as
many as there are.

**Proof sketch.** One case for each form of the next character. What is plain is neither a quote,
nor a reverse solidus, nor a control character, so it is read as itself; an escape is read as what
it stands for (`readEscape_append`). -/
lemma readStringChars_append {s : List Char} (h : StringText s cs) {fuel : Nat}
    (hfuel : s.length < fuel) (rest : List Char) :
    readStringChars fuel (cs ++ '"' :: rest) = .ok (s, rest) := by
  induction h generalizing fuel with
  | nil =>
    obtain ⟨fuel, rfl⟩ := Nat.exists_eq_add_one_of_ne_zero (Nat.ne_zero_of_lt hfuel)
    simp [readStringChars]
  | @plain c s cs hquote hsolidus hcontrol _ ih =>
    obtain ⟨fuel, rfl⟩ := Nat.exists_eq_add_one_of_ne_zero (Nat.ne_zero_of_lt hfuel)
    have hrest := ih (Nat.lt_of_succ_lt_succ hfuel)
    have hnot : ¬ c.toNat < 32 := Nat.not_lt.2 hcontrol
    simp only [List.cons_append, readStringChars]
    rw [if_neg hquote, if_neg hsolidus, if_neg hnot, hrest]
    rfl
  | @escape c s form cs hform _ ih =>
    obtain ⟨fuel, rfl⟩ := Nat.exists_eq_add_one_of_ne_zero (Nat.ne_zero_of_lt hfuel)
    have hrest := ih (Nat.lt_of_succ_lt_succ hfuel)
    have hescape := readEscape_append hform (cs ++ '"' :: rest)
    simp only [List.cons_append, List.append_assoc, readStringChars]
    rw [if_neg (by decide), if_pos trivial, hescape]
    simp only [bind, Except.bind, hrest]

/-- **A string is read from each of its texts.** -/
theorem readQuoted_of_stringText {s : String} (h : StringText s.toList cs) (rest : List Char) :
    readQuoted (cs ++ '"' :: rest) = .ok (s, rest) := by
  have hlength := h.length_le
  have hfuel : s.toList.length < (cs ++ '"' :: rest).length + 1 := by
    rw [List.length_append, List.length_cons]
    omega
  have hchars := readStringChars_append h hfuel rest
  simp only [readQuoted, hchars, bind, Except.bind, String.ofList_toList]

/-! ### Numbers -/

/-- The digits of a number are the decimal ones. -/
lemma isDigit_iff : isDigit c ↔ c.isDigit := by
  rw [isDigit, Option.isSome_iff_exists]
  simp only [Text.digitValue_eq_some_iff]
  exact ⟨fun ⟨_, h, _⟩ => h, fun h => ⟨_, h, rfl⟩⟩

/-- A digit is different from what is no digit. -/
lemma ne_of_isDigit {d : Char} (h : c.isDigit) (hd : ¬ d.isDigit) : c ≠ d := fun he =>
  hd (he ▸ h)

/-- A digit is no gap. -/
lemma isGap_eq_false_of_isDigit (h : c.isDigit) : isGap c = false :=
  isGap_eq_false (ne_of_isDigit h (by decide)) (ne_of_isDigit h (by decide))
    (ne_of_isDigit h (by decide)) (ne_of_isDigit h (by decide))

/-- The characters that can stand behind a value. -/
lemma delimited_cons (h : Delimited (c :: rest)) :
    c = ' ' ∨ c = '\n' ∨ c = '\t' ∨ c = '\r' ∨ c = ',' ∨ c = ']' ∨ c = '}' := by
  have hc := h c rfl
  simp only [isGap, Bool.or_eq_true, beq_iff_eq] at hc
  tauto

/-- No digit stands behind a value. -/
lemma startsWithDigit_of_delimited (h : Delimited rest) : startsWithDigit rest = false := by
  cases rest with
  | nil => rfl
  | cons c rest => rcases delimited_cons h with rfl | rfl | rfl | rfl | rfl | rfl | rfl <;> rfl

/-- Digits only make a number greater. -/
lemma le_ofDigitChars (cs : List Char) (m : Nat) : m ≤ Nat.ofDigitChars 10 cs m := by
  induction cs generalizing m with
  | nil => exact Nat.le_refl m
  | cons c cs ih =>
    rw [Nat.ofDigitChars_cons]
    have hstep := ih (10 * m + (c.toNat - '0'.toNat))
    omega

/-- Digits that stay within the limit are all taken.

**Proof sketch.** By induction on the digits. A number only gets greater by more digits, so if all
of them are within the limit the first ones are. -/
lemma digitsWithin_append {limit m : Nat} (hdigits : ∀ c ∈ cs, c.isDigit)
    (hlimit : Nat.ofDigitChars 10 cs m ≤ limit) (hrest : startsWithDigit rest = false) :
    digitsWithin limit m (cs ++ rest) = (Nat.ofDigitChars 10 cs m, rest) := by
  induction cs generalizing m with
  | nil =>
    cases rest with
    | nil => rfl
    | cons c rest =>
      have hnone : Text.digitValue c = none := by
        simpa [startsWithDigit, isDigit] using hrest
      simp [digitsWithin, hnone, Nat.ofDigitChars]
  | cons c cs ih =>
    rw [List.forall_mem_cons] at hdigits
    rw [Nat.ofDigitChars_cons] at hlimit ⊢
    have hzero : '0'.toNat = 48 := rfl
    have hcomm : 10 * m = m * 10 := Nat.mul_comm 10 m
    rw [hzero, hcomm] at hlimit ⊢
    have hhere : m * 10 + (c.toNat - 48) ≤ limit := Nat.le_trans (le_ofDigitChars cs _) hlimit
    simp only [List.cons_append, digitsWithin,
      Text.digitValue_eq_some_iff.2 ⟨hdigits.1, rfl⟩]
    rw [if_pos hhere]
    exact ih hdigits.2 hlimit

/-- The digits of a number are digits. -/
lemma isDigit_of_mem_toDigits (h : c ∈ Nat.toDigits 10 n) : c.isDigit :=
  Nat.isDigit_of_mem_toDigits (by decide) (by decide) h

/-- A number other than zero has no leading zero.

**Proof sketch.** Strong induction: all digits but the last one are those of a tenth of it. -/
lemma toDigits_eq_cons (hn : 0 < n) : ∃ c cs, Nat.toDigits 10 n = c :: cs ∧ c ≠ '0' := by
  induction n using Nat.strongRecOn with
  | ind n ih =>
    by_cases hsmall : n < 10
    · refine ⟨n.digitChar, [], Nat.toDigits_of_lt_base hsmall, ?_⟩
      have hdigit : ∀ k < 10, 0 < k → k.digitChar ≠ '0' := by decide
      exact hdigit n hsmall hn
    · have hlarge : 10 ≤ n := Nat.not_lt.1 hsmall
      obtain ⟨c, cs, hcs, hc⟩ := ih (n / 10) (by omega) (by omega)
      refine ⟨c, cs ++ [(n % 10).digitChar], ?_, hc⟩
      rw [Nat.toDigits_of_base_le (by decide) hlarge, hcs, List.cons_append]

/-- **A number is read up to its last digit.**

**Proof sketch.** Zero is its only digit. Any other number has no leading zero (`toDigits_eq_cons`),
and all its digits are taken, as the number is within the limit. -/
theorem readNumber_toDigits (hn : n < 2 ^ 64) (hrest : startsWithDigit rest = false)
    (negative : Bool) :
    readNumber negative (Nat.toDigits 10 n ++ rest) = readNumberEnd negative n rest := by
  rcases Nat.eq_zero_or_pos n with rfl | hpos
  · have hzero : Nat.toDigits 10 0 = ['0'] := rfl
    rw [hzero, List.singleton_append, readNumber, hrest]
    rfl
  · obtain ⟨c, cs, hcs, hc⟩ := toDigits_eq_cons hpos
    have hdigits : ∀ d ∈ c :: cs, d.isDigit := fun d hd => isDigit_of_mem_toDigits (hcs ▸ hd)
    have hvalue : Nat.ofDigitChars 10 (c :: cs) 0 = n := by
      rw [← hcs, Nat.ofDigitChars_ten_toDigits]
    -- the number fits, so the digits that are counted are all of them
    have hlimit : Nat.ofDigitChars 10 (c :: cs) 0 ≤ greatestSignificand := by
      rw [hvalue, greatestSignificand, UInt64.size]
      omega
    have htaken := digitsWithin_append hdigits hlimit hrest
    have hfirst : isDigit c = true := isDigit_iff.2 (hdigits c List.mem_cons_self)
    rw [hvalue, List.cons_append] at htaken
    rw [hcs, List.cons_append]
    simp [readNumber, hfirst, htaken, hrest]

/-- Behind the whole part of a number there is nothing more of it. -/
lemma readNumberEnd_of_delimited (hrest : Delimited rest) (negative : Bool) :
    readNumberEnd negative n rest =
      if !negative then .ok (.integer n, rest)
      else if n = 0 ∨ Nat.pow 2 63 < n then .ok (.float (Binary64.ofNat n).neg, rest)
      else .ok (.integer (-n), rest) := by
  cases rest with
  | nil => rfl
  | cons c rest => rcases delimited_cons hrest with rfl | rfl | rfl | rfl | rfl | rfl | rfl <;> rfl

end RequestRunner.Json
