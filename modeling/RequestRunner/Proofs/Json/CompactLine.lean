import RequestRunner.Proofs.Json.Tokens

/-!
# A compact text is one line

No control character stands in the compact text of a value, whatever its strings contain: such
characters are escaped in strings, and nothing else has any. So the text holds no end of a line.

## Main definitions

* `Json.Inline` — characters none of which is a control character.

## Main results

* `Json.inline_compactChars` — the compact text of a value.
-/

namespace RequestRunner

/-- None of the characters is a control character. -/
def Json.Inline (cs : List Char) : Prop := ∀ c ∈ cs, 32 ≤ c.toNat

namespace Json

variable {cs cs' : List Char} {c : Char}

/-- No characters have no control character among them. -/
@[simp] lemma inline_nil : Inline [] := fun _ h => absurd h List.not_mem_nil

/-- Characters have no control character if neither the first one is one nor the others have one. -/
@[simp] lemma inline_cons : Inline (c :: cs) ↔ 32 ≤ c.toNat ∧ Inline cs := List.forall_mem_cons

/-- Characters behind others have none together if neither have one. -/
@[simp] lemma inline_append : Inline (cs ++ cs') ↔ Inline cs ∧ Inline cs' :=
  List.forall_mem_append

/-- Digits are no control characters. -/
lemma inline_of_isDigit (h : ∀ c ∈ cs, c.isDigit) : Inline cs := by
  intro c hc
  have hrange : 48 ≤ c.toNat ∧ c.toNat ≤ 57 := by
    simpa [Char.isDigit, UInt32.le_iff_toNat_le] using h c hc
  exact Nat.le_trans (by decide) hrange.1

/-- A number in decimal digits has no control character. -/
lemma inline_toDigits (n : Nat) : Inline (Nat.toDigits 10 n) :=
  inline_of_isDigit fun _ => isDigit_of_mem_toDigits

/-- Zeros are no control characters. -/
lemma inline_replicate (n : Nat) : Inline (List.replicate n '0') := by
  intro c hc
  rw [List.eq_of_mem_replicate hc]
  decide

/-- There is no end of a line. -/
lemma Inline.not_mem (h : Inline cs) : '\n' ∉ cs ∧ '\r' ∉ cs :=
  ⟨fun hmem => absurd (h _ hmem) (by decide), fun hmem => absurd (h _ hmem) (by decide)⟩

end Json

/-! ### Fractions -/

open Json

namespace Decimal

variable {d : Decimal}

/-- The digits of a decimal number are digits. -/
lemma isDigit_ofNat {n : Nat} {place : Int} : ∀ c ∈ (ofNat n place).digits, c.isDigit := by
  intro c hc
  have hwritten : c ∈ (Nat.toDigits 10 n).reverse :=
    (List.dropWhile_sublist _).mem (List.mem_reverse.1 hc)
  exact isDigit_of_mem_toDigits (List.mem_reverse.1 hwritten)

/-- A decimal number is written with its digits, zeros and a point.

**Proof sketch.** The digits are cut at the point, and zeros stand for those that are missing on
either side. -/
lemma inline_positional (h : ∀ c ∈ d.digits, c.isDigit) : Inline d.positional.toList := by
  have htake : Inline (d.digits.take d.point.toNat) :=
    inline_of_isDigit fun c hc => h c (List.mem_of_mem_take hc)
  have hdrop : Inline (d.digits.drop d.point.toNat) :=
    inline_of_isDigit fun c hc => h c (List.mem_of_mem_drop hc)
  rw [positional, String.toList_ofList, inline_append, inline_cons]
  refine ⟨?_, by decide, ?_⟩
  · split
    · simp
    · exact inline_append.2 ⟨htake, inline_replicate _⟩
  · split
    · simp
    · exact inline_append.2 ⟨inline_replicate _, hdrop⟩

/-- A decimal number with an exponent is written with its digits, a point, a letter, a sign and
digits. -/
lemma inline_scientific (h : ∀ c ∈ d.digits, c.isDigit) : Inline d.scientific.toList := by
  have htake : Inline (d.digits.take 1) :=
    inline_of_isDigit fun c hc => h c (List.mem_of_mem_take hc)
  have hdrop : Inline (d.digits.drop 1) :=
    inline_of_isDigit fun c hc => h c (List.mem_of_mem_drop hc)
  rw [scientific, String.toList_ofList]
  refine inline_append.2 ⟨inline_append.2 ⟨inline_append.2 ⟨htake, ?_⟩, ?_⟩, inline_toDigits _⟩
  · split
    · simp
    · exact inline_cons.2 ⟨by decide, hdrop⟩
  · split <;> simp

end Decimal

namespace Binary64

/-- The shortest decimal number has digits, at whatever place the search for it ends. By induction
on the tries. -/
lemma isDigit_firstGrid (closed : Bool) (low num high den : Nat) (place : Int) (tries : Nat) :
    ∀ c ∈ (firstGrid closed low num high den place tries).digits, c.isDigit := by
  induction tries generalizing place with
  | zero => exact Decimal.isDigit_ofNat
  | succ tries ih =>
    rw [firstGrid]
    split
    · exact Decimal.isDigit_ofNat
    · exact ih _

/-- A number is written in digits, signs, a point and a letter.

**Proof sketch.** By the three forms: zero, the decimal one, and the one with an exponent. The
digits of the latter two are those of the shortest decimal number. -/
lemma inline_toJson (x : Binary64) : Inline x.toJson.toList := by
  have hsign : Inline (if x.isNegative then "-" else "").toList := by
    split <;> simp
  have hdigits : ∀ c ∈ x.shortest.digits, c.isDigit := isDigit_firstGrid _ _ _ _ _ _ _
  simp only [toJson]
  by_cases hzero : x.isZero
  · rw [if_pos hzero, String.toList_append, inline_append]
    exact ⟨hsign, by simp⟩
  · rw [if_neg hzero, String.toList_append, inline_append]
    refine ⟨hsign, ?_⟩
    split
    · exact Decimal.inline_positional hdigits
    · exact Decimal.inline_scientific hdigits

end Binary64

namespace Json

/-! ### Strings and whole numbers -/

/-- No control character stands for another one behind a reverse solidus. -/
lemma le_toNat_of_shortEscape? {e : Char} (h : shortEscape? e = some c) : 32 ≤ e.toNat := by
  by_contra hlt
  have hne : ∀ d : Char, 32 ≤ d.toNat → e ≠ d := fun d hd hed => hlt (hed ▸ hd)
  simp [shortEscape?, hne] at h

/-- No control character is a hexadecimal digit. -/
lemma le_toNat_of_hexValue {n : Nat} (h : Text.hexValue c = some n) : 32 ≤ c.toNat := by
  by_contra hlt
  have hnot : ∀ d : Char, 32 ≤ d.toNat → ¬ d ≤ c := fun d hd hdc =>
    hlt (Nat.le_trans hd (UInt32.le_iff_toNat_le.1 hdc))
  simp [Text.hexValue, hnot] at h

/-- Hexadecimal digits are no control characters. -/
lemma UnitText.inline {n : Nat} (h : UnitText n cs) : Inline cs := by
  cases h with
  | digits h₁ h₂ h₃ h₄ =>
    simp [le_toNat_of_hexValue h₁, le_toNat_of_hexValue h₂, le_toNat_of_hexValue h₃,
      le_toNat_of_hexValue h₄]

/-- An escape has no control character, even where it stands for one. -/
lemma EscapeText.inline (h : EscapeText c cs) : Inline cs := by
  cases h with
  | letter he => exact inline_cons.2 ⟨le_toNat_of_shortEscape? he, inline_nil⟩
  | unit h => exact inline_cons.2 ⟨by decide, h.inline⟩
  | pair h h' => simp [h.inline, h'.inline]

/-- A character is printed without control characters: as itself if it is none, and as an escape
otherwise. -/
lemma inline_escape (c : Char) : Inline (escape c) := by
  rcases escape_cases c with ⟨he, -, -, hcontrol⟩ | ⟨form, he, hform⟩
  · rw [he]
    exact inline_cons.2 ⟨hcontrol, inline_nil⟩
  · rw [he]
    exact inline_cons.2 ⟨by decide, hform.inline⟩

/-- A string in quotes has no control character, whatever it contains. -/
lemma inline_quoteChars (s : String) : Inline (quoteChars s) := by
  have hinside : Inline (s.toList.flatMap escape) := by
    intro c hc
    obtain ⟨d, -, hd⟩ := List.mem_flatMap.1 hc
    exact inline_escape d c hd
  simp [quoteChars, hinside]

/-- A whole number is written in digits, behind a sign if it is negative. -/
lemma inline_integerChars (n : Int) : Inline (integerChars n) := by
  unfold integerChars
  split
  · exact inline_cons.2 ⟨by decide, inline_toDigits _⟩
  · exact inline_toDigits _

/-! ### Values -/

mutual

/-- **The compact text of a value has no control character.** By recursion on the value, together
with its items and members; between them stand commas, colons and brackets only. -/
theorem inline_compactChars : ∀ v : Json, Inline v.compactChars
  | .null => by simp [compactChars]
  | .bool true => by simp [compactChars]
  | .bool false => by simp [compactChars]
  | .integer n => inline_integerChars n
  | .float x => x.inline_toJson
  | .string s => inline_quoteChars s
  | .array [] => by simp [compactChars]
  | .array (v :: vs) => by
    simp [compactChars, inline_compactChars v, inline_compactItems vs]
  | .object [] => by simp [compactChars]
  | .object ((name, v) :: ms) => by
    simp [compactChars, inline_quoteChars, inline_compactChars v, inline_compactMembers ms]

/-- The further items of an array are printed without control characters. -/
lemma inline_compactItems : ∀ vs : List Json, Inline (compactItems vs)
  | [] => by simp [compactItems]
  | v :: vs => by simp [compactItems, inline_compactChars v, inline_compactItems vs]

/-- The further members of an object are printed without control characters. -/
lemma inline_compactMembers : ∀ ms : List (String × Json), Inline (compactMembers ms)
  | [] => by simp [compactMembers]
  | (name, v) :: ms => by
    simp [compactMembers, inline_quoteChars, inline_compactChars v, inline_compactMembers ms]

end

end Json

end RequestRunner
