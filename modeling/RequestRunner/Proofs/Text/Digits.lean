import Mathlib.Data.List.Basic
import RequestRunner.Text.Ascii

/-!
# Numbers from decimal digits

Digits are read as the number that they write, if there is one digit at least and the number is
below the bound. No number has to be found again on the way: what is too large is refused at the
end.

## Main results

* `Text.readDigits?_eq_some_iff` — which characters are read, and as which number.
-/

namespace RequestRunner.Text

variable {c : Char} {cs : List Char} {bound d m n : Nat}

/-- Which characters have a value as digits, and which one: those from `0` to `9` their distance to
`0`. -/
lemma digitValue_eq_some_iff : digitValue c = some d ↔ c.isDigit ∧ c.toNat - 48 = d := by
  have hrange : c.isDigit = true ↔ '0' ≤ c ∧ c ≤ '9' := by simp [Char.isDigit, Char.le_def]
  rw [digitValue, hrange]
  by_cases h : '0' ≤ c ∧ c ≤ '9'
  · rw [if_pos h, Option.some.injEq, and_iff_right h]
  · simp [h]

/-- Any other character has none. -/
lemma digitValue_eq_none (h : ¬ c.isDigit) : digitValue c = none :=
  Option.eq_none_iff_forall_ne_some.2 fun _ hd => h (digitValue_eq_some_iff.1 hd).1

/-- A character without a value spoils all that follows it. -/
lemma foldl_digits_none (value : Char → Option Nat) (base : Nat) (cs : List Char) :
    cs.foldl (fun n c => do return (← n) * base + (← value c)) none = none := by
  induction cs with
  | nil => rfl
  | cons c cs ih => exact ih

/-- The digits behind those that write `m`.

**Proof sketch.** Induction on the characters. A digit adds its value to ten times the number so
far, as in the library's value of digits, and anything else spoils the rest (`foldl_digits_none`).
-/
lemma foldl_digits_eq_some_iff :
    cs.foldl (fun n c => do return (← n) * 10 + (← digitValue c)) (some m) = some n ↔
      (∀ c ∈ cs, c.isDigit) ∧ Nat.ofDigitChars 10 cs m = n := by
  induction cs generalizing m with
  | nil => simp [Nat.ofDigitChars]
  | cons c cs ih =>
    rw [List.foldl_cons, List.forall_mem_cons, Nat.ofDigitChars_cons]
    by_cases hc : c.isDigit
    · have hvalue : digitValue c = some (c.toNat - 48) := digitValue_eq_some_iff.2 ⟨hc, rfl⟩
      have hstep : (do return (← some m) * 10 + (← digitValue c) : Option Nat) =
          some (10 * m + (c.toNat - '0'.toNat)) := by
        rw [hvalue, Nat.mul_comm]
        rfl
      rw [hstep, ih, and_assoc, and_iff_right hc]
    · have hstep : (do return (← some m) * 10 + (← digitValue c) : Option Nat) = none := by
        rw [digitValue_eq_none hc]
        rfl
      rw [hstep, foldl_digits_none]
      simp [hc]

/-- **Digits are read as the number that they write**, if that is below the bound. There has to be
one, but any number of zeros may stand in front.

**Proof sketch.** The digits are read one after the other, each into the number of those before it
(`foldl_digits_eq_some_iff`). What is left are the checks that there is one and that the bound is
kept. -/
theorem readDigits?_eq_some_iff :
    readDigits? digitValue 10 bound cs = some n ↔
      cs ≠ [] ∧ (∀ c ∈ cs, c.isDigit) ∧ Nat.ofDigitChars 10 cs 0 = n ∧ n < bound := by
  rw [readDigits?]
  cases cs with
  | nil => simp
  | cons c cs =>
    rw [if_neg (by simp)]
    refine Option.bind_eq_some_iff.trans ?_
    simp only [Option.ite_none_right_eq_some, Option.some.injEq]
    constructor
    · rintro ⟨m, hm, hlt, rfl⟩
      obtain ⟨hdigits, hvalue⟩ := foldl_digits_eq_some_iff.1 hm
      exact ⟨List.cons_ne_nil c cs, hdigits, hvalue, hlt⟩
    · rintro ⟨-, hdigits, hvalue, hlt⟩
      exact ⟨n, foldl_digits_eq_some_iff.2 ⟨hdigits, hvalue⟩, hlt, rfl⟩

end RequestRunner.Text
