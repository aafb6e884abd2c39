import Mathlib.Data.List.DropRight
import RequestRunner.Text.Blank

/-!
# Trimming

A trimmed text has no blank at either end, and trimming leaves such a text as it is.

## Main definitions

* `Text.Trimmed` — no blank stands first or last.

## Main results

* `Text.trimmed_trim`, `Text.Trimmed.trim_eq` — trimming gives the trimmed texts and keeps them.
* `Text.trim_cons`, `Text.trimEnd_append` — blanks before a text, and a text in two parts.
* `Text.trim_append_of_blank`, `Text.trimEnd_append_of_blank` — blanks before and behind a text.
-/

namespace RequestRunner.Text

variable {c : Char} {cs ds : List Char}

/-- Neither the first nor the last character is blank. -/
def Trimmed (cs : List Char) : Prop :=
  (∀ c ∈ cs.head?, ¬ isBlank c) ∧ ∀ c ∈ cs.getLast?, ¬ isBlank c

/-! ### One end at a time -/

/-- Nothing is taken off the start of a text whose first character is not blank. -/
lemma trimStart_of_head? (h : ∀ c ∈ cs.head?, ¬ isBlank c) : trimStart cs = cs := by
  cases cs with
  | nil => rfl
  | cons c cs => exact List.dropWhile_cons_of_neg (h c rfl)

/-- Nothing is taken off the end of a text whose last character is not blank. -/
lemma trimEnd_of_getLast? (h : ∀ c ∈ cs.getLast?, ¬ isBlank c) : trimEnd cs = cs :=
  List.rdropWhile_eq_self_iff.2 fun hne => h _ (List.getLast?_eq_some_getLast hne)

/-- What is left after the end is trimmed is the front of the text. -/
lemma trimEnd_prefix_self (cs : List Char) : trimEnd cs <+: cs := List.rdropWhile_prefix _ cs

/-- What is left after the start is trimmed is the back of the text. -/
lemma trimStart_suffix_self (cs : List Char) : trimStart cs <:+ cs := List.dropWhile_suffix _

/-- No blank is left at the start. -/
lemma not_isBlank_head?_trimStart (h : c ∈ (trimStart cs).head?) : ¬ isBlank c := by
  have hnot := List.head?_dropWhile_not isBlank cs
  rw [show (cs.dropWhile isBlank).head? = some c from h] at hnot
  simpa using hnot

/-- No blank is left at the end. -/
lemma not_isBlank_getLast?_trimEnd (h : c ∈ (trimEnd cs).getLast?) : ¬ isBlank c := by
  obtain ⟨hne, rfl⟩ := List.mem_getLast?_eq_getLast h
  exact List.rdropWhile_last_not isBlank cs hne

/-- A text that goes on has the same first character. -/
lemma mem_head?_mono (h : cs <+: ds) (hc : c ∈ cs.head?) : c ∈ ds.head? := by
  obtain ⟨more, rfl⟩ := h
  cases cs with
  | nil => simp at hc
  | cons d cs => exact hc

/-- A text with more in front of it has the same last character. -/
lemma mem_getLast?_mono (h : cs <:+ ds) (hc : c ∈ cs.getLast?) : c ∈ ds.getLast? := by
  obtain ⟨front, rfl⟩ := h
  rw [List.getLast?_append, Option.mem_def.1 hc]
  rfl

/-- Trimming the end twice is trimming it once. -/
lemma trimEnd_trimEnd (cs : List Char) : trimEnd (trimEnd cs) = trimEnd cs :=
  trimEnd_of_getLast? fun _ => not_isBlank_getLast?_trimEnd

/-! ### Both ends -/

/-- **Trimming gives trimmed texts.** The start is trimmed last; that does no harm to the end, since
the last character of what is left is the last one before (`mem_getLast?_mono`). -/
theorem trimmed_trim (cs : List Char) : Trimmed (trim cs) :=
  ⟨fun _ => not_isBlank_head?_trimStart,
    fun _ h => not_isBlank_getLast?_trimEnd (mem_getLast?_mono (trimStart_suffix_self _) h)⟩

/-- **A trimmed text has nothing to trim.** -/
theorem Trimmed.trim_eq (h : Trimmed cs) : trim cs = cs := by
  rw [trim, trimEnd_of_getLast? h.2, trimStart_of_head? h.1]

/-- Trimming adds no character. -/
lemma mem_of_mem_trim (h : c ∈ trim cs) : c ∈ cs :=
  (trimEnd_prefix_self cs).subset ((trimStart_suffix_self _).subset h)

/-- Trimming the end first makes no difference. -/
lemma trim_trimEnd (cs : List Char) : trim (trimEnd cs) = trim cs := by
  rw [trim, trimEnd_trimEnd, trim]

/-- A text that starts with no blank is trimmed at its end alone. -/
lemma trim_of_head? (h : ∀ c ∈ cs.head?, ¬ isBlank c) : trim cs = trimEnd cs :=
  trimStart_of_head? fun _ hc => h _ (mem_head?_mono (trimEnd_prefix_self cs) hc)

/-! ### Texts put together -/

/-- Nothing is left exactly of a text that is all blank. -/
lemma trimEnd_eq_nil_iff : trimEnd cs = [] ↔ ∀ c ∈ cs, isBlank c := List.rdropWhile_eq_nil_iff

/-- **Trimming the end of two texts** goes on into the first only if the second is all blank. -/
lemma trimEnd_append (cs ds : List Char) :
    trimEnd (cs ++ ds) = if trimEnd ds = [] then trimEnd cs else cs ++ trimEnd ds := by
  simp only [trimEnd, List.reverse_append, List.dropWhile_append, List.isEmpty_iff,
    List.reverse_eq_nil_iff]
  split
  · rfl
  · rw [List.reverse_append, List.reverse_reverse]

/-- A first character that is not blank stays. -/
lemma trimEnd_cons (h : ¬ isBlank c) : trimEnd (c :: cs) = c :: trimEnd cs := by
  rw [← List.singleton_append, trimEnd_append]
  split
  · rename_i hcs
    rw [hcs]
    exact trimEnd_of_getLast? (by simpa using h)
  · rfl

/-- A blank before a text makes no difference to the text without the blanks around it.

**Proof sketch.** If the text is all blank, so is the text with the blank. Otherwise the end is
trimmed behind the blank, which is then taken off as the first character. -/
lemma trim_cons (h : isBlank c) : trim (c :: cs) = trim cs := by
  rw [trim, trim, ← List.singleton_append, trimEnd_append]
  by_cases hcs : trimEnd cs = []
  · rw [if_pos hcs, hcs, trimEnd_eq_nil_iff.2 (by simpa using h)]
  · rw [if_neg hcs, List.singleton_append]
    exact List.dropWhile_cons_of_pos h

/-- Blanks before a text make no difference to the text without the blanks around it. -/
lemma trim_append_of_blank (h : ∀ c ∈ cs, isBlank c) : trim (cs ++ ds) = trim ds := by
  induction cs with
  | nil => rfl
  | cons c cs ih =>
    rw [List.cons_append, trim_cons (h c List.mem_cons_self)]
    exact ih fun d hd => h d (List.mem_cons_of_mem c hd)

/-- Blanks behind a text make no difference to its trimmed end. -/
lemma trimEnd_append_of_blank (h : ∀ d ∈ ds, isBlank d) : trimEnd (cs ++ ds) = trimEnd cs := by
  rw [trimEnd_append, if_pos (trimEnd_eq_nil_iff.2 h)]

/-- A text that ends with a part whose first character is not blank is trimmed in that part. -/
lemma trimEnd_append_cons (h : ¬ isBlank c) :
    trimEnd (cs ++ c :: ds) = cs ++ c :: trimEnd ds := by
  rw [trimEnd_append, trimEnd_cons h, if_neg (List.cons_ne_nil _ _)]

end RequestRunner.Text
