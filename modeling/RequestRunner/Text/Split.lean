/-!
# Splitting

A text with separators in it is a list of parts, one more than it has separators; parts may be
empty.

## Main definitions

* `Text.split` — the parts of a list of characters.
* `Text.splitText` — the parts of a text.

## Main results

* `Text.split_ne_nil` — there is at least one part.
* `Text.intercalate_split` — the parts with separators between them are the text.
-/

namespace RequestRunner.Text

/-- Adds a character to the first of some parts. -/
def growFirst (c : Char) : List (List Char) → List (List Char)
  | [] => [[c]]
  | part :: parts => (c :: part) :: parts

/-- The parts between the separators. -/
def split (separator : Char) : List Char → List (List Char)
  | [] => [[]]
  | c :: cs =>
    if c = separator then [] :: split separator cs else growFirst c (split separator cs)

/-- A text has one part at least, be it the empty one. -/
theorem split_ne_nil (separator : Char) (cs : List Char) : split separator cs ≠ [] := by
  cases cs with
  | nil => simp [split]
  | cons c cs =>
    by_cases h : c = separator
    · simp [split, h]
    · simp only [split, h, if_false]
      cases split separator cs <;> simp [growFirst]

/-- To grow the first of the parts is to put a character in front of the text. -/
theorem intercalate_growFirst (separator c : Char) {parts : List (List Char)} (h : parts ≠ []) :
    [separator].intercalate (growFirst c parts) = c :: [separator].intercalate parts := by
  cases parts with
  | nil => exact absurd rfl h
  | cons part rest => cases rest <;> simp [growFirst]

/-- The parts of a text with separators between them are the text. -/
theorem intercalate_split (separator : Char) (cs : List Char) :
    [separator].intercalate (split separator cs) = cs := by
  induction cs with
  | nil => simp [split]
  | cons c cs ih =>
    have hne := split_ne_nil separator cs
    by_cases h : c = separator
    · rw [split, if_pos h]
      obtain ⟨part, rest, hs⟩ := List.exists_cons_of_ne_nil hne
      rw [hs] at ih ⊢
      simp [ih, h]
    · rw [split, if_neg h, intercalate_growFirst separator c hne, ih]

/-- The parts of a text between the separators. -/
def splitText (separator : Char) (text : String) : List String :=
  (split separator text.toList).map String.ofList

end RequestRunner.Text
