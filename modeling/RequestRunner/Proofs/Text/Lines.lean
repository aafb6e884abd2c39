import Mathlib.Data.List.Basic
import RequestRunner.Text.Line
import RequestRunner.Text.Split

/-!
# Reading lines back

Lines that hold no line feed are read back from a text that ends each with a carriage return and a
line feed, and parts that hold no separator are split apart again after they are joined.

## Main results

* `Text.not_mem_of_mem_lines` — a line of a text holds no line feed.
* `Text.length_lines_le` — a text has no more lines than characters.
* `Text.lines_join_crlf` — lines with endings are read back, a carriage return of theirs included.
* `Text.lines_join_lf` — lines are read back from endings that are a line feed alone.
* `Text.lines_append` — the lines of two texts one behind the other.
* `Text.splitText_joinLines`, `Text.joinLines_splitText` — joined lines are split apart again, and
  split lines joined.
* `Text.getLast?_split` — a text that ends with the separator has an empty last part.
-/

namespace RequestRunner.Text

/-! ### Lines with endings -/

/-- The open line goes on up to the next line feed, which ends it. -/
lemma linesFrom_append (line cs rest : List Char) (h : '\n' ∉ cs) :
    linesFrom line (cs ++ '\n' :: rest) = endedLine (cs.reverse ++ line) :: linesFrom [] rest := by
  induction cs generalizing line with
  | nil => simp [linesFrom]
  | cons c cs ih =>
    rw [List.mem_cons, not_or] at h
    have hc : ¬ c = '\n' := fun he => h.1 he.symm
    rw [List.cons_append, linesFrom, if_neg hc, ih _ h.2, List.reverse_cons, List.append_assoc,
      List.singleton_append]

/-- A line that was ended holds characters of the open line only: the ending is at most cut off. -/
lemma mem_of_mem_endedLine {c : Char} {line : List Char} (h : c ∈ endedLine line) : c ∈ line := by
  unfold endedLine at h
  split at h
  · exact List.mem_cons_of_mem _ (List.mem_reverse.1 h)
  · exact List.mem_reverse.1 h

/-- No line feed gets into a line, if there is none in the open one.

**Proof sketch.** Induction on the characters. A line feed ends the open line and starts an empty
one; any other character is added to the open line, which still has no line feed. -/
lemma not_mem_of_mem_linesFrom {line cs l : List Char} (hline : '\n' ∉ line)
    (hl : l ∈ linesFrom line cs) : '\n' ∉ l := by
  induction cs generalizing line with
  | nil =>
    rw [linesFrom] at hl
    split at hl
    · simp at hl
    · rw [List.mem_singleton.1 hl, List.mem_reverse]
      exact hline
  | cons c cs ih =>
    rw [linesFrom] at hl
    split at hl
    · rcases List.mem_cons.1 hl with rfl | hl
      · exact fun h => hline (mem_of_mem_endedLine h)
      · exact ih (List.not_mem_nil) hl
    · rename_i hc
      refine ih ?_ hl
      rw [List.mem_cons, not_or]
      exact ⟨fun he => hc he.symm, hline⟩

/-- **A line of a text holds no line feed.** -/
theorem not_mem_of_mem_lines {text line : String} (h : line ∈ lines text) : '\n' ∉ line.toList := by
  obtain ⟨l, hl, rfl⟩ := List.mem_map.1 h
  rw [String.toList_ofList]
  exact not_mem_of_mem_linesFrom List.not_mem_nil hl

/-- Behind an open line there are no more lines than characters, and one more if the open line is
not empty.

**Proof sketch.** Induction on the characters. A character either ends a line or leaves the number
of lines as it is, and then the open line is not empty. -/
lemma length_linesFrom_le (line cs : List Char) :
    (linesFrom line cs).length ≤ cs.length + if line.isEmpty then 0 else 1 := by
  induction cs generalizing line with
  | nil =>
    rw [linesFrom]
    cases line <;> simp
  | cons c cs ih =>
    rw [linesFrom]
    split
    · have hrest := ih []
      simp only [List.isEmpty_nil, if_true] at hrest
      simp only [List.length_cons]
      omega
    · have hrest := ih (c :: line)
      simp only [List.isEmpty_cons, Bool.false_eq_true, if_false] at hrest
      simp only [List.length_cons]
      omega

/-- **A text has no more lines than characters.** So numbers of lines fit wherever the number of
characters does. -/
theorem length_lines_le (text : String) : (lines text).length ≤ text.length := by
  rw [lines, List.length_map, ← String.length_toList]
  exact length_linesFrom_le [] text.toList

/-- Lines that hold no line feed are read back from a text that ends each with one, but for a
carriage return at their end. -/
lemma linesFrom_flatMap {ls : List (List Char)} (h : ∀ l ∈ ls, '\n' ∉ l) :
    linesFrom [] (ls.flatMap (· ++ ['\n'])) = ls.map fun l => endedLine l.reverse := by
  induction ls with
  | nil => rfl
  | cons l ls ih =>
    have hcut : (l :: ls).flatMap (· ++ ['\n']) = l ++ '\n' :: ls.flatMap (· ++ ['\n']) := by simp
    rw [hcut, linesFrom_append _ _ _ (h l List.mem_cons_self),
      ih fun l' hl' => h l' (List.mem_cons_of_mem l hl'), List.append_nil, List.map_cons]

/-- Reading lines back from a text in which an ending stands behind each: the ending is a line feed,
and what stands before the line feed is read as a line that was ended. Both forms of endings are
cases of it, with `f` for the line as it stands before the line feed. -/
lemma lines_join_map {f : String → List Char} {ending : String} {ls : List String}
    (hf : ∀ l, (l ++ ending).toList = f l ++ ['\n']) (h : ∀ l ∈ ls, '\n' ∉ f l) :
    lines (String.join (ls.map (· ++ ending))) =
      ls.map fun l => String.ofList (endedLine (f l).reverse) := by
  have htext : (String.join (ls.map (· ++ ending))).toList = (ls.map f).flatMap (· ++ ['\n']) := by
    rw [String.toList_join, List.flatMap_map, List.flatMap_map]
    simp only [hf]
  have hnot : ∀ l ∈ ls.map f, '\n' ∉ l := List.forall_mem_map.2 h
  rw [lines, htext, linesFrom_flatMap hnot, List.map_map, List.map_map]
  rfl

/-- **Lines with endings are read back.** A carriage return at the end of a line stays with it,
since only the one before the line feed belongs to the ending. -/
theorem lines_join_crlf {ls : List String} (h : ∀ l ∈ ls, '\n' ∉ l.toList) :
    lines (String.join (ls.map (· ++ "\r\n"))) = ls := by
  have hf : ∀ l : String, (l ++ "\r\n").toList = (l.toList ++ ['\r']) ++ ['\n'] := by simp
  rw [lines_join_map hf fun l hl => by simpa using h l hl]
  simp [endedLine]

/-- What a line is read as if a line feed ends it: without a carriage return at its end. -/
def ended (line : String) : String := String.ofList (endedLine line.toList.reverse)

/-- A line without a carriage return at its end is read as it is. -/
lemma ended_of_getLast?_ne {line : String} (h : line.toList.getLast? ≠ some '\r') :
    ended line = line := by
  have hhead : ∀ before, line.toList.reverse ≠ '\r' :: before := by
    intro before hbefore
    rw [← List.head?_reverse, hbefore] at h
    exact h rfl
  rw [ended]
  unfold endedLine
  split
  · rename_i before hbefore
    exact absurd hbefore (hhead before)
  · rw [List.reverse_reverse, String.ofList_toList]

/-- **Lines that end with a line feed alone are read back** if none ends with a carriage return. -/
theorem lines_join_lf {ls : List String} (h : ∀ l ∈ ls, '\n' ∉ l.toList)
    (hcr : ∀ l ∈ ls, l.toList.getLast? ≠ some '\r') :
    lines (String.join (ls.map (· ++ "\n"))) = ls := by
  have hf : ∀ l : String, (l ++ "\n").toList = l.toList ++ ['\n'] := by simp
  have hkept : ∀ l ∈ ls, ended l = l := fun l hl => ended_of_getLast?_ne (hcr l hl)
  calc lines (String.join (ls.map (· ++ "\n"))) = ls.map ended := lines_join_map hf h
    _ = ls := by rw [List.map_congr_left hkept, List.map_id']

/-! ### Two texts one behind the other -/

/-- Behind a line feed the lines are read as if nothing stood before it. -/
lemma linesFrom_append_ended (line cs rest : List Char) :
    linesFrom line (cs ++ '\n' :: rest) = linesFrom line (cs ++ ['\n']) ++ linesFrom [] rest := by
  induction cs generalizing line with
  | nil => rfl
  | cons c cs ih =>
    rw [List.cons_append, List.cons_append, linesFrom, linesFrom]
    split
    · rw [ih, List.cons_append]
    · rw [ih]

/-- **The lines of two texts** are those of the first and those of the second, if the first is empty
or ends with a line feed. -/
theorem lines_append {front rest : String}
    (h : front = "" ∨ front.toList.getLast? = some '\n') :
    lines (front ++ rest) = lines front ++ lines rest := by
  rcases h with rfl | h
  · rw [String.empty_append]
    rfl
  · obtain ⟨cs, hcs⟩ := List.getLast?_eq_some_iff.1 h
    rw [lines, lines, lines, String.toList_append, hcs, List.append_assoc, List.singleton_append,
      linesFrom_append_ended, List.map_append]

/-- A carriage return that was added before the line feed is taken away with it. -/
lemma ended_append_cr (line : String) : ended (line ++ "\r") = line := by
  have hrev : (line ++ "\r").toList.reverse = '\r' :: line.toList.reverse := by simp
  rw [ended, hrev, endedLine, List.reverse_reverse, String.ofList_toList]

/-- The first line of a text, and the lines of the rest. -/
lemma lines_cons {line : String} (rest : String) (h : '\n' ∉ line.toList) :
    lines (line ++ "\n" ++ rest) = ended line :: lines rest := by
  have htext : (line ++ "\n" ++ rest).toList = line.toList ++ '\n' :: rest.toList := by simp
  rw [lines, htext, linesFrom_append _ _ _ h, List.append_nil, List.map_cons, ended, lines]

/-- Without a line feed all characters go to the open line, which is a line unless it is empty. -/
lemma linesFrom_of_not_mem {line cs : List Char} (h : '\n' ∉ cs) :
    linesFrom line cs =
      if (cs.reverse ++ line).isEmpty then [] else [(cs.reverse ++ line).reverse] := by
  induction cs generalizing line with
  | nil => rfl
  | cons c cs ih =>
    rw [List.mem_cons, not_or] at h
    have hc : ¬ c = '\n' := fun he => h.1 he.symm
    rw [linesFrom, if_neg hc, ih h.2, List.reverse_cons, List.append_assoc, List.singleton_append]

/-- A text without a line feed is one line. -/
lemma lines_eq_singleton {line : String} (hne : line ≠ "") (h : '\n' ∉ line.toList) :
    lines line = [line] := by
  have hchars : ¬ (line.toList.reverse ++ []).isEmpty := by simpa using hne
  rw [lines, linesFrom_of_not_mem h, if_neg hchars, List.append_nil, List.reverse_reverse,
    List.map_singleton, String.ofList_toList]

/-! ### Joined parts -/

/-- Parts grow at the front, as the library's splitter has it, whose lemmas are then at hand. -/
lemma split_eq_splitOn (c : Char) (cs : List Char) : split c cs = cs.splitOn c := by
  induction cs with
  | nil => rfl
  | cons d cs ih =>
    rw [split, List.splitOn_cons_eq_if_modifyHead]
    by_cases hd : d = c
    · rw [if_pos hd, if_pos (beq_iff_eq.2 hd), ih]
    · rw [if_neg hd, if_neg fun h => hd (beq_iff_eq.1 h), ih]
      obtain ⟨part, parts, hs⟩ := List.exists_cons_of_ne_nil (List.splitOn_ne_nil c cs)
      rw [hs]
      rfl

/-- **Joined lines are split apart again**, if there is one and none holds a line feed. -/
theorem splitText_joinLines {ls : List String} (hne : ls ≠ []) (h : ∀ l ∈ ls, '\n' ∉ l.toList) :
    splitText '\n' (joinLines ls) = ls := by
  have htext : (joinLines ls).toList = ['\n'].intercalate (ls.map String.toList) := by
    rw [joinLines, String.toList_intercalate]
    rfl
  have hparts : ∀ part ∈ ls.map String.toList, '\n' ∉ part := by
    intro part hp
    obtain ⟨l, hl, rfl⟩ := List.mem_map.1 hp
    exact h l hl
  rw [splitText, htext, split_eq_splitOn,
    List.splitOn_intercalate _ hparts (fun h => hne (List.map_eq_nil_iff.1 h)), List.map_map]
  simp

/-- The parts of a text are joined again. -/
lemma intercalate_splitText {separator : String} {c : Char} (h : separator.toList = [c]) (text : String) :
    separator.intercalate (splitText c text) = text := by
  have hparts : (splitText c text).map String.toList = split c text.toList := by
    rw [splitText, List.map_map]
    simp
  rw [← String.toList_inj, String.toList_intercalate, hparts, h, intercalate_split]

/-- **Split lines are joined again**, whatever the text is. An empty line at the end is kept on both
ways. -/
theorem joinLines_splitText (text : String) : joinLines (splitText '\n' text) = text :=
  intercalate_splitText rfl text

/-- A part holds no separator.

**Proof sketch.** Induction on the characters. A separator starts an empty part; any other character
is put in front of the first part, which has no separator yet. -/
lemma not_mem_of_mem_split {c : Char} {cs part : List Char} (h : part ∈ split c cs) :
    c ∉ part := by
  induction cs generalizing part with
  | nil => simp_all [split]
  | cons d cs ih =>
    rw [split] at h
    split at h
    · rcases List.mem_cons.1 h with rfl | h
      · exact List.not_mem_nil
      · exact ih h
    · rename_i hd
      obtain ⟨first, parts, hs⟩ := List.exists_cons_of_ne_nil (split_ne_nil c cs)
      rw [hs, growFirst, List.mem_cons] at h
      rcases h with rfl | h
      · rw [List.mem_cons, not_or]
        exact ⟨fun he => hd he.symm, ih (hs ▸ List.mem_cons_self)⟩
      · exact ih (hs ▸ List.mem_cons_of_mem _ h)

/-- **A line of a split text holds no line feed.** -/
theorem not_mem_of_mem_splitText {text line : String} (h : line ∈ splitText '\n' text) :
    '\n' ∉ line.toList := by
  obtain ⟨part, hpart, rfl⟩ := List.mem_map.1 h
  rw [String.toList_ofList]
  exact not_mem_of_mem_split hpart

/-- A text that ends with the separator has an empty last part. -/
lemma getLast?_split {c : Char} {cs : List Char} (h : cs.getLast? = some c) :
    (split c cs).getLast? = some [] := by
  obtain ⟨front, rfl⟩ := List.getLast?_eq_some_iff.1 h
  rw [split_eq_splitOn, List.splitOn_append_cons_self, List.splitOn_nil, List.getLast?_concat]

end RequestRunner.Text
