import RequestRunner.Proofs.Document.Rendering
import RequestRunner.Report.ReportText

/-!
# The line numbers that are shown

A listing shows the lines of each block and a heading the method line of its block, all counted from
one. Whoever reads these numbers off the text gets the ones that were written, whatever the address
of the block contains.

## Main definitions

* `Text.leadingNumber` — the number at the start of a text, and what follows it.
* `shownRange?` — the range of lines that a line of a listing shows.
* `shownLine` — the line number that a heading shows.

## Main results

* `shownRange?_listing`, `shownLine_heading` — the numbers are read back.
* `listing_in_line` — a block of a document is listed on one line.
-/

namespace RequestRunner

namespace Text

/-- The number that the digits at the start of `cs` write, and what follows them. -/
def leadingNumber (cs : List Char) : Nat × List Char :=
  (Nat.ofDigitChars 10 (cs.takeWhile Char.isDigit) 0, cs.dropWhile Char.isDigit)

/-- A decimal number is written in digits. -/
lemma isDigit_of_mem_decimal {n : Nat} {c : Char} (h : c ∈ (decimal n).toList) : c.isDigit := by
  rw [decimal, String.toList_ofList] at h
  exact Nat.isDigit_of_mem_toDigits (by decide) (by decide) h

/-- The digits of a decimal number write it. -/
lemma ofDigitChars_decimal (n : Nat) : Nat.ofDigitChars 10 (decimal n).toList 0 = n := by
  rw [decimal, String.toList_ofList, Nat.ofDigitChars_ten_toDigits]

/-- A number is read back if no digit follows it. -/
lemma leadingNumber_decimal (n : Nat) {c : Char} (hc : ¬ c.isDigit) (rest : List Char) :
    leadingNumber ((decimal n).toList ++ c :: rest) = (n, c :: rest) := by
  have hdigits : ∀ d ∈ (decimal n).toList, d.isDigit := fun _ => isDigit_of_mem_decimal
  rw [leadingNumber, List.takeWhile_append_of_pos hdigits, List.dropWhile_append_of_pos hdigits,
    List.takeWhile_cons_of_neg hc, List.dropWhile_cons_of_neg hc, List.append_nil,
    ofDigitChars_decimal]

end Text

/-- The first and the last line that a line of a listing shows: the numbers with a dash between them
behind the first `L`. -/
def shownRange? (line : String) : Option (Nat × Nat) :=
  match splitAt? 'L' line.toList with
  | some (_, behind) =>
    match Text.leadingNumber behind with
    | (first, '-' :: rest) => some (first, (Text.leadingNumber rest).1)
    | _ => none
  | none => none

/-- The line number that a heading shows: the digits right before its last character. -/
def shownLine (heading : String) : Nat :=
  Nat.ofDigitChars 10 (heading.toList.dropLast.rtakeWhile Char.isDigit) 0

variable {document : String} {b : Block}

/-! ### Listings -/

/-- The characters of a listing: the number, the range, the verb, the address, and notes that end
with a bracket if there are any. -/
lemma toList_listing (i : Nat) (b : Block) :
    ∃ notes : List Char, '\n' ∉ notes ∧ (notes = [] ∨ notes.getLast? = some ']') ∧
      (b.listing i).toList =
        ((Text.padLeft 3 ' ' (Text.decimal (i + 1))).toList ++ [' ', ' ']) ++ 'L' ::
          ((Text.decimal (b.startLine + 1)).toList ++ '-' ::
            ((Text.decimal (b.endLine + 1)).toList ++ ' ' :: ' ' ::
              ((Text.padRight 7 ' ' b.method.name).toList ++ ' ' :: (b.url.toList ++ notes)))) := by
  refine ⟨(if b.headers.isEmpty then "" else
      "  [" ++ Text.decimal b.headers.size ++ " header(s)]").toList ++
    (if b.body.isEmpty then "" else "  [body]").toList, ?_, ?_, ?_⟩
  · have hdigit : '\n' ∉ (Text.decimal b.headers.size).toList := fun h =>
      absurd (Text.isDigit_of_mem_decimal h) (by decide)
    cases b.headers.isEmpty <;> cases b.body.isEmpty <;> simp [hdigit]
  · cases b.headers.isEmpty <;> cases b.body.isEmpty <;>
      simp [List.getLast?_append, List.getLast?_cons]
  · simp [Block.listing, String.toList_append]

/-- **A listing shows the lines of its block**, counted from one.

**Proof sketch.** The first `L` of the line stands before the range, since only blanks and digits
stand before it. Behind it are the two numbers, each with something that is no digit behind it, so
both are read back. -/
theorem shownRange?_listing (i : Nat) (b : Block) :
    shownRange? (b.listing i) = some (b.startLine + 1, b.endLine + 1) := by
  obtain ⟨notes, -, -, hchars⟩ := toList_listing i b
  -- the number of the block and the blanks around it have no such letter
  have hnot : 'L' ∉ (Text.padLeft 3 ' ' (Text.decimal (i + 1))).toList ++ [' ', ' '] := by
    have hdigit : 'L' ∉ (Text.decimal (i + 1)).toList := fun h =>
      absurd (Text.isDigit_of_mem_decimal h) (by decide)
    simp [Text.padLeft, hdigit]
  simp only [shownRange?, hchars, splitAt?_append hnot]
  rw [Text.leadingNumber_decimal _ (by decide)]
  simp only
  rw [Text.leadingNumber_decimal _ (by decide)]

/-- Listed one below the other, blocks show their ranges in order, and no other line shows one. -/
lemma filterMap_shownRange?_listing (bs : List Block) :
    (bs.mapIdx fun i b => b.listing i).filterMap shownRange? =
      bs.map fun b => (b.startLine + 1, b.endLine + 1) := by
  have hshown : (bs.mapIdx fun i b => b.listing i).map shownRange? =
      (bs.map fun b => (b.startLine + 1, b.endLine + 1)).map some := by
    refine List.ext_getElem? fun i => ?_
    simp [List.getElem?_mapIdx, Function.comp_def, shownRange?_listing]
  calc (bs.mapIdx fun i b => b.listing i).filterMap shownRange?
      = ((bs.mapIdx fun i b => b.listing i).map shownRange?).filterMap id := by
        rw [List.filterMap_map, Function.id_comp]
    _ = bs.map fun b => (b.startLine + 1, b.endLine + 1) := by
        rw [hshown, List.filterMap_map, Function.id_comp, List.filterMap_some]

/-- **A block of a document is listed on one line**, which does not end with a carriage return.

**Proof sketch.** An address has no line feed in it and ends with no blank, and neither do the notes
behind it; all else that is listed is made of digits, blanks and the letters of the verb. -/
theorem listing_in_line (hb : b ∈ blocks document) (i : Nat) :
    '\n' ∉ (b.listing i).toList ∧ (b.listing i).toList.getLast? ≠ some '\r' := by
  obtain ⟨haddress, hurl⟩ := isAddress_of_mem_blocks hb
  obtain ⟨notes, hnotes, hend, hchars⟩ := toList_listing i b
  have hdigit : ∀ n, '\n' ∉ (Text.decimal n).toList := fun n h =>
    absurd (Text.isDigit_of_mem_decimal h) (by decide)
  have hverb : '\n' ∉ b.method.name.toList := by cases b.method <;> decide
  refine ⟨?_, ?_⟩
  · rw [hchars]
    simp [Text.padLeft, Text.padRight, hdigit, hverb, hurl, hnotes]
  · -- the last character is a bracket or the last one of the address, which is no blank
    obtain ⟨c, hc, hne⟩ : ∃ c, (b.url.toList ++ notes).getLast? = some c ∧ c ≠ '\r' := by
      rcases hend with rfl | hend
      · have hlast := List.getLast?_eq_some_getLast haddress.ne_nil
        refine ⟨_, by rw [List.append_nil, hlast], fun hcr => ?_⟩
        exact haddress.trimmed.2 '\r' (hcr ▸ hlast) (by decide)
      · exact ⟨']', by rw [List.getLast?_append, hend]; rfl, by decide⟩
    generalize b.url.toList ++ notes = rest at hchars hc
    rw [hchars]
    simp [List.getLast?_append, List.getLast?_cons, hc, hne]

/-! ### Headings -/

/-- **A heading shows the method line of its block**, counted from one. The number stands right
before the last bracket, with a blank before it, so the digits there are all of its own.

**Proof sketch.** The last bracket is dropped, and the digits are taken from behind up to the blank.
-/
theorem shownLine_heading (completed : Instant) (r : Report) :
    shownLine (r.heading completed) = r.block.methodLine + 1 := by
  obtain ⟨front, hfront⟩ : ∃ front, (r.heading completed).toList =
      (front ++ [' '] ++ (Text.decimal (r.block.methodLine + 1)).toList) ++ [')'] := by
    refine ⟨("[" ++ completed.clock ++ "] " ++ r.block.method.name ++ " " ++ r.block.url ++
      "  (line").toList, ?_⟩
    simp [Report.heading, String.toList_append]
  have hdigits : ∀ d ∈ (Text.decimal (r.block.methodLine + 1)).toList.reverse, d.isDigit :=
    fun d hd => Text.isDigit_of_mem_decimal (List.mem_reverse.1 hd)
  rw [shownLine, hfront, List.dropLast_concat, List.rtakeWhile, List.reverse_append,
    List.takeWhile_append_of_pos hdigits, List.reverse_concat,
    List.takeWhile_cons_of_neg (by decide), List.append_nil, List.reverse_reverse,
    Text.ofDigitChars_decimal]

end RequestRunner
