import RequestRunner.Proofs.Document.HeaderLists
import RequestRunner.Proofs.Document.Spans
import RequestRunner.Proofs.Text.Lines

/-!
# The headers and the body of a block

The first blank line behind the method line of a block, if one stands before the block's end, parts
its headers from its body. The headers are the fields of the header lines before it; the body is
the raw text of all lines behind it.

## Main results

* `Block.headersIn_eq`, `Block.bodyIn_eq` — headers and body in terms of the first blank line.
* `splitText_body` — the lines of a body, the last of which is not blank.
* `blocks_contents` — what the headers and the body of a block are.
-/

namespace RequestRunner

open LineKind

variable {lines : List String} {kinds : List LineKind} {p : LineKind → Bool}
  {first stop m last : Nat}

/-! ### The first blank line -/

/-- The test for blank lines of the scan is the class of blank lines. -/
lemma beq_blank : (fun kind : LineKind => kind == .blank) = isBlank := by
  funext kind
  cases kind <;> rfl

namespace Block

/-- The headers of a block are the fields of the header lines up to the first blank line, or up to
the end if there is none.

**Proof sketch.** The lines up to the first blank one are those up to where the search finds one
(`findIdx?_extract`). The search may leave out the last line of the block, which is not blank. -/
lemma headersIn_eq (h : ¬ lineIs kinds isBlank last) :
    headersIn kinds m last =
      .ofPairs (headerFields (kinds.extract (m + 1)
        ((firstLine? kinds isBlank (m + 1) last).getD (last + 1)))) := by
  have hnot : (fun kind : LineKind => !(kind != .blank)) = isBlank := by
    rw [← beq_blank]
    funext kind
    exact Bool.not_not _
  have hidx : (kinds.extract (m + 1) (last + 1)).findIdx? isBlank =
      (firstLine? kinds isBlank (m + 1) (last + 1)).map (· - (m + 1)) := findIdx?_extract
  rw [firstLine?_succ_of_not h] at hidx
  rw [headersIn, Headers.ofKinds_eq_ofPairs, List.takeWhile_eq_take_findIdx_not, hnot]
  congr 2
  cases hf : firstLine? kinds isBlank (m + 1) last with
  | none =>
    rw [hf, Option.map_none, List.findIdx?_eq_none_iff] at hidx
    rw [List.findIdx_eq_length.2 hidx, List.take_length, Option.getD_none]
  | some i =>
    have hi := firstLine?_eq_some_iff.1 hf
    rw [hf, Option.map_some, List.findIdx?_eq_some_iff_findIdx_eq] at hidx
    rw [hidx.2, Option.getD_some, List.extract_eq_take_drop, List.extract_eq_take_drop,
      List.take_take, Nat.min_eq_left (by omega)]

/-- The body of a block is the text of the lines behind the first blank line. -/
lemma bodyIn_eq (h : ¬ lineIs kinds isBlank last) :
    bodyIn lines kinds m last =
      match firstLine? kinds isBlank (m + 1) last with
      | some gap => Text.joinLines (lines.extract (gap + 1) (last + 1))
      | none => "" := by
  rw [bodyIn, beq_blank, findIdx?_extract, firstLine?_succ_of_not h]
  cases hf : firstLine? kinds isBlank (m + 1) last with
  | none => rfl
  | some i =>
    have hi := (firstLine?_eq_some_iff.1 hf).1
    rw [Option.map_some]
    simp only [show m + (i - (m + 1)) + 2 = i + 1 by omega]

end Block

/-! ### The blocks of a document -/

/-- Each line has one kind. -/
lemma lines_length_eq (document : String) :
    (lineKinds document).length = (Text.lines document).length := List.length_map _

/-- The last of a stretch of lines. -/
lemma getLast?_extract (h : first ≤ last) (hlast : last < lines.length) :
    (lines.extract first (last + 1)).getLast? = lines[last]? := by
  rw [List.extract_eq_take_drop, List.getLast?_take, if_neg (by omega), List.getElem?_drop,
    show first + (last + 1 - first - 1) = last by omega, List.getElem?_eq_getElem hlast]
  rfl

/-- The lines of the body of a block: those behind the first blank line, the last of which is not
blank.

**Proof sketch.** The lines are those of the document, so none holds a line feed, and there is one
at least, since the block ends behind the blank line. Joined lines are then split apart again
(`Text.splitText_joinLines`). The last one is the last line of the block, which is filled. -/
lemma splitText_body {document : String} {b : Block} (hb : b ∈ blocks document) {gap : Nat}
    (hgap : firstLine? (lineKinds document) isBlank (b.methodLine + 1) b.endLine = some gap) :
    b.body = Text.joinLines ((Text.lines document).extract (gap + 1) (b.endLine + 1)) ∧
      Text.splitText '\n' b.body = (Text.lines document).extract (gap + 1) (b.endLine + 1) ∧
      ∃ line, (Text.splitText '\n' b.body).getLast? = some line ∧ ofLine line ≠ .blank := by
  have hfits := fits_of_mem_blocks hb
  obtain ⟨-, -, hfilled, -⟩ := hfits.endLine_spec
  obtain ⟨hend, hnot⟩ := lineIs_isFilled_iff.1 hfilled
  rw [lines_length_eq] at hend
  obtain ⟨-, hlt, -⟩ := firstLine?_eq_some_iff.1 hgap
  have hbody := hfits.body_eq
  rw [Block.bodyIn_eq hnot, hgap] at hbody
  simp only at hbody
  have hlast := getLast?_extract (show gap + 1 ≤ b.endLine from hlt) hend
  rw [List.getElem?_eq_getElem hend] at hlast
  have hsplit : Text.splitText '\n' b.body =
      (Text.lines document).extract (gap + 1) (b.endLine + 1) := by
    rw [hbody]
    refine Text.splitText_joinLines (fun hnil => ?_) fun line hline =>
      Text.not_mem_of_mem_lines (List.mem_of_mem_drop (List.mem_of_mem_take hline))
    rw [hnil] at hlast
    simp at hlast
  refine ⟨hbody, hsplit, _, hsplit ▸ hlast, fun hblank => hnot ?_⟩
  simp [lineIs, lineKinds, hend, hblank, isBlank]

/-- A block whose lines behind the method line hold no blank one before the end has no body. -/
lemma body_eq_empty {document : String} {b : Block} (hb : b ∈ blocks document)
    (hgap : firstLine? (lineKinds document) isBlank (b.methodLine + 1) b.endLine = none) :
    b.body = "" := by
  have hfits := fits_of_mem_blocks hb
  obtain ⟨-, -, hfilled, -⟩ := hfits.endLine_spec
  rw [hfits.body_eq, Block.bodyIn_eq (lineIs_isFilled_iff.1 hfilled).2, hgap]

/-- **Headers and body of a block.** Let `gap` be the first blank line strictly between the method
line and the end of a block, if there is one. The headers are the fields of the header lines behind
the method line and before `gap`, or up to the end; each name stands once, where it first came, with
the value that came last. The body is empty without `gap`, and otherwise the raw lines behind `gap`
up to the end, joined by line feeds: none is dropped, moved or changed. So there is a body exactly
if a blank line of the region is followed by one that is not blank, and it ends neither with a blank
line nor with a line feed.

**Proof sketch.** The last line of a block is not blank (`Block.Fits.endLine_spec`), so that the
search for `gap` may stop before it; the headers and the body are then what `Block.headersIn_eq` and
`Block.bodyIn_eq` say. The body splits into its lines (`splitText_body`), the last of which is the
last line of the block. -/
theorem blocks_contents (document : String) {b : Block} (hb : b ∈ blocks document) :
    let lines := Text.lines document
    let kinds := lineKinds document
    let gap := firstLine? kinds isBlank (b.methodLine + 1) b.endLine
    b.headers.toPairs =
        collapse (headerFields (kinds.extract (b.methodLine + 1) (gap.getD (b.endLine + 1)))) ∧
      (gap = none → b.body = "") ∧
      (∀ h, gap = some h →
        h < b.endLine ∧ lineIs kinds isFilled b.endLine ∧
        b.body = Text.joinLines (lines.extract (h + 1) (b.endLine + 1)) ∧
        Text.splitText '\n' b.body = lines.extract (h + 1) (b.endLine + 1)) ∧
      (b.body ≠ "" ↔ ∃ i j, b.methodLine < i ∧ i < j ∧ j < nextAnchor kinds b.methodLine ∧
        lineIs kinds isBlank i ∧ lineIs kinds isFilled j) ∧
      b.body.toList.getLast? ≠ some '\n' ∧
      (b.body ≠ "" → ∃ line, (Text.splitText '\n' b.body).getLast? = some line ∧
        ofLine line ≠ .blank) := by
  intro lines kinds gap
  have hfits : b.Fits lines kinds := fits_of_mem_blocks hb
  obtain ⟨hle, hnext, hfilled, hmax⟩ := hfits.endLine_spec
  have hnot := (lineIs_isFilled_iff.1 hfilled).2
  have hnone : gap = none → b.body = "" := body_eq_empty hb
  have hlast : ∀ h, gap = some h → ∃ line,
      (Text.splitText '\n' b.body).getLast? = some line ∧ ofLine line ≠ .blank :=
    fun h hh => (splitText_body hb hh).2.2
  -- an empty last part is a blank line
  have hfull : ∀ h, gap = some h → (Text.splitText '\n' b.body).getLast? ≠ some "" := by
    intro h hh hempty
    obtain ⟨line, hline, hkind⟩ := hlast h hh
    rw [hempty] at hline
    exact hkind (Option.some.inj hline ▸ rfl)
  have hne : ∀ h, gap = some h → b.body ≠ "" := by
    intro h hh hempty
    exact hfull h hh (by rw [hempty]; rfl)
  refine ⟨?_, hnone, ?_, ⟨?_, ?_⟩, ?_, ?_⟩
  · rw [hfits.headers_eq, Block.headersIn_eq hnot, Headers.toPairs_ofPairs]
  · intro h hh
    obtain ⟨hbody, hsplit, -⟩ := splitText_body hb hh
    exact ⟨(firstLine?_eq_some_iff.1 hh).2.1, hfilled, hbody, hsplit⟩
  · intro hbody
    cases hgap : gap with
    | none => exact absurd (hnone hgap) hbody
    | some h =>
      obtain ⟨h₁, h₂, hblank, -⟩ := firstLine?_eq_some_iff.1 hgap
      exact ⟨h, b.endLine, h₁, h₂, hnext, hblank, hfilled⟩
  · rintro ⟨i, j, h₁, h₂, h₃, hblank, hj⟩
    have hji : j ≤ b.endLine := by
      by_contra hlt
      exact hmax j (by omega) h₃ hj
    cases hgap : gap with
    | none => exact absurd hblank (firstLine?_eq_none_iff.1 hgap i h₁ (by omega))
    | some h => exact hne h hgap
  · intro hnewline
    cases hgap : gap with
    | none =>
      rw [hnone hgap] at hnewline
      simp at hnewline
    | some h =>
      refine hfull h hgap ?_
      rw [Text.splitText, List.getLast?_map, Text.getLast?_split hnewline]
      rfl
  · intro hbody
    cases hgap : gap with
    | none => exact absurd (hnone hgap) hbody
    | some h => exact hlast h hgap

/-- A header set twice keeps its place and its last value, and the second of two blank lines opens
the body. -/
theorem blocks_contents_of_note :
    let document := "POST /notes\nA: 1\n# B: 2\nC: 3\nA: 4\n\n\nfirst\n \nlast\n\n"
    let b : Block := ⟨.post, "/notes", ⟨[⟨"A", "4"⟩, ⟨"C", "3"⟩]⟩, "\nfirst\n \nlast", 0, 9, 0⟩
    b ∈ blocks document ∧
      b.headers.toPairs = collapse [("A", "1"), ("C", "3"), ("A", "4")] ∧
      b.body = Text.joinLines ["", "first", " ", "last"] ∧
      b.body.toList.getLast? ≠ some '\n' := by
  intro document b
  have hb : b ∈ blocks document := by decide +kernel
  obtain ⟨hheaders, -, hbody, -, hlast, -⟩ := blocks_contents document hb
  have hgap : firstLine? (lineKinds document) isBlank (0 + 1) 9 = some 5 := by decide +kernel
  refine ⟨hb, ?_, ?_, hlast⟩
  · rw [hheaders]
    decide +kernel
  · rw [(hbody 5 hgap).2.2.1]
    decide +kernel

end RequestRunner
