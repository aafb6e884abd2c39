import RequestRunner.Proofs.Document.Concatenation

/-!
# Line endings

The same lines can be written with a line feed or with a carriage return and a line feed behind each
of them, and without an ending behind the last. What is read back are the lines, but for an empty last
one without an ending, and a blank last line is in no block.

## Main definitions

* `Writes` — the ways to write lines as a text.

## Main results

* `lines_of_writes` — what is read back from a text that writes some lines.
* `blocksOfLines_append_blank` — a blank line at the end of a document.
* `blocks_eq_of_writes` — all ways to write some lines give the same blocks.
-/

namespace RequestRunner

open LineKind

/-- The ways to write lines as a text: each line ends with a line feed, or with a carriage return and
a line feed, and the last line may have no ending. -/
inductive Writes : List String → String → Prop where
  | nil : Writes [] ""
  | last (line : String) : Writes [line] line
  | lf {lines : List String} {text : String} (line : String) (h : Writes lines text) :
    Writes (line :: lines) (line ++ "\n" ++ text)
  | crlf {lines : List String} {text : String} (line : String) (h : Writes lines text) :
    Writes (line :: lines) (line ++ "\r\n" ++ text)

variable {lines front : List String} {ks : List LineKind} {text text' line : String}
  {opened : OpenRegion}

/-! ### Lines read back -/

/-- **All ways to write lines are read back as these lines**, but for an empty last line without an
ending.

**Proof sketch.** Induction on how the text was written. A line with an ending is read as the first
line (`Text.lines_cons`): a carriage return before the line feed is cut off, and the line itself
ends with none. A last line without an ending is read as it is, unless it is empty, when nothing is
there to be read. -/
theorem lines_of_writes (h : Writes lines text) (hfeed : ∀ l ∈ lines, '\n' ∉ l.toList)
    (hcr : ∀ l ∈ lines, l.toList.getLast? ≠ some '\r') :
    Text.lines text = lines ∨ Text.lines text ++ [""] = lines := by
  have hcons : ∀ {line text} {lines : List String},
      Text.lines text = lines ∨ Text.lines text ++ [""] = lines →
      line :: Text.lines text = line :: lines ∨ line :: Text.lines text ++ [""] = line :: lines :=
    fun h => h.imp (congrArg _) (congrArg _)
  induction h with
  | nil => exact .inl rfl
  | last line =>
    rcases eq_or_ne line "" with rfl | hne
    · exact .inr rfl
    · exact .inl (Text.lines_eq_singleton hne (hfeed line List.mem_cons_self))
  | lf line h ih =>
    rw [List.forall_mem_cons] at hfeed hcr
    rw [Text.lines_cons _ hfeed.1, Text.ended_of_getLast?_ne hcr.1]
    exact hcons (ih hfeed.2 hcr.2)
  | @crlf ls text line h ih =>
    rw [List.forall_mem_cons] at hfeed hcr
    have hfeed' : '\n' ∉ (line ++ "\r").toList := by simpa using hfeed.1
    have hending : line ++ "\r\n" ++ text = line ++ "\r" ++ "\n" ++ text := by
      have hpair : "\r\n" = "\r" ++ "\n" := rfl
      rw [hpair, ← String.append_assoc]
    rw [hending, Text.lines_cons _ hfeed', Text.ended_append_cr]
    exact hcons (ih hfeed.2 hcr.2)

/-! ### A blank last line -/

/-- A region that goes on over a blank last line gives the same block.

**Proof sketch.** The search for the last filled line starts one line later, on the blank line, and
goes on from where it would have started (`lastFilled_of_blank`). Headers and body depend on the
lines up to what it finds, which are the same. -/
lemma Block.ofRegion?_closeAt_blank (h : ScanInv ks front.length (some opened))
    (hlen : ks.length = front.length) :
    ofRegion? (front ++ [line]) (ks ++ [.blank]) (opened.closeAt (front.length + 1)) =
      ofRegion? front ks (opened.closeAt front.length) := by
  have hs : IsStretch ks opened.start opened.methodLine front.length := h
  cases hm : opened.methodLine with
  | none => simp [ofRegion?, OpenRegion.closeAt, hm]
  | some m =>
    obtain ⟨-, hlt, hmethod⟩ := (hs.methodLine_iff m).1 hm
    obtain ⟨verb, url, hk⟩ := lineIs_isMethod_iff.1 hmethod
    have hk' : (ks ++ [.blank])[m]? = some (.method verb url) := by
      rw [List.getElem?_append_left (by omega), hk]
    have hblank : (ks ++ [.blank])[front.length - 1 + 1]? = some .blank := by
      rw [Nat.sub_add_cancel (Nat.zero_lt_of_lt hlt), ← hlen, List.getElem?_concat_length]
    have hlast : front.length - 1 < ks.length := by omega
    have hend : lastFilled (ks ++ [.blank]) m front.length =
        lastFilled ks m (front.length - 1) := by
      calc lastFilled (ks ++ [.blank]) m front.length
          = lastFilled (ks ++ [.blank]) m (front.length - 1 + 1) := by
            rw [Nat.sub_add_cancel (Nat.zero_lt_of_lt hlt)]
        _ = lastFilled (ks ++ [.blank]) m (front.length - 1) :=
            lastFilled_of_blank (Nat.le_sub_one_of_lt hlt) hblank
        _ = lastFilled ks m (front.length - 1) := lastFilled_append hlast
    have hin : lastFilled ks m (front.length - 1) < ks.length :=
      Nat.lt_of_le_of_lt (lastFilled_le (Nat.le_sub_one_of_lt hlt)) hlast
    rw [ofRegion?_of_methodLine (r := opened.closeAt (front.length + 1)) hm hk',
      ofRegion?_of_methodLine (r := opened.closeAt front.length) hm hk]
    simp only [OpenRegion.closeAt, Nat.add_sub_cancel, hend, headersIn_append hin,
      bodyIn_append hin hlen]

/-- **A blank line at the end of a document is in no block.** It starts no region; at most it
belongs to the one that is open (`Block.ofRegion?_closeAt_blank`). -/
theorem blocksOfLines_append_blank (h : ofLine line = .blank) :
    blocksOfLines (front ++ [line]) = blocksOfLines front := by
  have hlen : (front.map ofLine).length = front.length := List.length_map _
  obtain ⟨bs, left, hinv, -, hblocks⟩ := exists_blocks_scan front
  have hfront := hblocks []
  rw [List.append_nil, List.map_nil, List.append_nil] at hfront
  rw [hblocks, hfront, List.map_cons, List.map_nil, h]
  cases left with
  | none => rfl
  | some opened =>
    simp only [regionsFrom, Option.map_some, Option.toList_some, List.filterMap_cons,
      List.filterMap_nil, Block.ofRegion?_closeAt_blank hinv hlen]

/-! ### Texts with the same lines -/

/-- **The style of the line endings makes no difference.** Of lines that hold no line feed and end
with no carriage return, all texts that write them have the same blocks, down to the line numbers.

**Proof sketch.** A text that writes lines is read back as these lines, or as all of them but an empty
last one (`lines_of_writes`), and that one is in no block (`blocksOfLines_append_blank`). -/
theorem blocks_eq_of_writes (h : Writes lines text) (h' : Writes lines text')
    (hfeed : ∀ l ∈ lines, '\n' ∉ l.toList) (hcr : ∀ l ∈ lines, l.toList.getLast? ≠ some '\r') :
    blocks text = blocks text' := by
  have hblocks : ∀ {text}, Writes lines text → blocks text = blocksOfLines lines := by
    intro text h
    rw [blocks_eq_blocksOfLines]
    rcases lines_of_writes h hfeed hcr with hlines | hlines
    · rw [hlines]
    · rw [← hlines, blocksOfLines_append_blank rfl]
  rw [hblocks h, hblocks h']

/-- A body with an empty line at its end, written with line feeds alone, and with carriage returns
and no ending behind the last line. -/
theorem blocks_eq_of_writes_lf_crlf :
    let lines := ["GET /a", "A: 1", "", "one", "two", ""]
    let text := "GET /a\nA: 1\n\none\ntwo\n\n"
    let text' := "GET /a\r\nA: 1\n\r\none\r\ntwo\r\n"
    Writes lines text ∧ Writes lines text' ∧ (∀ l ∈ lines, '\n' ∉ l.toList) ∧
      (∀ l ∈ lines, l.toList.getLast? ≠ some '\r') ∧ blocks text = blocks text' ∧
      (blocks text).map Block.body = ["one\ntwo"] := by
  intro lines text text'
  have h : Writes lines text :=
    .lf "GET /a" (.lf "A: 1" (.lf "" (.lf "one" (.lf "two" (.lf "" .nil)))))
  have h' : Writes lines text' :=
    .crlf "GET /a" (.lf "A: 1" (.crlf "" (.crlf "one" (.crlf "two" (.last "")))))
  have hfeed : ∀ l ∈ lines, '\n' ∉ l.toList := by decide
  have hcr : ∀ l ∈ lines, l.toList.getLast? ≠ some '\r' := by decide
  exact ⟨h, h', hfeed, hcr, blocks_eq_of_writes h h' hfeed hcr, by decide +kernel⟩

end RequestRunner
