import RequestRunner.Proofs.Document.Concatenation
import RequestRunner.Proofs.Document.Contents
import RequestRunner.Proofs.Document.LineForms

/-!
# Writing blocks and reading them back

The blocks of a document can be written as a document again, which has the same requests. What a
block needs for that is that its address, its headers and its body have the forms that lines give
them; every block that was read from a document has them.

## Main definitions

* `Block.Renderable` — the forms that let a block be read back.
* `Block.placedAt`, `placed` — where blocks stand after they are written one behind the other.

## Main results

* `renderable_of_mem_blocks` — blocks of a document can be read back.
* `blocksOfLines_toLines` — the lines of one block give the block.
* `blocks_render_of_renderable` — a document of such blocks gives these blocks.
* `blocks_render` — writing what was read loses nothing.
-/

namespace RequestRunner

open LineKind

/-- A block whose parts have the forms that lines give to them: an address and header fields as a
line gives them, each name once, and lines of a body without anchors, the last of which is not
blank. None of these goes over a line's end. -/
structure Block.Renderable (b : Block) : Prop where
  isAddress_url : IsAddress b.url.toList
  url_in_line : '\n' ∉ b.url.toList
  isField_of_mem : ∀ h ∈ b.headers.entries, IsField h.name.toList h.value.toList
  header_in_line : ∀ h ∈ b.headers.entries, '\n' ∉ h.name.toList ∧ '\n' ∉ h.value.toList
  nodup_names : b.headers.names.Nodup
  not_isAnchor_of_mem : ∀ line ∈ Text.splitText '\n' b.body, ¬ (ofLine line).isAnchor
  body_filled : b.body ≠ "" →
    ∃ line, (Text.splitText '\n' b.body).getLast? = some line ∧ ofLine line ≠ .blank

variable {document : String} {b : Block} {bs : List Block}

/-! ### Blocks that were read -/

/-- A kind that a document has is that of a line without a line feed. -/
lemma exists_line_of_mem {kind : LineKind} (h : kind ∈ lineKinds document) :
    ∃ line, ofLine line = kind ∧ '\n' ∉ line.toList := by
  obtain ⟨line, hline, hkind⟩ := List.mem_map.1 h
  exact ⟨line, hkind, Text.not_mem_of_mem_lines hline⟩

/-- The address of a block comes from its method line. -/
lemma isAddress_of_mem_blocks (hb : b ∈ blocks document) :
    IsAddress b.url.toList ∧ '\n' ∉ b.url.toList := by
  have hmem := List.mem_of_getElem? (fits_of_mem_blocks hb).getElem?_methodLine
  obtain ⟨line, hline, hnewline⟩ := exists_line_of_mem hmem
  obtain ⟨haddress, hsub⟩ := isAddress_of_ofLine hline
  exact ⟨haddress, fun h => hnewline (hsub _ h)⟩

/-- The headers of a block come from header lines: insertions make up no entry
(`Headers.mem_of_mem_ofPairs`). -/
lemma isField_of_mem_blocks (hb : b ∈ blocks document) {h : Header} (hh : h ∈ b.headers.entries) :
    IsField h.name.toList h.value.toList ∧ '\n' ∉ h.name.toList ∧ '\n' ∉ h.value.toList := by
  rw [(fits_of_mem_blocks hb).headers_eq, Block.headersIn, Headers.ofKinds_eq_ofPairs] at hh
  have hkind := mem_of_mem_headerFields (Headers.mem_of_mem_ofPairs hh)
  have hmem : .header h.name h.value ∈ lineKinds document := by
    rw [List.extract_eq_take_drop] at hkind
    exact List.mem_of_mem_drop (List.mem_of_mem_take ((List.takeWhile_prefix _).subset hkind))
  obtain ⟨line, hline, hnewline⟩ := exists_line_of_mem hmem
  obtain ⟨hfield, hname, hvalue⟩ := isField_of_ofLine hline
  exact ⟨hfield, fun h => hnewline (hname _ h), fun h => hnewline (hvalue _ h)⟩

/-- No line of a body is an anchor: all lines of a block behind its method line come before the next
one.

**Proof sketch.** The lines of the body are lines of the document from behind the blank line up to
the end of the block (`splitText_body`), and the end comes before the next anchor. -/
lemma not_isAnchor_of_mem_body (hb : b ∈ blocks document) {line : String}
    (hline : line ∈ Text.splitText '\n' b.body) : ¬ (ofLine line).isAnchor := by
  cases hgap : firstLine? (lineKinds document) isBlank (b.methodLine + 1) b.endLine with
  | none =>
    rw [body_eq_empty hb hgap] at hline
    obtain rfl : line = "" := List.mem_singleton.1 hline
    decide
  | some gap =>
    obtain ⟨hfirst, -⟩ := firstLine?_eq_some_iff.1 hgap
    obtain ⟨-, hnext, -⟩ := (fits_of_mem_blocks hb).endLine_spec
    rw [(splitText_body hb hgap).2.1, List.extract_eq_take_drop] at hline
    obtain ⟨i, hi⟩ := List.mem_iff_getElem?.1 hline
    rw [List.getElem?_take, List.getElem?_drop] at hi
    split at hi
    · rename_i hlt
      have hkind : (lineKinds document)[gap + 1 + i]? = some (ofLine line) := by
        rw [lineKinds, List.getElem?_map, hi, Option.map_some]
      have hbehind : b.methodLine < gap + 1 + i := by omega
      have hbefore : gap + 1 + i < nextAnchor (lineKinds document) b.methodLine := by omega
      have hnone := not_isAnchor_of_lt_nextAnchor hbehind hbefore
      rwa [lineIs_of_getElem? hkind] at hnone
    · cases hi

/-- **Blocks that were read can be read back.** Whatever the document was, the parts of its blocks
have the forms that lines give to them.

**Proof sketch.** What is asked of the parts one by one: the address and the headers were read from
lines and have the forms that lines give them, names are set only once, and the body is split into
lines of the document that are no anchors, of which the last one is filled. -/
theorem renderable_of_mem_blocks (hb : b ∈ blocks document) : b.Renderable where
  isAddress_url := (isAddress_of_mem_blocks hb).1
  url_in_line := (isAddress_of_mem_blocks hb).2
  isField_of_mem _ hh := (isField_of_mem_blocks hb hh).1
  header_in_line _ hh := (isField_of_mem_blocks hb hh).2
  nodup_names := by
    rw [(fits_of_mem_blocks hb).headers_eq, Block.headersIn, Headers.ofKinds_eq_ofPairs]
    exact Headers.nodup_names_ofPairs _
  not_isAnchor_of_mem _ hline := not_isAnchor_of_mem_body hb hline
  body_filled hbody := by
    cases hgap : firstLine? (lineKinds document) isBlank (b.methodLine + 1) b.endLine with
    | none => exact absurd (body_eq_empty hb hgap) hbody
    | some gap => exact (splitText_body hb hgap).2.2

/-! ### The lines of one block -/

namespace Block

/-- The kinds of the lines that write the headers and the body of a block. -/
def innerKinds (b : Block) : List LineKind :=
  b.headers.entries.map (fun h => .header h.name h.value) ++
    if b.body.isEmpty then [] else .blank :: (Text.splitText '\n' b.body).map ofLine

/-- The block after its lines are written from line `first` on. -/
def placedAt (first : Nat) (b : Block) : Block :=
  { b with
    startLine := first
    endLine := first + (b.toLines.length - 1)
    methodLine := first + 1 }

/-- The kinds of the lines that write a block: a separator, its method line, its headers, and behind
a blank line its body. -/
lemma Renderable.map_ofLine_toLines (h : b.Renderable) :
    b.toLines.map ofLine = .separator :: .method b.method b.url :: b.innerKinds := by
  have hheaders : b.headers.entries.map (fun e => ofLine (" " ++ e.name ++ ": " ++ e.value)) =
      b.headers.entries.map fun e => .header e.name e.value :=
    List.map_congr_left fun e he => ofLine_field (h.isField_of_mem e he)
  have hsep : ofLine "###" = .separator := by decide
  have hblank : ofLine "" = .blank := by decide
  rw [toLines, innerKinds, List.map_append, List.map_append, List.map_map]
  simp only [List.map_cons, List.map_nil, hsep, ofLine_request h.isAddress_url,
    Function.comp_def, hheaders, List.cons_append, List.nil_append]
  split
  · rfl
  · rw [List.map_cons, hblank]

/-- A block takes two lines more than its headers and its body. -/
lemma Renderable.length_toLines (h : b.Renderable) : b.toLines.length = b.innerKinds.length + 2 := by
  rw [← List.length_map ofLine, h.map_ofLine_toLines]
  rfl

/-- Behind the method line no line that writes a block is an anchor, so that the block is one
region. -/
lemma Renderable.not_isAnchor_of_mem_innerKinds (h : b.Renderable) :
    ∀ kind ∈ b.innerKinds, ¬ kind.isAnchor := by
  intro kind hkind
  rw [innerKinds, List.mem_append] at hkind
  rcases hkind with hkind | hkind
  · obtain ⟨e, -, rfl⟩ := List.mem_map.1 hkind
    simp [isAnchor, isSeparator, isMethod]
  · split at hkind
    · exact absurd hkind List.not_mem_nil
    · rcases List.mem_cons.1 hkind with rfl | hkind
      · decide
      · obtain ⟨line, hline, rfl⟩ := List.mem_map.1 hkind
        exact h.not_isAnchor_of_mem line hline

/-- The last line of a block is not blank.

**Proof sketch.** Without a body the last line is the method line or a header. With one it is the
last line of the body, which is not blank. -/
lemma Renderable.getLast?_innerKinds (h : b.Renderable) :
    b.innerKinds.getLast? ≠ some .blank := by
  rw [innerKinds]
  split
  · rw [List.append_nil, List.getLast?_map]
    cases b.headers.entries.getLast? <;> simp
  · rename_i hbody
    have hne : b.body ≠ "" := fun he => hbody (by rw [he]; rfl)
    obtain ⟨line, hline, hfilled⟩ := h.body_filled hne
    obtain ⟨first, rest, hlines⟩ : ∃ first rest, Text.splitText '\n' b.body = first :: rest :=
      List.exists_cons_of_ne_nil fun hnil => by simp [hnil] at hline
    rw [List.getLast?_append_cons, hlines, List.map_cons, List.getLast?_cons_cons, ← List.map_cons,
      ← hlines, List.getLast?_map, hline, Option.map_some]
    exact fun he => hfilled (Option.some.inj he)

/-- The headers end at the first blank line. -/
lemma takeWhile_innerKinds :
    b.innerKinds.takeWhile (· != .blank) =
      b.headers.entries.map fun h => .header h.name h.value := by
  rw [innerKinds, List.takeWhile_append_of_pos]
  · split <;> simp
  · intro kind hkind
    obtain ⟨e, -, rfl⟩ := List.mem_map.1 hkind
    rfl

/-- The first blank line comes right behind the headers if there is a body. -/
lemma findIdx?_innerKinds :
    b.innerKinds.findIdx? (· == .blank) =
      if b.body.isEmpty then none else some b.headers.entries.length := by
  have hheaders : (b.headers.entries.map fun h => LineKind.header h.name h.value).findIdx?
      (· == .blank) = none := by
    rw [List.findIdx?_eq_none_iff]
    intro kind hkind
    obtain ⟨e, -, rfl⟩ := List.mem_map.1 hkind
    rfl
  rw [innerKinds, List.findIdx?_append, hheaders, List.length_map]
  split <;> simp [List.findIdx?_cons]

/-- A run of lines behind a method line that ends with a line that is not blank ends there. -/
lemma lastFilled_two_add {inner : List LineKind} {k k' : LineKind}
    (h : inner.getLast? ≠ some .blank) :
    lastFilled (k :: k' :: inner) 1 (inner.length + 1) = inner.length + 1 := by
  cases hn : inner.length with
  | zero => rw [lastFilled, if_pos (Nat.le_refl _)]
  | succ n =>
    rw [List.getLast?_eq_getElem?, hn, Nat.add_sub_cancel] at h
    have hlast : (k :: k' :: inner)[n + 1 + 1]? ≠ some .blank := h
    rw [lastFilled, if_neg (by omega), if_neg hlast]

/-- The headers of a block are read back from the lines that write it. -/
lemma Renderable.headersIn_eq (h : b.Renderable) {k k' : LineKind} :
    headersIn (k :: k' :: b.innerKinds) 1 (b.innerKinds.length + 1) = b.headers := by
  have hinner : (k :: k' :: b.innerKinds).extract 2 (b.innerKinds.length + 2) = b.innerKinds := by
    simp
  rw [headersIn, hinner, takeWhile_innerKinds, Headers.ofKinds_eq_ofPairs,
    headerFields_map_header]
  exact Headers.ofPairs_toPairs h.nodup_names

/-- The body's lines come last. -/
lemma drop_toLines (hbody : ¬ b.body.isEmpty) :
    b.toLines.drop (b.headers.entries.length + 3) = Text.splitText '\n' b.body := by
  have hfront : (["###", b.method.name ++ " " ++ b.url] ++
      b.headers.entries.map fun h => " " ++ h.name ++ ": " ++ h.value).length =
        b.headers.entries.length + 2 := by
    simp
  rw [toLines, if_neg hbody, show b.headers.entries.length + 3 = b.headers.entries.length + 2 + 1
    from rfl, ← hfront, List.drop_length_add_append]
  rfl

/-- The body of a block is read back from the lines that write it: the lines behind the first blank
one, joined again. -/
lemma Renderable.bodyIn_eq (h : b.Renderable) {k k' : LineKind} :
    bodyIn b.toLines (k :: k' :: b.innerKinds) 1 (b.innerKinds.length + 1) = b.body := by
  have hinner : (k :: k' :: b.innerKinds).extract 2 (b.innerKinds.length + 2) = b.innerKinds := by
    simp
  rw [bodyIn, hinner, findIdx?_innerKinds]
  by_cases hbody : b.body.isEmpty
  · rw [if_pos hbody, String.isEmpty_iff.1 hbody]
  · rw [if_neg hbody]
    simp only
    rw [List.extract_eq_take_drop, ← h.length_toLines, Nat.add_comm 1, drop_toLines hbody,
      List.take_of_length_le, Text.joinLines_splitText]
    rw [← drop_toLines hbody, List.length_drop]

/-- **The lines of a block give the block.**

**Proof sketch.** They are one region, since the separator in front is followed by the method line
and no anchor comes behind it. The last line is not blank, so that the block ends with it, and
headers and body are read back. -/
theorem blocksOfLines_toLines (h : b.Renderable) : blocksOfLines b.toLines = [b.placedAt 0] := by
  have hregions : regions (.separator :: .method b.method b.url :: b.innerKinds) =
      [⟨0, some 1, b.innerKinds.length + 1⟩] := by
    have hclose : regionsFrom 2 (some ⟨0, some 1⟩) b.innerKinds =
        [⟨0, some 1, 2 + b.innerKinds.length - 1⟩] :=
      regionsFrom_of_forall_not_isAnchor h.not_isAnchor_of_mem_innerKinds
    rw [show 2 + b.innerKinds.length - 1 = b.innerKinds.length + 1 by omega] at hclose
    exact hclose
  have hblock : ofRegion? b.toLines (.separator :: .method b.method b.url :: b.innerKinds)
      ⟨0, some 1, b.innerKinds.length + 1⟩ = some (b.placedAt 0) := by
    rw [ofRegion?_of_methodLine rfl rfl]
    simp only [lastFilled_two_add h.getLast?_innerKinds, h.headersIn_eq, h.bodyIn_eq, placedAt,
      h.length_toLines, Nat.zero_add]
    rfl
  rw [blocksOfLines, h.map_ofLine_toLines, hregions, List.filterMap_cons, hblock,
    List.filterMap_nil]

/-- A block that is moved after it was placed is placed further down. -/
lemma shift_placedAt (first d : Nat) : (b.placedAt first).shift d = b.placedAt (first + d) := by
  simp only [placedAt, shift, Block.mk.injEq, true_and]
  omega

/-- No line that writes a block goes over its end: neither the address nor a header has a line feed
in it, and the lines of the body have been split at theirs.

**Proof sketch.** By the part of the block that the line is of: its heading and its method line, its
headers, or the lines of its body with the blank one before them. -/
lemma Renderable.not_mem_of_mem_toLines (h : b.Renderable) {line : String}
    (hline : line ∈ b.toLines) : '\n' ∉ line.toList := by
  rw [toLines, List.mem_append, List.mem_append] at hline
  rcases hline with (hline | hline) | hline
  · rcases List.mem_cons.1 hline with rfl | hline
    · decide
    · obtain rfl := List.mem_singleton.1 hline
      have hname : '\n' ∉ b.method.name.toList := by cases b.method <;> decide
      simp [String.toList_append, hname, h.url_in_line]
  · obtain ⟨e, he, rfl⟩ := List.mem_map.1 hline
    obtain ⟨hname, hvalue⟩ := h.header_in_line e he
    simp [String.toList_append, hname, hvalue]
  · split at hline
    · exact absurd hline List.not_mem_nil
    · rcases List.mem_cons.1 hline with rfl | hline
      · decide
      · exact Text.not_mem_of_mem_splitText hline

end Block

/-! ### The lines of all blocks -/

/-- The blocks after their lines are written one behind the other, from line `first` on. -/
def placed (first : Nat) : List Block → List Block
  | [] => []
  | b :: bs => b.placedAt first :: placed (first + b.toLines.length) bs

/-- Blocks that are moved after they were placed are placed further down. -/
lemma map_shift_placed (first d : Nat) (bs : List Block) :
    (placed first bs).map (·.shift d) = placed (first + d) bs := by
  induction bs generalizing first with
  | nil => rfl
  | cons b bs ih =>
    rw [placed, List.map_cons, Block.shift_placedAt, ih, placed, Nat.add_right_comm]

/-- Placing blocks leaves their number as it is. -/
lemma length_placed (first : Nat) (bs : List Block) : (placed first bs).length = bs.length := by
  induction bs generalizing first with
  | nil => rfl
  | cons b bs ih => rw [placed, List.length_cons, ih, List.length_cons]

/-- Each block is placed behind the lines of the blocks before it. -/
lemma getElem?_placed (first : Nat) (bs : List Block) (i : Nat) :
    (placed first bs)[i]? =
      bs[i]?.map (·.placedAt (first + ((bs.take i).flatMap Block.toLines).length)) := by
  induction bs generalizing first i with
  | nil => rfl
  | cons b bs ih =>
    cases i with
    | zero => rfl
    | succ i =>
      rw [placed, List.getElem?_cons_succ, ih, List.getElem?_cons_succ, List.take_succ_cons,
        List.flatMap_cons, List.length_append, Nat.add_assoc]

/-- The lines that write blocks start with a separator. -/
lemma startsRegion_head?_flatMap_toLines {kinds : List LineKind} :
    ∀ line ∈ (bs.flatMap Block.toLines).head?, StartsRegion kinds (ofLine line) := by
  intro line hline
  cases bs with
  | nil => cases hline
  | cons b bs =>
    obtain rfl : "###" = line := Option.some.inj hline
    exact .inl (by decide)

/-- The lines of blocks give the blocks.

**Proof sketch.** Induction on the blocks: the separator of the next block cuts its lines off
(`blocksOfLines_append`). -/
lemma blocksOfLines_flatMap_toLines (h : ∀ b ∈ bs, b.Renderable) :
    blocksOfLines (bs.flatMap Block.toLines) = placed 0 bs := by
  induction bs with
  | nil => rfl
  | cons b bs ih =>
    rw [List.flatMap_cons, blocksOfLines_append startsRegion_head?_flatMap_toLines,
      Block.blocksOfLines_toLines (h b List.mem_cons_self),
      ih fun b' hb' => h b' (List.mem_cons_of_mem b hb'), map_shift_placed, placed]
    rfl

/-- The document that holds some blocks has the blocks' lines. -/
lemma lines_render (h : ∀ b ∈ bs, b.Renderable) :
    Text.lines (render bs) = bs.flatMap Block.toLines := by
  refine Text.lines_join_crlf fun line hline => ?_
  obtain ⟨b, hb, hline⟩ := List.mem_flatMap.1 hline
  exact (h b hb).not_mem_of_mem_toLines hline

/-- **Blocks that can be read back are read back**, each where its lines stand. -/
theorem blocks_render_of_renderable (h : ∀ b ∈ bs, b.Renderable) :
    blocks (render bs) = placed 0 bs := by
  rw [blocks_eq_blocksOfLines, lines_render h, blocksOfLines_flatMap_toLines h]

/-- The lines of a block stand in the document right behind those of the blocks before it. -/
lemma getElem?_flatMap_toLines {i k : Nat} (hi : bs[i]? = some b) (hk : k < b.toLines.length) :
    (bs.flatMap Block.toLines)[((bs.take i).flatMap Block.toLines).length + k]? = b.toLines[k]? := by
  obtain ⟨hlt, hb⟩ := List.getElem?_eq_some_iff.1 hi
  have hcut : bs.flatMap Block.toLines =
      (bs.take i).flatMap Block.toLines ++
        (b.toLines ++ (bs.drop (i + 1)).flatMap Block.toLines) := by
    rw [← List.flatMap_cons, ← hb, ← List.drop_eq_getElem_cons hlt, ← List.flatMap_append,
      List.take_append_drop]
  rw [hcut, List.getElem?_append_right (Nat.le_add_right _ _), Nat.add_sub_cancel_left,
    List.getElem?_append_left hk]

/-- **Writing what was read loses nothing.** The blocks of a document, written as a document and
read again, are as many, and each has its verb, its address, its headers in their order and its
body. A block now starts at a separator of its own, behind the lines of the blocks before it, with
its method line next.

**Proof sketch.** Blocks of a document can be read back (`renderable_of_mem_blocks`), so that the
second reading gives them with new places (`blocks_render_of_renderable`). -/
theorem blocks_render (document : String) :
    let bs := blocks document
    let again := blocks (render bs)
    again.length = bs.length ∧
      ∀ i b, bs[i]? = some b → ∃ b', again[i]? = some b' ∧
        b'.method = b.method ∧ b'.url = b.url ∧ b'.headers = b.headers ∧ b'.body = b.body ∧
        b'.startLine = ((bs.take i).flatMap Block.toLines).length ∧
        b'.methodLine = b'.startLine + 1 ∧
        (Text.lines (render bs))[b'.startLine]? = some "###" ∧
        (Text.lines (render bs))[b'.methodLine]? = some (b.method.name ++ " " ++ b.url) := by
  intro bs again
  have hrenderable : ∀ b ∈ bs, b.Renderable := fun b hb => renderable_of_mem_blocks hb
  have hagain : again = placed 0 bs := blocks_render_of_renderable hrenderable
  refine ⟨by rw [hagain, length_placed], fun i b hi => ?_⟩
  refine ⟨b.placedAt ((bs.take i).flatMap Block.toLines).length, ?_, rfl, rfl, rfl, rfl, rfl, rfl,
    ?_, ?_⟩
  · rw [hagain, getElem?_placed, hi, Option.map_some, Nat.zero_add]
  · have hfirst : 0 < b.toLines.length := by simp [Block.toLines]
    rw [lines_render hrenderable]
    exact getElem?_flatMap_toLines hi hfirst
  · have hsecond : 1 < b.toLines.length := by simp [Block.toLines]
    rw [lines_render hrenderable]
    exact getElem?_flatMap_toLines hi hsecond

end RequestRunner
