import RequestRunner.Proofs.Document.Regions

/-!
# The lines of a block

Every method line of a document gives one block. Its first line is the separator that waits for
the method line, or the method line itself; its last line is the last one before the next anchor
that is not blank.

## Main definitions

* `nextAnchor` — the first anchor behind a line, or the end of the document.
* `spanStart`, `spanEnd?` — the first and the last line of the block of a method line.
* `Block.headersIn`, `Block.bodyIn` — what the lines between two give to a block.

## Main results

* `Block.ofRegion?_eq_some` — what the block of a region consists of.
* `IsRegion.spanStart_eq`, `IsRegion.nextAnchor_eq`, `IsRegion.spanEnd?_eq` — the span of a
  region's method line is read off the region.
* `blocks_spans` — the blocks of a document, one for each method line.
-/

namespace RequestRunner

open LineKind

/-- The first anchor behind line `m`, or the number of lines if there is none. -/
def nextAnchor (kinds : List LineKind) (m : Nat) : Nat :=
  (firstLine? kinds isAnchor (m + 1) kinds.length).getD kinds.length

/-- The last separator before line `m` if no method line lies between the two, and `m` itself
otherwise. -/
def spanStart (kinds : List LineKind) (m : Nat) : Nat :=
  match lastLine? kinds isSeparator 0 m with
  | some s => if (firstLine? kinds isMethod (s + 1) m).isNone then s else m
  | none => m

/-- The last line from `m` up to just before the next anchor that is not blank. -/
def spanEnd? (kinds : List LineKind) (m : Nat) : Option Nat :=
  lastLine? kinds isFilled m (nextAnchor kinds m)

variable {lines : List String} {kinds : List LineKind} {r : Region} {m : Nat}

/-! ### Spans of regions -/

/-- Between its start and its method line a stretch holds no anchor. -/
lemma IsStretch.not_isAnchor_before {start stop i : Nat} (h : IsStretch kinds start (some m) stop)
    (h₁ : start < i) (h₂ : i < m) : ¬ lineIs kinds isAnchor i := by
  obtain ⟨-, hm, -⟩ := (h.methodLine_iff m).1 rfl
  rw [lineIs_isAnchor_iff]
  rintro (hs | hi)
  · have := h.eq_start_of_separator i (by omega) (by omega) hs
    omega
  · have := (h.methodLine_iff i).2 ⟨by omega, by omega, hi⟩
    simp only [Option.some.injEq] at this
    omega

/-- Behind its method line a stretch holds no anchor. -/
lemma IsStretch.not_isAnchor_behind {start stop i : Nat} (h : IsStretch kinds start (some m) stop)
    (h₁ : m < i) (h₂ : i < stop) : ¬ lineIs kinds isAnchor i := by
  obtain ⟨hm, -⟩ := (h.methodLine_iff m).1 rfl
  rw [lineIs_isAnchor_iff]
  rintro (hs | hi)
  · have := h.eq_start_of_separator i (by omega) h₂ hs
    omega
  · have := (h.methodLine_iff i).2 ⟨by omega, h₂, hi⟩
    simp only [Option.some.injEq] at this
    omega

/-- A region starts where the span of its method line does.

**Proof sketch.** If the region starts with a separator, that is the last one before the method
line, and no method line lies between. If it starts with its method line, a method line lies behind
every separator before it. -/
lemma IsRegion.spanStart_eq (h : IsRegion kinds r) (hm : r.methodLine = some m) :
    spanStart kinds m = r.start := by
  obtain ⟨start, methodLine, last⟩ := r
  simp only at hm
  subst hm
  have hs : IsStretch kinds start (some m) (last + 1) := h.toIsStretch
  obtain ⟨hle, hlt, hmethod⟩ := (hs.methodLine_iff m).1 rfl
  rcases Nat.lt_or_eq_of_le hle with hlt' | rfl
  · have hsep : lineIs kinds isSeparator start := by
      refine (lineIs_isAnchor_iff.1 hs.start_isAnchor).resolve_right fun hi => ?_
      have := (hs.methodLine_iff start).2 ⟨Nat.le_refl _, hs.start_lt, hi⟩
      simp only [Option.some.injEq] at this
      omega
    have hlast : lastLine? kinds isSeparator 0 m = some start :=
      lastLine?_eq_some_iff.2 ⟨Nat.zero_le _, hlt', hsep, fun j h₁ h₂ h₃ =>
        hs.not_isAnchor_before h₁ h₂ (lineIs_isAnchor_iff.2 (.inl h₃))⟩
    have hnone : firstLine? kinds isMethod (start + 1) m = none :=
      firstLine?_eq_none_iff.2 fun j h₁ h₂ h₃ =>
        hs.not_isAnchor_before h₁ h₂ (lineIs_isAnchor_iff.2 (.inr h₃))
    simp [spanStart, hlast, hnone]
  · unfold spanStart
    cases hlast : lastLine? kinds isSeparator 0 start with
    | none => rfl
    | some s =>
      obtain ⟨-, hslt, hsep, -⟩ := lastLine?_eq_some_iff.1 hlast
      obtain ⟨i, h₁, h₂, h₃⟩ := hs.no_separator_waits hmethod s hslt hsep
      have hsome : firstLine? kinds isMethod (s + 1) start ≠ none := fun hnone =>
        firstLine?_eq_none_iff.1 hnone i h₁ h₂ h₃
      simp [Option.isNone_iff_eq_none, hsome]

/-- A region ends right before the next anchor behind its method line. -/
lemma IsRegion.nextAnchor_eq (h : IsRegion kinds r) (hm : r.methodLine = some m) :
    nextAnchor kinds m = r.last + 1 := by
  have hs : IsStretch kinds r.start (some m) (r.last + 1) := hm ▸ h.toIsStretch
  obtain ⟨-, hlt, -⟩ := (hs.methodLine_iff m).1 rfl
  rcases h.last_ends with hend | hanchor
  · have hnone : firstLine? kinds isAnchor (m + 1) kinds.length = none :=
      firstLine?_eq_none_iff.2 fun j h₁ h₂ => hs.not_isAnchor_behind h₁ (hend ▸ h₂)
    rw [nextAnchor, hnone, Option.getD_none, hend]
  · have hsome : firstLine? kinds isAnchor (m + 1) kinds.length = some (r.last + 1) :=
      firstLine?_eq_some_iff.2 ⟨hlt, lt_length_of_lineIs hanchor, hanchor,
        fun j h₁ h₂ => hs.not_isAnchor_behind h₁ h₂⟩
    rw [nextAnchor, hsome, Option.getD_some]

/-- Between a line and the next anchor behind it there is none. -/
lemma not_isAnchor_of_lt_nextAnchor {i : Nat} (h₁ : m < i) (h₂ : i < nextAnchor kinds m) :
    ¬ lineIs kinds isAnchor i := by
  unfold nextAnchor at h₂
  cases hnext : firstLine? kinds isAnchor (m + 1) kinds.length with
  | none =>
    rw [hnext, Option.getD_none] at h₂
    exact firstLine?_eq_none_iff.1 hnext i h₁ h₂
  | some next =>
    rw [hnext, Option.getD_some] at h₂
    exact (firstLine?_eq_some_iff.1 hnext).2.2.2 i h₁ h₂

/-- The backwards search for a line that is not blank finds the last one there is, if it starts from
one.

**Proof sketch.** Induction on where the searches start. Both answer with a filled line, and both go
on before a blank one; the line from which `m` comes is filled, so that neither gets past it. -/
lemma lastLine?_eq_lastFilled {last : Nat} (hm : lineIs kinds isFilled m) (hle : m ≤ last)
    (hlt : last < kinds.length) :
    lastLine? kinds isFilled m (last + 1) = some (lastFilled kinds m last) := by
  induction last with
  | zero =>
    obtain rfl : m = 0 := Nat.le_zero.1 hle
    rw [lastLine?_succ hle, if_pos hm, lastFilled]
  | succ last ih =>
    rw [lastLine?_succ hle, lastFilled]
    by_cases hstop : last + 1 ≤ m
    · obtain rfl : m = last + 1 := Nat.le_antisymm hle hstop
      rw [if_pos hm, if_pos hstop]
    · rw [if_neg hstop]
      by_cases hblank : kinds[last + 1]? = some .blank
      · have hfilled : ¬ lineIs kinds isFilled (last + 1) := by
          simp [lineIs, hblank, isFilled, isBlank]
        rw [if_neg hfilled, if_pos hblank, ih (by omega) (by omega)]
      · have hfilled : lineIs kinds isFilled (last + 1) := by
          refine lineIs_isFilled_iff.2 ⟨hlt, fun hb => hblank ?_⟩
          obtain ⟨kind, hk, hkb⟩ := lineIs_iff.1 hb
          rw [hk, isBlank_iff.1 hkb]
        rw [if_pos hfilled, if_neg hblank]

/-- A method line is not blank. -/
lemma IsRegion.isFilled_methodLine (h : IsRegion kinds r) (hm : r.methodLine = some m) :
    lineIs kinds isFilled m := by
  obtain ⟨-, -, hmethod⟩ := (h.methodLine_iff m).1 hm
  obtain ⟨verb, url, hk⟩ := lineIs_isMethod_iff.1 hmethod
  simp [lineIs, hk, isFilled, isBlank]

/-- The span of a region's method line ends with the region's last line that is not blank. -/
lemma IsRegion.spanEnd?_eq (h : IsRegion kinds r) (hm : r.methodLine = some m) :
    spanEnd? kinds m = some (lastFilled kinds m r.last) := by
  obtain ⟨-, hlt, -⟩ := (h.methodLine_iff m).1 hm
  rw [spanEnd?, h.nextAnchor_eq hm]
  exact lastLine?_eq_lastFilled (h.isFilled_methodLine hm) (Nat.lt_succ_iff.1 hlt) h.stop_le

/-! ### Blocks of regions -/

namespace Block

/-- The headers that the lines behind `m` up to `last` give: those of the header lines before the
first blank one. -/
def headersIn (kinds : List LineKind) (m last : Nat) : Headers :=
  .ofKinds ((kinds.extract (m + 1) (last + 1)).takeWhile (· != .blank))

/-- The body that the lines behind `m` up to `last` give: the text behind the first blank one. -/
def bodyIn (lines : List String) (kinds : List LineKind) (m last : Nat) : String :=
  match (kinds.extract (m + 1) (last + 1)).findIdx? (· == .blank) with
  | some gap => Text.joinLines (lines.extract (m + gap + 2) (last + 1))
  | none => ""

/-- The block of a region with a method line: the end is the last filled line of the region, and
headers and body are those of the lines up to it.

**Proof sketch.** The two forms differ in how they cut the lines out, from one number to another or
by a number of lines. Both ways to cut are the same. -/
lemma ofRegion?_of_methodLine {verb : Method} {url : String} (hm : r.methodLine = some m)
    (hk : kinds[m]? = some (.method verb url)) :
    ofRegion? lines kinds r =
      let last := lastFilled kinds m r.last
      some ⟨verb, url, headersIn kinds m last, bodyIn lines kinds m last, r.start, last, m⟩ := by
  simp only [ofRegion?, hm, hk, Option.bind_eq_bind, Option.bind_some, Option.some.injEq,
    Block.mk.injEq, true_and, and_true]
  refine ⟨?_, ?_⟩
  · rw [headersIn, List.extract_eq_take_drop, Nat.add_sub_add_right]
  · rw [bodyIn, List.extract_eq_take_drop, Nat.add_sub_add_right]
    cases List.findIdx? (· == .blank) (((kinds.drop (m + 1)).take
      (lastFilled kinds m r.last - m))) with
    | none => rfl
    | some gap =>
      have hcount : lastFilled kinds m r.last + 1 - (m + gap + 2) =
          lastFilled kinds m r.last - (m + gap + 1) := by omega
      simp only [List.extract_eq_take_drop, hcount]

/-- What the block of a region consists of. -/
lemma ofRegion?_eq_some {b : Block} (h : ofRegion? lines kinds r = some b) :
    r.methodLine = some b.methodLine ∧
      kinds[b.methodLine]? = some (.method b.method b.url) ∧
      b.headers = headersIn kinds b.methodLine b.endLine ∧
      b.body = bodyIn lines kinds b.methodLine b.endLine ∧
      b.startLine = r.start ∧ b.endLine = lastFilled kinds b.methodLine r.last := by
  cases hm : r.methodLine with
  | none => simp [ofRegion?, hm] at h
  | some m =>
    rcases hk : kinds[m]? with _ | (_ | ⟨verb, url⟩ | _ | _ | _ | _)
    case some.method =>
      rw [ofRegion?_of_methodLine hm hk] at h
      obtain rfl := Option.some.inj h
      exact ⟨rfl, hk, rfl, rfl, rfl, rfl⟩
    all_goals simp [ofRegion?, hm, hk] at h

/-- A region gives a block for the method line it holds. -/
lemma map_methodLine_ofRegion? (h : IsRegion kinds r) :
    (ofRegion? lines kinds r).map Block.methodLine = r.methodLine := by
  cases hm : r.methodLine with
  | none => simp [ofRegion?, hm]
  | some m =>
    obtain ⟨verb, url, hk⟩ := lineIs_isMethod_iff.1 ((h.methodLine_iff m).1 hm).2.2
    rw [ofRegion?_of_methodLine hm hk]
    rfl

end Block

/-- The blocks of a document given by its lines. -/
def blocksOfLines (lines : List String) : List Block :=
  (regions (lines.map LineKind.ofLine)).filterMap
    (Block.ofRegion? lines (lines.map LineKind.ofLine))

/-- A document has the blocks of its lines. -/
lemma blocks_eq_blocksOfLines (document : String) :
    blocks document = blocksOfLines (Text.lines document) := rfl

/-- The block is the one of its method line in a document of these lines and kinds: it has the
line's verb and address, the line's span, and what the lines of the span give. -/
structure Block.Fits (lines : List String) (kinds : List LineKind) (b : Block) : Prop where
  getElem?_methodLine : kinds[b.methodLine]? = some (.method b.method b.url)
  headers_eq : b.headers = headersIn kinds b.methodLine b.endLine
  body_eq : b.body = bodyIn lines kinds b.methodLine b.endLine
  startLine_eq : b.startLine = spanStart kinds b.methodLine
  spanEnd?_eq : spanEnd? kinds b.methodLine = some b.endLine
  startLine_le : b.startLine ≤ b.methodLine

/-- The block of a region fits the document, and the region holds it. -/
lemma IsRegion.fits {b : Block} (hr : IsRegion kinds r)
    (hb : Block.ofRegion? lines kinds r = some b) :
    b.Fits lines kinds ∧ r.start = b.startLine ∧ b.endLine ≤ r.last := by
  obtain ⟨hm, hk, hheaders, hbody, hstart, hend⟩ := Block.ofRegion?_eq_some hb
  have hspan := hr.spanEnd?_eq hm
  rw [← hend] at hspan
  refine ⟨⟨hk, hheaders, hbody, ?_, hspan, ?_⟩, hstart.symm, ?_⟩
  · rw [hstart, hr.spanStart_eq hm]
  · rw [hstart]
    exact ((hr.methodLine_iff _).1 hm).1
  · have hlt := (lastLine?_eq_some_iff.1 hspan).2.1
    rw [hr.nextAnchor_eq hm] at hlt
    exact Nat.lt_succ_iff.1 hlt

/-- Every block that lines give fits them. -/
lemma fits_of_mem_blocksOfLines {b : Block} (hb : b ∈ blocksOfLines lines) :
    b.Fits lines (lines.map LineKind.ofLine) := by
  obtain ⟨r, hr, h⟩ := List.mem_filterMap.1 hb
  exact ((isRegion_of_mem_regions hr).fits h).1

/-- **Every block of a document fits it.** This is all that later files use of how blocks are read.
-/
lemma fits_of_mem_blocks {document : String} {b : Block} (hb : b ∈ blocks document) :
    b.Fits (Text.lines document) (lineKinds document) :=
  fits_of_mem_blocksOfLines hb

/-- A block of a document ends with a line that is not blank, and all lines behind it up to the next
anchor are blank. -/
lemma Block.Fits.endLine_spec {b : Block} (h : b.Fits lines kinds) :
    b.methodLine ≤ b.endLine ∧ b.endLine < nextAnchor kinds b.methodLine ∧
      lineIs kinds isFilled b.endLine ∧
      ∀ j, b.endLine < j → j < nextAnchor kinds b.methodLine → ¬ lineIs kinds isFilled j :=
  lastLine?_eq_some_iff.1 h.spanEnd?_eq

/-- **Blocks and method lines.** A document has one block for each of its method lines, in order,
with the verb and the address of the line. The block starts at the last separator before the method
line unless another method line lies between, and else at the method line; it ends with the last
line before the next anchor that is not blank. So blocks lie inside the document and do not overlap.

**Proof sketch.** Each region gives a block for the method line it holds, and the regions hold
every method line once, in order (`filterMap_methodLine_regions`). The span of a method line is
read off its region (`IsRegion.spanStart_eq`, `IsRegion.spanEnd?_eq`), and the regions lie one
behind the other (`pairwise_regions`). -/
theorem blocks_spans (document : String) :
    let kinds := lineKinds document
    (blocks document).map Block.methodLine = kinds.findIdxs isMethod ∧
      (∀ b ∈ blocks document,
        kinds[b.methodLine]? = some (.method b.method b.url) ∧
        b.startLine = spanStart kinds b.methodLine ∧
        spanEnd? kinds b.methodLine = some b.endLine ∧
        b.startLine ≤ b.methodLine ∧ b.methodLine ≤ b.endLine ∧
        b.endLine < (Text.lines document).length) ∧
      (blocks document).Pairwise fun b c => b.endLine < c.startLine := by
  intro kinds
  refine ⟨?_, ?_, ?_⟩
  · have hmap : ∀ r ∈ regions kinds,
        (Block.ofRegion? (Text.lines document) kinds r).map Block.methodLine = r.methodLine :=
      fun r hr => Block.map_methodLine_ofRegion? (isRegion_of_mem_regions hr)
    calc (blocks document).map Block.methodLine
        = (regions kinds).filterMap fun r =>
            (Block.ofRegion? (Text.lines document) kinds r).map Block.methodLine :=
          List.map_filterMap
      _ = (regions kinds).filterMap Region.methodLine := List.filterMap_congr hmap
      _ = kinds.findIdxs isMethod := filterMap_methodLine_regions
  · intro b hb
    have hfits : b.Fits (Text.lines document) kinds := fits_of_mem_blocks hb
    obtain ⟨hle, -, hfilled, -⟩ := hfits.endLine_spec
    have hlt : b.endLine < kinds.length := lt_length_of_lineIs hfilled
    rw [show kinds.length = (Text.lines document).length from List.length_map _] at hlt
    exact ⟨hfits.getElem?_methodLine, hfits.startLine_eq, hfits.spanEnd?_eq, hfits.startLine_le,
      hle, hlt⟩
  · refine List.pairwise_filterMap.2 ?_
    refine List.Pairwise.imp_of_mem ?_ pairwise_regions
    intro r r' hr hr' hlt b hb c hc
    obtain ⟨-, -, hend⟩ := (isRegion_of_mem_regions hr).fits hb
    obtain ⟨-, hstart, -⟩ := (isRegion_of_mem_regions hr').fits hc
    omega

example :
    (blocks "###\n###\nGET /a\n\nPOST /b\n\n").map (fun b => (b.startLine, b.methodLine, b.endLine)) =
      [(1, 2, 2), (4, 4, 4)] := by
  decide +kernel

end RequestRunner
