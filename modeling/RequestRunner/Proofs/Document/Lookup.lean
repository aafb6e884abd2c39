import Mathlib.Data.List.Perm.Subperm
import RequestRunner.Proofs.Document.Spans

/-!
# The block at a line

Every line from the first anchor on lies in the region of one anchor or of a separator with its
method line. A line is found in a block if its region has a method line and the line is not one of
the blank lines that end the region.

## Main definitions

* `InRegionOf` — a line lies in the region of a method line.
* `InIdleRegion` — a line lies in the region of a separator without a method line.
* `InBlankEnd` — from a line on the region of a method line is blank.

## Main results

* `InRegionOf.unique`, `exists_inRegionOf_iff` — which lines lie in the region of a method line.
* `pairwise_nextAnchor_le_startLine` — blocks lie in regions one behind the other.
* `Block.Fits.covers_iff` — a block covers its region without the blank end.
* `blockAt?_blocks_spec` — the block at a line, or why there is none.
-/

namespace RequestRunner

open LineKind
open scoped List

/-- The line `n` lies in the region of the method line `m`: not before the separator that waits for
`m`, or `m` itself if none does, and before the next anchor behind `m`. -/
structure InRegionOf (kinds : List LineKind) (m n : Nat) : Prop where
  isMethod : lineIs kinds isMethod m
  spanStart_le : spanStart kinds m ≤ n
  lt_nextAnchor : n < nextAnchor kinds m

/-- The line lies in the region of a separator that a further separator or the end of the document
follows before any method line. -/
def InIdleRegion (kinds : List LineKind) (n : Nat) : Prop :=
  ∃ s ≤ n, lineIs kinds isSeparator s ∧ (∀ i, s < i → i ≤ n → ¬ lineIs kinds isAnchor i) ∧
    ∀ m, s < m → lineIs kinds isMethod m → ∃ i, s < i ∧ i < m ∧ lineIs kinds isSeparator i

/-- The line stands behind the method line `m`, and from it up to just before the next anchor all
lines are blank. -/
def InBlankEnd (kinds : List LineKind) (m n : Nat) : Prop :=
  m < n ∧ ∀ i, n ≤ i → i < nextAnchor kinds m → lineIs kinds isBlank i

variable {document : String} {lines : List String} {kinds : List LineKind} {b : Block}
  {bs bs' : List Block} {m m' n s : Nat}

/-! ### The ends of regions -/

/-- The next anchor, or the end of the document, lies within it. -/
lemma nextAnchor_le_length : nextAnchor kinds m ≤ kinds.length := by
  unfold nextAnchor
  cases hnext : firstLine? kinds isAnchor (m + 1) kinds.length with
  | none => exact Nat.le_refl _
  | some next => exact Nat.le_of_lt (firstLine?_eq_some_iff.1 hnext).2.1

/-- A line behind `m` without an anchor in between stands before the next one. -/
lemma lt_nextAnchor_of_not_isAnchor (hn : n < kinds.length)
    (h : ∀ i, m < i → i ≤ n → ¬ lineIs kinds isAnchor i) : n < nextAnchor kinds m := by
  unfold nextAnchor
  cases hnext : firstLine? kinds isAnchor (m + 1) kinds.length with
  | none => exact hn
  | some next =>
    obtain ⟨hm, -, hanchor, -⟩ := firstLine?_eq_some_iff.1 hnext
    exact Nat.lt_of_not_le fun hle => h next hm hle hanchor

/-- The span of a method line starts at that line or before. -/
lemma spanStart_le_self : spanStart kinds m ≤ m := by
  unfold spanStart
  split
  · rename_i s hs
    split
    · exact Nat.le_of_lt (lastLine?_eq_some_iff.1 hs).2.1
    · exact Nat.le_refl m
  · exact Nat.le_refl m

/-- A span that starts before its method line starts with a separator, and no anchor lies between
the two.

**Proof sketch.** The span starts at the last separator before the method line if no method line
lies between them, and at the method line itself otherwise. The second is excluded. Between the two
lies no other separator, as this is the last one, and no method line. -/
lemma spanStart_spec (h : spanStart kinds m < m) :
    lineIs kinds isSeparator (spanStart kinds m) ∧
      ∀ i, spanStart kinds m < i → i < m → ¬ lineIs kinds isAnchor i := by
  unfold spanStart at h ⊢
  cases hs : lastLine? kinds isSeparator 0 m with
  | none => simp [hs] at h
  | some s =>
    simp only [hs] at h ⊢
    by_cases hnone : (firstLine? kinds isMethod (s + 1) m).isNone
    · rw [if_pos hnone]
      rw [Option.isNone_iff_eq_none, firstLine?_eq_none_iff] at hnone
      obtain ⟨-, -, hsep, hlast⟩ := lastLine?_eq_some_iff.1 hs
      refine ⟨hsep, fun i h₁ h₂ hanchor => ?_⟩
      exact (lineIs_isAnchor_iff.1 hanchor).elim (hlast i h₁ h₂) (hnone i h₁ h₂)
    · rw [if_neg hnone] at h
      exact absurd h (Nat.lt_irrefl m)

/-- A separator right before a method line, but for lines that are no anchors, starts its span. -/
lemma spanStart_eq_of_separator (hs : lineIs kinds isSeparator s) (hlt : s < m)
    (h : ∀ i, s < i → i < m → ¬ lineIs kinds isAnchor i) : spanStart kinds m = s := by
  have hlast : lastLine? kinds isSeparator 0 m = some s :=
    lastLine?_eq_some_iff.2 ⟨Nat.zero_le s, hlt, hs, fun i h₁ h₂ hsep =>
      h i h₁ h₂ (lineIs_isAnchor_iff.2 (.inl hsep))⟩
  have hnone : firstLine? kinds isMethod (s + 1) m = none :=
    firstLine?_eq_none_iff.2 fun i h₁ h₂ hm => h i h₁ h₂ (lineIs_isAnchor_iff.2 (.inr hm))
  simp [spanStart, hlast, hnone]

/-! ### Lines in regions -/

/-- From a separator up to the method line that it waits for all lines lie in the region of the
method line. -/
lemma inRegionOf_of_separator (hs : lineIs kinds isSeparator s) (hm : lineIs kinds isMethod m)
    (h : ∀ i, s < i → i < m → ¬ lineIs kinds isAnchor i) (hsn : s ≤ n) (hnm : n ≤ m) :
    InRegionOf kinds m n := by
  have hne : s ≠ m := fun he => not_isMethod_of_isSeparator hs (he ▸ hm)
  have hnext : m < nextAnchor kinds m :=
    lt_nextAnchor_of_not_isAnchor (lt_length_of_lineIs hm) fun i h₁ h₂ => absurd h₁ (Nat.not_lt.2 h₂)
  refine ⟨hm, ?_, Nat.lt_of_le_of_lt hnm hnext⟩
  rw [spanStart_eq_of_separator hs (by omega) h]
  exact hsn

/-- **A line lies in the region of one method line at most.**

**Proof sketch.** If one method line came before the other, then either the other would stand in its
region, or the line would lie before the other one, in a span that starts with a separator; and
neither is possible in the region of the first. -/
theorem InRegionOf.unique (h : InRegionOf kinds m n) (h' : InRegionOf kinds m' n) : m = m' := by
  -- of two method lines the second one would stand in the region of the first, or its separator
  have hnot : ∀ {m m' : Nat}, InRegionOf kinds m n → InRegionOf kinds m' n → ¬ m < m' := by
    intro m m' h h' hlt
    have hbehind : ∀ i, m < i → i ≤ n → ¬ lineIs kinds isAnchor i := fun i h₁ h₂ =>
      not_isAnchor_of_lt_nextAnchor h₁ (Nat.lt_of_le_of_lt h₂ h.lt_nextAnchor)
    by_cases hle : m' ≤ n
    · exact hbehind m' hlt hle (lineIs_isAnchor_iff.2 (.inr h'.isMethod))
    · have hstart : spanStart kinds m' < m' :=
        Nat.lt_of_le_of_lt h'.spanStart_le (Nat.lt_of_not_le hle)
      obtain ⟨hsep, hnone⟩ := spanStart_spec hstart
      -- the line lies before the second method line, in the part of its span that a separator
      -- starts
      rcases Nat.lt_trichotomy m (spanStart kinds m') with hm | hm | hm
      · exact hbehind _ hm h'.spanStart_le (lineIs_isAnchor_iff.2 (.inl hsep))
      · exact not_isMethod_of_isSeparator (hm ▸ hsep) h.isMethod
      · exact hnone m hm hlt (lineIs_isAnchor_iff.2 (.inr h.isMethod))
  exact Nat.le_antisymm (Nat.le_of_not_lt (hnot h' h)) (Nat.le_of_not_lt (hnot h h'))

/-- The last anchor up to a line. -/
lemma exists_last_anchor (h : ∃ i ≤ n, lineIs kinds isAnchor i) :
    ∃ a ≤ n, lineIs kinds isAnchor a ∧ ∀ i, a < i → i ≤ n → ¬ lineIs kinds isAnchor i := by
  obtain ⟨i, hi, hanchor⟩ := h
  cases hlast : lastLine? kinds isAnchor 0 (n + 1) with
  | none =>
    exact absurd hanchor (lastLine?_eq_none_iff.1 hlast i (Nat.zero_le i) (Nat.lt_succ_of_le hi))
  | some a =>
    obtain ⟨-, ha, hanchor', hmax⟩ := lastLine?_eq_some_iff.1 hlast
    exact ⟨a, Nat.le_of_lt_succ ha, hanchor', fun i h₁ h₂ => hmax i h₁ (Nat.lt_succ_of_le h₂)⟩

/-- **The lines that lie in the region of a method line**: those of the document from its first
anchor on, unless the region is one of a separator that no method line follows.

**Proof sketch.** Look at the last anchor up to the line. A method line has the line in its region.
A separator has a first method line behind it, with no anchor in between, unless its region is
idle. -/
theorem exists_inRegionOf_iff :
    (∃ m, InRegionOf kinds m n) ↔
      n < kinds.length ∧ (∃ i ≤ n, lineIs kinds isAnchor i) ∧ ¬ InIdleRegion kinds n := by
  constructor
  · rintro ⟨m, h⟩
    refine ⟨Nat.lt_of_lt_of_le h.lt_nextAnchor nextAnchor_le_length, ?_, ?_⟩
    · by_cases hle : m ≤ n
      · exact ⟨m, hle, lineIs_isAnchor_iff.2 (.inr h.isMethod)⟩
      · have hstart := Nat.lt_of_le_of_lt h.spanStart_le (Nat.lt_of_not_le hle)
        exact ⟨_, h.spanStart_le, lineIs_isAnchor_iff.2 (.inl (spanStart_spec hstart).1)⟩
    · rintro ⟨s, hsn, hsep, hbehind, hidle⟩
      have hm : ¬ (s < m ∧ m ≤ n) := fun hm =>
        hbehind m hm.1 hm.2 (lineIs_isAnchor_iff.2 (.inr h.isMethod))
      have hanchor : lineIs kinds isAnchor s := lineIs_isAnchor_iff.2 (.inl hsep)
      have hne : s ≠ m := fun he => not_isMethod_of_isSeparator hsep (he ▸ h.isMethod)
      by_cases hsm : s < m
      · obtain ⟨i, h₁, h₂, hi⟩ := hidle m hsm h.isMethod
        have hstart := Nat.lt_of_le_of_lt h.spanStart_le (show n < m by omega)
        have hafter : spanStart kinds m < i := by
          by_contra hle
          exact hbehind i h₁ (Nat.le_trans (Nat.le_of_not_lt hle) h.spanStart_le)
            (lineIs_isAnchor_iff.2 (.inl hi))
        exact (spanStart_spec hstart).2 i hafter h₂ (lineIs_isAnchor_iff.2 (.inl hi))
      · exact not_isAnchor_of_lt_nextAnchor (show m < s by omega)
          (Nat.lt_of_le_of_lt hsn h.lt_nextAnchor) hanchor
  · rintro ⟨hn, hanchor, hidle⟩
    obtain ⟨a, han, ha, hmax⟩ := exists_last_anchor hanchor
    rcases lineIs_isAnchor_iff.1 ha with hsep | hm
    · -- some method line behind the separator has no further separator before it
      obtain ⟨m, ham, hm, hnone⟩ : ∃ m, a < m ∧ lineIs kinds isMethod m ∧
          ∀ i, a < i → i < m → ¬ lineIs kinds isSeparator i := by
        by_contra hno
        refine hidle ⟨a, han, hsep, hmax, fun m ham hm => ?_⟩
        by_contra hnone
        exact hno ⟨m, ham, hm, fun i h₁ h₂ hi => hnone ⟨i, h₁, h₂, hi⟩⟩
      cases hfirst : firstLine? kinds isMethod (a + 1) (m + 1) with
      | none => exact absurd hm (firstLine?_eq_none_iff.1 hfirst m ham (Nat.lt_succ_self m))
      | some m₀ =>
        obtain ⟨h₁, h₂, hm₀, hmin⟩ := firstLine?_eq_some_iff.1 hfirst
        have hbetween : ∀ i, a < i → i < m₀ → ¬ lineIs kinds isAnchor i := fun i hi hi' hanchor =>
          (lineIs_isAnchor_iff.1 hanchor).elim (hnone i hi (by omega)) (hmin i hi hi')
        have hle : n ≤ m₀ := Nat.le_of_not_lt fun hlt =>
          hmax m₀ h₁ (Nat.le_of_lt hlt) (lineIs_isAnchor_iff.2 (.inr hm₀))
        exact ⟨m₀, inRegionOf_of_separator hsep hm₀ hbetween han hle⟩
    · exact ⟨a, hm, Nat.le_trans spanStart_le_self han, lt_nextAnchor_of_not_isAnchor hn hmax⟩

/-! ### Blocks and the lines they cover -/

/-- **Every method line of a document has a block.** The regions hold all method lines
(`filterMap_methodLine_regions`), and a region with a method line gives a block. -/
lemma exists_mem_blocks (hm : lineIs (lineKinds document) isMethod m) :
    ∃ b ∈ blocks document, b.methodLine = m := by
  obtain ⟨kind, hk, hkind⟩ := lineIs_iff.1 hm
  have hmem : m ∈ (regions (lineKinds document)).filterMap Region.methodLine := by
    rw [filterMap_methodLine_regions, List.mem_findIdxs_iff_exists_getElem_pos]
    obtain ⟨hlt, rfl⟩ := List.getElem?_eq_some_iff.1 hk
    exact ⟨hlt, hkind⟩
  obtain ⟨r, hr, hmr⟩ := List.mem_filterMap.1 hmem
  have hmap : (Block.ofRegion? (Text.lines document) (lineKinds document) r).map Block.methodLine =
      r.methodLine := Block.map_methodLine_ofRegion? (isRegion_of_mem_regions hr)
  rw [hmr, Option.map_eq_some_iff] at hmap
  obtain ⟨b, hb, hbm⟩ := hmap
  exact ⟨b, List.mem_filterMap.2 ⟨r, hr, hb⟩, hbm⟩

/-- **Blocks lie in regions one behind the other**: each starts behind the end of the region before,
blank end included.

**Proof sketch.** Regions lie one behind the other (`pairwise_regions`). A block starts where its
region starts, and the next anchor behind its method line stands right behind the region. -/
theorem pairwise_nextAnchor_le_startLine (document : String) :
    (blocks document).Pairwise fun b c =>
      nextAnchor (lineKinds document) b.methodLine ≤ c.startLine := by
  refine List.pairwise_filterMap.2 (List.Pairwise.imp_of_mem ?_ pairwise_regions)
  intro r r' hr hr' hlt b hb c hc
  have hnext : nextAnchor (lineKinds document) b.methodLine = r.last + 1 :=
    (isRegion_of_mem_regions hr).nextAnchor_eq (Block.ofRegion?_eq_some hb).1
  obtain ⟨-, hstart, -⟩ := (isRegion_of_mem_regions hr').fits hc
  rw [hnext, ← hstart]
  exact hlt

/-- A document has no more blocks than lines.

**Proof sketch.** Each block starts on a line of its own, since the next one starts behind its
region, and these lines are lines of the document. -/
lemma length_blocks_le_lines (document : String) :
    (blocks document).length ≤ (Text.lines document).length := by
  have hbehind : ∀ b ∈ blocks document, b.startLine ≤ b.methodLine ∧
      b.methodLine < nextAnchor (lineKinds document) b.methodLine := by
    intro b hb
    have hfits := fits_of_mem_blocks hb
    obtain ⟨hle, hlt, -⟩ := hfits.endLine_spec
    exact ⟨hfits.startLine_le, Nat.lt_of_le_of_lt hle hlt⟩
  have hnodup : ((blocks document).map Block.startLine).Nodup := by
    refine List.pairwise_map.2
      (List.Pairwise.imp_of_mem ?_ (pairwise_nextAnchor_le_startLine document))
    intro b c hb _ hle
    have := hbehind b hb
    omega
  have hsubset :
      (blocks document).map Block.startLine ⊆ List.range (lineKinds document).length := by
    intro start hstart
    obtain ⟨b, hb, rfl⟩ := List.mem_map.1 hstart
    rw [List.mem_range]
    have hstop : nextAnchor (lineKinds document) b.methodLine ≤ (lineKinds document).length :=
      nextAnchor_le_length
    have := hbehind b hb
    omega
  have hle := (List.subperm_of_subset hnodup hsubset).length_le
  rwa [List.length_map, List.length_range, lineKinds, List.length_map] at hle

/-- A block covers the lines from its first to its last. -/
lemma Block.covers_iff : b.covers n ↔ b.startLine ≤ n ∧ n ≤ b.endLine := by
  simp [Block.covers]

/-- **A block covers its region without the blank end.**

**Proof sketch.** The block ends with the last filled line of the region. If a line behind that one
were not in the blank end, some line from it on would be filled. -/
theorem Block.Fits.covers_iff (h : b.Fits lines kinds) :
    b.covers n ↔ InRegionOf kinds b.methodLine n ∧ ¬ InBlankEnd kinds b.methodLine n := by
  obtain ⟨hle, hlt, hfilled, hmax⟩ := h.endLine_spec
  have hmethod : lineIs kinds isMethod b.methodLine :=
    lineIs_isMethod_iff.2 ⟨_, _, h.getElem?_methodLine⟩
  rw [Block.covers_iff, h.startLine_eq]
  constructor
  · rintro ⟨hstart, hend⟩
    refine ⟨⟨hmethod, hstart, Nat.lt_of_le_of_lt hend hlt⟩, fun hblank => ?_⟩
    exact (lineIs_isFilled_iff.1 hfilled).2 (hblank.2 b.endLine hend hlt)
  · rintro ⟨⟨-, hstart, hnext⟩, hblank⟩
    refine ⟨hstart, Nat.le_of_not_lt fun hend => hblank ⟨Nat.lt_of_le_of_lt hle hend, ?_⟩⟩
    intro i h₁ h₂
    by_contra hnot
    have hi : i < kinds.length := Nat.lt_of_lt_of_le h₂ nextAnchor_le_length
    exact hmax i (Nat.lt_of_lt_of_le hend h₁) h₂ (lineIs_isFilled_iff.2 ⟨hi, hnot⟩)

/-- No line is covered by two blocks of the list. -/
def Separated (bs : List Block) : Prop := bs.Pairwise fun b c => ∀ n, ¬ (b.covers n ∧ c.covers n)

/-- No line is covered by two blocks of a document: the second starts behind the region of the
first. -/
lemma separated_blocks (document : String) : Separated (blocks document) := by
  refine List.Pairwise.imp_of_mem ?_ (pairwise_nextAnchor_le_startLine document)
  intro b c hb _ hle n hcovers
  obtain ⟨-, hlt, -⟩ := (fits_of_mem_blocks hb).endLine_spec
  obtain ⟨hb', hc'⟩ := hcovers
  rw [Block.covers_iff] at hb' hc'
  omega

/-- To be separated does not depend on the order of the blocks. -/
lemma Separated.perm (h : Separated bs) (hperm : bs ~ bs') : Separated bs' :=
  (hperm.pairwise_iff fun hbc n hcovers => hbc n hcovers.symm).1 h

/-- Of separated blocks one at most covers a line. -/
lemma Separated.length_filter_le (h : Separated bs) : (bs.filter (·.covers n)).length ≤ 1 := by
  have hpair : (bs.filter (·.covers n)).Pairwise fun b c => ∀ n, ¬ (b.covers n ∧ c.covers n) :=
    List.Pairwise.filter _ h
  have hcovers : ∀ b ∈ bs.filter (·.covers n), b.covers n := fun b hb => (List.mem_filter.1 hb).2
  generalize bs.filter (·.covers n) = found at hpair hcovers
  rcases found with _ | ⟨b, _ | ⟨c, rest⟩⟩
  · exact Nat.zero_le 1
  · exact Nat.le_refl 1
  · have hbc := (List.pairwise_cons.1 hpair).1 c List.mem_cons_self n
    exact absurd ⟨hcovers b List.mem_cons_self,
      hcovers c (List.mem_cons_of_mem b List.mem_cons_self)⟩ hbc

/-- **Of separated blocks the lookup finds the one that covers the line**, wherever it stands.

**Proof sketch.** By induction on the blocks. A block that covers the line is the first one, or it
is found behind it, because the first one does not cover the line too. -/
lemma Separated.blockAt?_eq_some_iff (h : Separated bs) :
    blockAt? bs n = some b ↔ b ∈ bs ∧ b.covers n := by
  constructor
  · exact fun hb => ⟨List.mem_of_find?_eq_some hb, by simpa using List.find?_some hb⟩
  · rintro ⟨hb, hcovers⟩
    induction bs with
    | nil => exact absurd hb List.not_mem_nil
    | cons c bs ih =>
      obtain ⟨hc, htail⟩ := List.pairwise_cons.1 h
      rcases List.mem_cons.1 hb with rfl | hb
      · exact List.find?_cons_of_pos hcovers
      · have hnot : ¬ c.covers n := fun hcn => hc b hb n ⟨hcn, hcovers⟩
        calc blockAt? (c :: bs) n = blockAt? bs n := by simp [blockAt?, hnot]
          _ = some b := ih htail hb

/-- The order of separated blocks makes no difference to the lookup. -/
lemma Separated.blockAt?_perm (h : Separated bs) (hperm : bs' ~ bs) :
    blockAt? bs' n = blockAt? bs n := by
  ext b
  rw [h.blockAt?_eq_some_iff, (h.perm hperm.symm).blockAt?_eq_some_iff, hperm.mem_iff]

/-! ### The lookup -/

/-- The lookup finds the block whose method line has the line in its region, unless the line stands
in the region's blank end. -/
lemma blockAt?_blocks_eq_some_iff :
    blockAt? (blocks document) n = some b ↔ b ∈ blocks document ∧
      InRegionOf (lineKinds document) b.methodLine n ∧
      ¬ InBlankEnd (lineKinds document) b.methodLine n := by
  rw [(separated_blocks document).blockAt?_eq_some_iff]
  exact and_congr_right fun hb => (fits_of_mem_blocks hb).covers_iff

/-- The lookup finds nothing exactly if the line stands in the blank end of every region that it
lies in. That can be one region at most, or none. -/
lemma blockAt?_blocks_eq_none_iff :
    blockAt? (blocks document) n = none ↔
      ∀ m, InRegionOf (lineKinds document) m n → InBlankEnd (lineKinds document) m n := by
  rw [Option.eq_none_iff_forall_ne_some]
  constructor
  · intro h m hm
    obtain ⟨b, hb, rfl⟩ := exists_mem_blocks hm.isMethod
    by_contra hblank
    exact h b (blockAt?_blocks_eq_some_iff.2 ⟨hb, hm, hblank⟩)
  · intro h b hb
    obtain ⟨-, hregion, hblank⟩ := blockAt?_blocks_eq_some_iff.1 hb
    exact hblank (h b.methodLine hregion)

/-- **The block at a line.** At most one block of a document covers a line, so that the lookup does
not depend on their order. It finds nothing exactly if the line lies past the end of the document,
before its first anchor, in the region of a separator that no method line follows, or in the blank
end of its region. Otherwise it finds the block whose method line has the line in its region; so it
does from the separator that waits for a method line up to that line.

**Proof sketch.** Blocks lie in regions one behind the other (`pairwise_nextAnchor_le_startLine`),
and each covers its region without the blank end (`Block.Fits.covers_iff`). A line lies in the
region of one method line at most (`InRegionOf.unique`), and in none exactly in the first three of
these cases (`exists_inRegionOf_iff`). -/
theorem blockAt?_blocks_spec (document : String) (n : Nat) :
    let bs := blocks document
    let kinds := lineKinds document
    (bs.filter (·.covers n)).length ≤ 1 ∧
      (∀ bs', bs' ~ bs → blockAt? bs' n = blockAt? bs n) ∧
      (blockAt? bs n = none ↔
        (Text.lines document).length ≤ n ∨
        (∀ i ≤ n, ¬ lineIs kinds isAnchor i) ∨
        InIdleRegion kinds n ∨
        ∃ m, InRegionOf kinds m n ∧ InBlankEnd kinds m n) ∧
      (∀ b, blockAt? bs n = some b → b ∈ bs ∧ InRegionOf kinds b.methodLine n) ∧
      (∀ m, InRegionOf kinds m n → ¬ InBlankEnd kinds m n →
        ∃ b ∈ bs, blockAt? bs n = some b ∧ b.methodLine = m) ∧
      ∀ s m, lineIs kinds isSeparator s → lineIs kinds isMethod m →
        (∀ i, s < i → i < m → ¬ lineIs kinds isAnchor i) → s ≤ n → n ≤ m →
        ∃ b ∈ bs, blockAt? bs n = some b ∧ b.methodLine = m := by
  intro bs kinds
  have hsep : Separated bs := separated_blocks document
  have hlength : kinds.length = (Text.lines document).length := List.length_map _
  have hfound : ∀ m, InRegionOf kinds m n → ¬ InBlankEnd kinds m n →
      ∃ b ∈ bs, blockAt? bs n = some b ∧ b.methodLine = m := by
    intro m hm hblank
    obtain ⟨b, hb, rfl⟩ := exists_mem_blocks hm.isMethod
    exact ⟨b, hb, blockAt?_blocks_eq_some_iff.2 ⟨hb, hm, hblank⟩, rfl⟩
  refine ⟨hsep.length_filter_le, fun bs' => hsep.blockAt?_perm, ?_, ?_, hfound, ?_⟩
  · rw [blockAt?_blocks_eq_none_iff, ← hlength]
    constructor
    · intro h
      by_cases hregion : ∃ m, InRegionOf kinds m n
      · obtain ⟨m, hm⟩ := hregion
        exact .inr (.inr (.inr ⟨m, hm, h m hm⟩))
      · rw [exists_inRegionOf_iff] at hregion
        by_contra hnot
        simp only [not_or, Nat.not_le, not_forall, not_not] at hnot
        obtain ⟨hn, ⟨i, hi, hanchor⟩, hidle, -⟩ := hnot
        exact hregion ⟨hn, ⟨i, hi, hanchor⟩, hidle⟩
    · intro h m hm
      obtain ⟨hn, ⟨i, hi, hanchor⟩, hidle⟩ := exists_inRegionOf_iff.1 ⟨m, hm⟩
      rcases h with hend | hbefore | hidle' | ⟨m', hm', hblank⟩
      · exact absurd hn (Nat.not_lt.2 hend)
      · exact absurd hanchor (hbefore i hi)
      · exact absurd hidle' hidle
      · exact hm.unique hm' ▸ hblank
  · intro b hb
    obtain ⟨hmem, hregion, -⟩ := blockAt?_blocks_eq_some_iff.1 hb
    exact ⟨hmem, hregion⟩
  · intro s m hs hm hbetween hsn hnm
    exact hfound m (inRegionOf_of_separator hs hm hbetween hsn hnm)
      fun hblank => absurd hblank.1 (Nat.not_lt.2 hnm)

example :
    let bs := blocks "note\n###\n\nGET /a\n\nbody\n\n###\n### b\nGET /b"
    (List.range 11).map (fun n => (blockAt? bs n).map Block.methodLine) =
      [none, some 3, some 3, some 3, some 3, some 3, none, none, some 9, some 9, none] := by
  decide +kernel

end RequestRunner
