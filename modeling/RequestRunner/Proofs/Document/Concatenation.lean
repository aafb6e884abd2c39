import RequestRunner.Proofs.Document.Seams
import RequestRunner.Proofs.Document.Spans
import RequestRunner.Proofs.Text.Lines

/-!
# Documents one behind the other

The block of a region depends on the lines of the region alone, and on their numbers only through
where it starts. So what is added to a document changes its last block at most, and a document that
is cut where a region starts has the blocks of its two parts.

## Main definitions

* `Block.shift` — a block further down in a document.

## Main results

* `Block.ofRegion?_append`, `Block.ofRegion?_shift` — the block of a region in either part.
* `exists_blocks_scan` — the blocks of a first part, and what the scan gives from the seam on.
* `dropLast_prefix_blocksOfLines`, `blocksOfLines_append` — what is added to a document.
* `blocks_append` — the same of texts.
-/

namespace RequestRunner

open LineKind

variable {lines front rest : List String} {kinds ks ks' : List LineKind} {r : Region} {m last : Nat}

/-! ### Stretches of a list -/

/-- A stretch that ends in the first of two lists is one of that list. -/
lemma extract_append_of_le {α : Type} {l l' : List α} {first stop : Nat} (h : stop ≤ l.length) :
    (l ++ l').extract first stop = l.extract first stop := by
  simp only [List.extract_eq_take_drop]
  rw [List.drop_append, List.take_append_of_le_length (by rw [List.length_drop]; omega)]

/-- A stretch that starts behind the first of two lists is one of the second, counted from its
start. -/
lemma extract_append_shift {α : Type} {l l' : List α} {first stop : Nat} :
    (l ++ l').extract (first + l.length) (stop + l.length) = l'.extract first stop := by
  simp only [List.extract_eq_take_drop]
  rw [Nat.add_sub_add_right, Nat.add_comm first, List.drop_length_add_append]

/-! ### The last line that is not blank -/

/-- A search that starts where it has to stop stays there. -/
lemma lastFilled_self : lastFilled kinds m m = m := by
  cases m with
  | zero => rfl
  | succ m => rw [lastFilled, if_pos (Nat.le_refl _)]

/-- A search that starts on a line that is not blank stays there. -/
lemma lastFilled_of_filled (hm : m ≤ last) (h : kinds[last]? ≠ some .blank) :
    lastFilled kinds m last = last := by
  rcases Nat.lt_or_eq_of_le hm with hlt | rfl
  · obtain ⟨last, rfl⟩ := Nat.exists_eq_succ_of_ne_zero (Nat.ne_zero_of_lt hlt)
    rw [lastFilled, if_neg (Nat.not_le.2 hlt), if_neg h]
  · exact lastFilled_self

/-- A search that starts on a blank line goes on from the line before. -/
lemma lastFilled_of_blank (hm : m ≤ last) (h : kinds[last + 1]? = some .blank) :
    lastFilled kinds m (last + 1) = lastFilled kinds m last := by
  rw [lastFilled, if_neg (Nat.not_le.2 (Nat.lt_succ_of_le hm)), if_pos h]

/-- The search for the last filled line goes back, so that lines behind its start make no
difference. -/
lemma lastFilled_append (h : last < ks.length) :
    lastFilled (ks ++ ks') m last = lastFilled ks m last := by
  induction last with
  | zero => rfl
  | succ last ih =>
    rw [lastFilled, lastFilled, List.getElem?_append_left h, ih (Nat.lt_of_succ_lt h)]

/-- Further down in a document the search finds the same line, further down: it stops at the method
line and never looks at what stands before it.

**Proof sketch.** Induction on where the search starts. It stops, stays or goes on at the moved line
as it does at the line itself. -/
lemma lastFilled_shift :
    lastFilled (ks ++ ks') (m + ks.length) (last + ks.length) =
      lastFilled ks' m last + ks.length := by
  induction last with
  | zero =>
    rw [Nat.zero_add, lastFilled]
    cases hd : ks.length with
    | zero => rfl
    | succ d => rw [lastFilled, if_pos (Nat.le_add_left _ _)]
  | succ last ih =>
    have hk : (ks ++ ks')[last + ks.length + 1]? = ks'[last + 1]? := by
      rw [List.getElem?_append_right (by omega), show last + ks.length + 1 - ks.length = last + 1 by
        omega]
    rw [Nat.add_right_comm, lastFilled, lastFilled, hk, ih]
    by_cases hstop : last + 1 ≤ m
    · rw [if_pos hstop, if_pos (by omega)]
    · rw [if_neg hstop, if_neg (by omega)]
      split
      · rfl
      · omega

/-- The search does not find a line behind its start. -/
lemma lastFilled_le (h : m ≤ last) : lastFilled kinds m last ≤ last := by
  induction last with
  | zero => exact h
  | succ last ih =>
    rw [lastFilled]
    split
    · exact h
    · split
      · exact Nat.le_succ_of_le (ih (by omega))
      · exact Nat.le_refl _

/-! ### Headers and bodies -/

namespace Block

/-- Lines behind its end make no difference to the headers of a block. -/
lemma headersIn_append (h : last < ks.length) :
    headersIn (ks ++ ks') m last = headersIn ks m last := by
  rw [headersIn, extract_append_of_le h, ← headersIn]

/-- Further down in a document a block has the same headers. -/
lemma headersIn_shift :
    headersIn (ks ++ ks') (m + ks.length) (last + ks.length) = headersIn ks' m last := by
  rw [headersIn, Nat.add_right_comm m, Nat.add_right_comm last, extract_append_shift, ← headersIn]

/-- Lines behind its end make no difference to the body of a block. -/
lemma bodyIn_append (h : last < ks.length) (hlen : ks.length = front.length) :
    bodyIn (front ++ rest) (ks ++ ks') m last = bodyIn front ks m last := by
  have hlines : ∀ first, (front ++ rest).extract first (last + 1) = front.extract first (last + 1) :=
    fun first => extract_append_of_le (by omega)
  simp only [bodyIn, extract_append_of_le (Nat.succ_le_of_lt h), hlines]

/-- Further down in a document a block has the same body. The lines and their kinds are moved by the
same number, and the blank line between headers and body with them. -/
lemma bodyIn_shift (hlen : ks.length = front.length) :
    bodyIn (front ++ rest) (ks ++ ks') (m + ks.length) (last + ks.length) =
      bodyIn rest ks' m last := by
  rw [bodyIn, Nat.add_right_comm m, Nat.add_right_comm last, extract_append_shift, bodyIn]
  cases (ks'.extract (m + 1) (last + 1)).findIdx? (· == .blank) with
  | none => rfl
  | some gap =>
    simp only
    rw [show m + ks.length + gap + 2 = m + gap + 2 + front.length by omega, hlen,
      extract_append_shift]

/-! ### Blocks of regions -/

/-- The block `d` lines further down. -/
def shift (d : Nat) (b : Block) : Block :=
  { b with
    startLine := b.startLine + d
    endLine := b.endLine + d
    methodLine := b.methodLine + d }

/-- **The block of a region of the first part** does not depend on the second part.

**Proof sketch.** The method line, the last filled line, the headers and the body are all found
before the end of the region, which is in the first part. -/
lemma ofRegion?_append (hr : IsRegion ks r) (hlen : ks.length = front.length) :
    ofRegion? (front ++ rest) (ks ++ ks') r = ofRegion? front ks r := by
  cases hm : r.methodLine with
  | none => simp [ofRegion?, hm]
  | some m =>
    obtain ⟨hle, hlt, hmethod⟩ := (hr.methodLine_iff m).1 hm
    obtain ⟨verb, url, hk⟩ := lineIs_isMethod_iff.1 hmethod
    have hlast : r.last < ks.length := hr.stop_le
    have hk' : (ks ++ ks')[m]? = some (.method verb url) := by
      rw [List.getElem?_append_left (by omega), hk]
    have hend : lastFilled ks m r.last < ks.length :=
      Nat.lt_of_le_of_lt (lastFilled_le (Nat.lt_succ_iff.1 hlt)) hlast
    rw [ofRegion?_of_methodLine hm hk, ofRegion?_of_methodLine hm hk']
    simp only [lastFilled_append hlast, headersIn_append hend, bodyIn_append hend hlen]

/-- **The block of a region of the second part** is its block there, further down by the length of
the first part.

**Proof sketch.** By whether the region has a method line. If so, this line is of the same kind
further down, and each part of the block is computed from lines that have moved by the same length.
-/
lemma ofRegion?_shift (hr : IsRegion ks' r) (hlen : ks.length = front.length) :
    ofRegion? (front ++ rest) (ks ++ ks') (r.shift ks.length) =
      (ofRegion? rest ks' r).map (·.shift ks.length) := by
  cases hm : r.methodLine with
  | none => simp [ofRegion?, Region.shift, hm]
  | some m =>
    obtain ⟨-, -, hmethod⟩ := (hr.methodLine_iff m).1 hm
    obtain ⟨verb, url, hk⟩ := lineIs_isMethod_iff.1 hmethod
    have hm' : (r.shift ks.length).methodLine = some (m + ks.length) := by
      rw [Region.shift, hm, Option.map_some]
    have hk' : (ks ++ ks')[m + ks.length]? = some (.method verb url) := by
      rw [List.getElem?_append_right (by omega), Nat.add_sub_cancel, hk]
    rw [ofRegion?_of_methodLine hm hk, ofRegion?_of_methodLine hm' hk']
    simp only [Region.shift, lastFilled_shift, headersIn_shift, bodyIn_shift hlen, shift,
      Option.map_some]

end Block

/-! ### Blocks of documents -/

/-- The blocks of a document whose first lines are `front`: those of the regions that `front`
closes, and those of the regions that the scan gives from the seam on.

The block of a closed region is the same whatever follows `front`, and ends before the open region
starts, if there is one. So this is all that has to be known of `front` to tell what happens behind
it.

**Proof sketch.** The scan of `front` leaves closed regions and an open one (`exists_scan`). A
closed region lies in `front`, so its block does not look at what follows
(`Block.ofRegion?_append`). -/
lemma exists_blocks_scan (front : List String) :
    ∃ bs left, ScanInv (front.map ofLine) front.length left ∧
      (∀ b ∈ bs, ∃ o, left = some o ∧ b.endLine < o.start ∧ b.startLine ≤ b.methodLine ∧
        b.methodLine ≤ b.endLine) ∧
      ∀ rest, blocksOfLines (front ++ rest) =
        bs ++ (regionsFrom front.length left (rest.map ofLine)).filterMap
          (Block.ofRegion? (front ++ rest) (front.map ofLine ++ rest.map ofLine)) := by
  have hlen : (front.map ofLine).length = front.length := List.length_map _
  obtain ⟨closed, left, hinv, hclosed, hscan⟩ := exists_scan (front.map ofLine)
  rw [hlen] at hinv hscan
  have hregion : ∀ r ∈ closed, IsRegion (front.map ofLine) r := by
    intro r hr
    refine isRegion_of_mem_regions ?_
    rw [← List.append_nil (front.map ofLine), hscan]
    exact List.mem_append_left _ hr
  refine ⟨closed.filterMap (Block.ofRegion? front (front.map ofLine)), left, hinv, ?_, fun rest => ?_⟩
  · intro b hb
    obtain ⟨r, hr, hrb⟩ := List.mem_filterMap.1 hb
    obtain ⟨o, ho, hlt⟩ := hclosed r hr
    obtain ⟨hfits, -, hend⟩ := (hregion r hr).fits hrb
    exact ⟨o, ho, Nat.lt_of_le_of_lt hend hlt, hfits.startLine_le, hfits.endLine_spec.1⟩
  · rw [blocksOfLines, List.map_append, hscan, List.filterMap_append]
    congr 1
    exact List.filterMap_congr fun r hr => Block.ofRegion?_append (hregion r hr) hlen

/-- **What is added to a document changes its last block at most.** All blocks but that one are of
regions that were closed before the end.

**Proof sketch.** Both documents have the blocks of the closed regions (`exists_blocks_scan`), and
without its last block the first has no others: the open region gives one at most. -/
theorem dropLast_prefix_blocksOfLines (front rest : List String) :
    (blocksOfLines front).dropLast <+: blocksOfLines (front ++ rest) := by
  obtain ⟨bs, left, -, -, hblocks⟩ := exists_blocks_scan front
  have hfront := hblocks []
  rw [List.append_nil, List.map_nil, List.append_nil] at hfront
  rw [hblocks rest]
  refine List.IsPrefix.trans ?_ (List.prefix_append bs _)
  rw [hfront]
  -- at the end of a document the scan gives the open region alone
  cases left with
  | none => simpa [regionsFrom] using List.dropLast_prefix bs
  | some o =>
    simp only [regionsFrom, Option.map_some, Option.toList_some, List.filterMap_cons,
      List.filterMap_nil]
    split
    · rw [List.append_nil]
      exact List.dropLast_prefix bs
    · simp only [List.dropLast_concat, List.prefix_rfl]

/-- **Blocks of two parts.** If the second part starts a region, or is empty, the blocks of a
document are those of its first part and those of its second part, further down.

**Proof sketch.** The regions of the whole are those of both parts, the second ones further down
(`regions_append`). The blocks of the first ones do not look at what follows, and those of the
second ones move with their regions. -/
theorem blocksOfLines_append
    (h : ∀ line ∈ rest.head?, StartsRegion (front.map ofLine) (ofLine line)) :
    blocksOfLines (front ++ rest) =
      blocksOfLines front ++ (blocksOfLines rest).map (·.shift front.length) := by
  have hlen : (front.map ofLine).length = front.length := List.length_map _
  rcases rest with _ | ⟨line, rest⟩
  · rw [List.append_nil, show blocksOfLines [] = [] from rfl, List.map_nil, List.append_nil]
  have hregions : regions ((front ++ line :: rest).map ofLine) =
      regions (front.map ofLine) ++
        (regions ((line :: rest).map ofLine)).map (·.shift (front.map ofLine).length) := by
    rw [List.map_append, List.map_cons, regions_append (h line rfl)]
  rw [blocksOfLines, hregions, List.filterMap_append, List.filterMap_map, List.map_append,
    blocksOfLines, blocksOfLines, List.map_filterMap]
  congr 1
  · exact List.filterMap_congr fun r hr => Block.ofRegion?_append (isRegion_of_mem_regions hr) hlen
  · refine List.filterMap_congr fun r hr => ?_
    rw [Function.comp_apply, Block.ofRegion?_shift (isRegion_of_mem_regions hr) hlen, hlen]

/-! ### Texts one behind the other -/

/-- **What is added to a text is local.** Let the first text be empty or end with a line feed. Then
all its blocks but the last one at most are blocks of the whole, in the same places. If the first
line of the second text starts a region of its own, being a separator, or a method line while no
separator of the first text stands behind the last method line there, the blocks of the whole are
those of the first text and then those of the second, with all their line numbers moved by the
number of lines of the first.

**Proof sketch.** The scan of the first text closes all its regions but the one that it leaves open
(`exists_blocks_scan`). A line that starts a region closes that one as the end of the document does
(`regions_append`), and the scan goes on from there as from the start, but for the line numbers
(`regionsFrom_renumber`). -/
theorem blocks_append {front : String} (rest : String)
    (h : front = "" ∨ front.toList.getLast? = some '\n') :
    (blocks front).dropLast <+: blocks (front ++ rest) ∧
      ((∀ kind ∈ (lineKinds rest).head?, StartsRegion (lineKinds front) kind) →
        blocks (front ++ rest) =
          blocks front ++ (blocks rest).map (·.shift (Text.lines front).length)) := by
  simp only [blocks_eq_blocksOfLines, Text.lines_append h]
  refine ⟨dropLast_prefix_blocksOfLines _ _, fun hstarts => blocksOfLines_append fun line hline => ?_⟩
  refine hstarts (ofLine line) ?_
  rw [lineKinds, List.head?_map, Option.mem_def.1 hline]
  rfl

/-- A method line starts a region behind a blank end, since the separator there has its method line. -/
theorem blocks_append_of_two_requests :
    let front := "###\nGET /a\nA: 1\n\n\n"
    let rest := "POST /b\n\nbody\n### end"
    (front = "" ∨ front.toList.getLast? = some '\n') ∧
      (∀ kind ∈ (lineKinds rest).head?, StartsRegion (lineKinds front) kind) ∧
      blocks (front ++ rest) = blocks front ++ (blocks rest).map (·.shift 5) ∧
      (blocks (front ++ rest)).map (fun b => (b.startLine, b.methodLine, b.endLine)) =
        [(0, 1, 2), (5, 5, 7)] := by
  intro front rest
  have hfront : front = "" ∨ front.toList.getLast? = some '\n' := .inr (by decide)
  have hstarts : ∀ kind ∈ (lineKinds rest).head?, StartsRegion (lineKinds front) kind := by
    have hhead : (lineKinds rest).head? = some (.method .post "/b") := by decide +kernel
    have hkinds : lineKinds front =
        [.separator, .method .get "/a", .header "A" "1", .blank, .blank] := by decide +kernel
    intro kind hkind
    obtain rfl : .method .post "/b" = kind := Option.some.inj (hhead ▸ hkind)
    refine .inr ⟨rfl, fun s hs => ?_⟩
    rw [hkinds] at hs ⊢
    have hzero : s = 0 := by
      rcases s with _ | _ | _ | _ | _ | s <;> simp_all [lineIs, isSeparator]
    exact ⟨1, by omega, rfl⟩
  have hlines : (Text.lines front).length = 5 := by decide +kernel
  refine ⟨hfront, hstarts, ?_, by decide +kernel⟩
  have happend := (blocks_append rest hfront).2 hstarts
  rwa [hlines] at happend

end RequestRunner
