import RequestRunner.Proofs.Document.Concatenation
import RequestRunner.Proofs.Document.HeaderLists
import RequestRunner.Proofs.Document.LineForms

/-!
# Notes

A note is a line with a comment or with other text. Outside of bodies it says nothing: a note that is
put in between two lines moves the lines behind it, and leaves what the blocks ask for as it is. A
note right behind the headers of a block becomes its last line.

## Main definitions

* `LineKind.isNote` — the kinds of notes.
* `lastAnchor?`, `OutsideBody` — no body has begun at the end of some lines.
* `lowered`, `Block.besideNote` — a line and a block after a note is put in.

## Main results

* `lastFilled_insert`, `Block.headersIn_insert`, `Block.bodyIn_insert` — end, headers and body of a
  block with a note among its headers or before it.
* `blocksOfLines_insert_note`, `blocks_insert_note` — the blocks of a document with a further note.
-/

namespace RequestRunner

open LineKind

/-- Whether a line of this kind is a note. -/
def LineKind.isNote : LineKind → Bool
  | comment | text => true
  | _ => false

/-- The last anchor of some lines. -/
def lastAnchor? (kinds : List LineKind) : Option Nat := lastLine? kinds isAnchor 0 kinds.length

/-- No body has begun at the end of the lines: their last anchor, if there is one, is a separator, or
a method line with no blank line behind it. -/
def OutsideBody (kinds : List LineKind) : Prop :=
  ∀ a, lastAnchor? kinds = some a →
    lineIs kinds isSeparator a ∨ ∀ i, a < i → ¬ lineIs kinds isBlank i

/-- The number of line `i` after a line is put in as line `k`. -/
def lowered (k i : Nat) : Nat := if i < k then i else i + 1

/-- The block after a note is put in as line `k`, where `anchor` is the last anchor before: the end
moves if the method line comes behind the note or is that anchor. -/
def Block.besideNote (k : Nat) (anchor : Option Nat) (b : Block) : Block :=
  { b with
    startLine := lowered k b.startLine
    methodLine := lowered k b.methodLine
    endLine :=
      if k ≤ b.methodLine ∨ anchor = some b.methodLine then b.endLine + 1 else b.endLine }

variable {front rest : List String} {ks ks' : List LineKind} {kind : LineKind} {note : String}
  {opened : Option OpenRegion} {r : Region} {k m n i last : Nat}

/-- Lines before the one that is put in keep their numbers. -/
lemma lowered_of_lt (h : i < k) : lowered k i = i := if_pos h

/-- Lines from there on come one line later. -/
lemma lowered_of_le (h : k ≤ i) : lowered k i = i + 1 := if_neg (Nat.not_lt.2 h)

/-- A note is not blank. -/
lemma LineKind.ne_blank_of_isNote (h : kind.isNote) : kind ≠ .blank := by
  rintro rfl
  exact absurd h Bool.false_ne_true

/-- A note is no anchor, so that it starts and ends no region. -/
lemma LineKind.not_isAnchor_of_isNote (h : kind.isNote) : ¬ kind.isAnchor := by
  cases kind with
  | comment | text => exact Bool.false_ne_true
  | separator | method | blank | header => exact absurd h Bool.false_ne_true

/-! ### Lists with a further element -/

section

variable {α : Type} {xs ys : List α} {x : α}

/-- Each element is found again under its new number. -/
lemma getElem?_insert : (xs ++ x :: ys)[lowered xs.length i]? = (xs ++ ys)[i]? := by
  rcases Nat.lt_or_ge i xs.length with h | h
  · rw [lowered_of_lt h, List.getElem?_append_left h, List.getElem?_append_left h]
  · rw [lowered_of_le h, List.getElem?_append_right h,
      List.getElem?_append_right (Nat.le_succ_of_le h), Nat.succ_sub h, List.getElem?_cons_succ]

/-- A stretch behind the further element. -/
lemma extract_insert_of_le {first stop : Nat} (h : xs.length ≤ first) :
    (xs ++ x :: ys).extract (first + 1) (stop + 1) = (xs ++ ys).extract first stop := by
  obtain ⟨d, rfl⟩ := Nat.exists_eq_add_of_le h
  simp only [List.extract_eq_take_drop]
  rw [Nat.add_assoc xs.length, List.drop_length_add_append, List.drop_length_add_append,
    List.drop_succ_cons, ← Nat.add_assoc, Nat.add_sub_add_right]

/-- A stretch from one list into the next. -/
lemma extract_append_add {first more : Nat} (h : first ≤ xs.length) :
    (xs ++ ys).extract first (xs.length + more) = xs.drop first ++ ys.take more := by
  rw [List.extract_eq_take_drop, List.drop_append_of_le_length h, List.take_append,
    List.length_drop, List.take_of_length_le (by rw [List.length_drop]; omega)]
  congr 2
  omega

end

/-! ### What comes behind a method line -/

/-- The method line `m` has the end of the lines `ks` before it or among its headers: it comes behind
them, or no blank line of theirs comes behind it. -/
def HeadersGoOn (ks : List LineKind) (m : Nat) : Prop :=
  ks.length ≤ m ∨ (m < ks.length ∧ ∀ i, m < i → ¬ lineIs ks isBlank i)

/-- Behind a method line that no blank line follows all lines are filled. -/
lemma ne_blank_of_mem_drop (h : ∀ i, m < i → ¬ lineIs ks isBlank i) :
    ∀ kind ∈ ks.drop (m + 1), kind ≠ .blank := by
  intro kind hkind hblank
  obtain ⟨i, hi⟩ := List.mem_iff_getElem?.1 hkind
  rw [List.getElem?_drop, hblank] at hi
  exact h (m + 1 + i) (by omega) ((lineIs_of_getElem? hi).trans rfl)

/-- A block that would end right before the note ends with it.

**Proof sketch.** The note is not blank, and the search starts there. Without the note it would
start on the line before, which is the method line or one of its headers, and stay. -/
lemma lastFilled_insert_end (hk : kind ≠ .blank) (hgo : HeadersGoOn ks m) (hm : m ≤ last)
    (hlast : ks.length = last + 1) :
    lastFilled (ks ++ kind :: ks') (lowered ks.length m) (last + 1) =
      lastFilled (ks ++ ks') m last + 1 := by
  have hlt : m < ks.length := by omega
  have hno := (hgo.resolve_left (Nat.not_le.2 hlt)).2
  have hnote : (ks ++ kind :: ks')[last + 1]? ≠ some .blank := by
    rw [← hlast, List.getElem?_append_right (Nat.le_refl _), Nat.sub_self]
    exact fun h => hk (Option.some.inj h)
  have hend : lastFilled (ks ++ ks') m last = last := by
    rcases Nat.lt_or_eq_of_le hm with hml | rfl
    · refine lastFilled_of_filled hm fun h => hno last hml ?_
      rw [List.getElem?_append_left (by omega)] at h
      exact (lineIs_of_getElem? h).trans rfl
    · exact lastFilled_self
  rw [hend, lowered_of_lt hlt, lastFilled_of_filled (Nat.le_succ_of_le hm) hnote]

/-- The end of a block moves one line down with a note before it or among its headers.

**Proof sketch.** Induction on the line from which the end is searched. Behind the note both searches
look at the same lines, and where they come to it, the block ends (`lastFilled_insert_end`). -/
lemma lastFilled_insert (hk : kind ≠ .blank) (hgo : HeadersGoOn ks m) (hm : m ≤ last)
    (hlast : ks.length ≤ last + 1) :
    lastFilled (ks ++ kind :: ks') (lowered ks.length m) (last + 1) =
      lastFilled (ks ++ ks') m last + 1 := by
  induction last with
  | zero =>
    rcases Nat.lt_or_eq_of_le hlast with hlt | hseam
    · obtain rfl : m = 0 := Nat.le_zero.1 hm
      rw [lowered_of_le (Nat.le_of_lt_succ hlt), lastFilled_self, lastFilled_self]
    · exact lastFilled_insert_end hk hgo hm hseam
  | succ last ih =>
    rcases Nat.lt_or_eq_of_le hlast with hlt | hseam
    · have hle : ks.length ≤ last + 1 := Nat.le_of_lt_succ hlt
      have hkind : (ks ++ kind :: ks')[last + 2]? = (ks ++ ks')[last + 1]? := by
        rw [← lowered_of_le hle, getElem?_insert]
      rcases Nat.lt_or_eq_of_le hm with hml | rfl
      · have hm' : m ≤ last := Nat.le_of_lt_succ hml
        have hlow : lowered ks.length m ≤ last + 1 := by
          unfold lowered
          split <;> omega
        by_cases hblank : (ks ++ ks')[last + 1]? = some .blank
        · rw [lastFilled_of_blank hlow (hkind.trans hblank), lastFilled_of_blank hm' hblank]
          exact ih hm' hle
        · rw [lastFilled_of_filled (Nat.le_succ_of_le hlow) (hkind ▸ hblank),
            lastFilled_of_filled hm hblank]
      · rw [lowered_of_le hle, lastFilled_self, lastFilled_self]
    · exact lastFilled_insert_end hk hgo hm hseam

/-- The block ends right before the seam at the earliest.

**Proof sketch.** If the method line stands behind the seam, so does the end of its block. Otherwise
the lines from the method line to the seam are not blank, and the search for the end stops there if
it gets that far. -/
lemma HeadersGoOn.le_lastFilled (hgo : HeadersGoOn ks m) (hfilled : lineIs (ks ++ ks') isFilled m)
    (hm : m ≤ last) (hlast : last < (ks ++ ks').length) (hle : ks.length ≤ last + 1) :
    ks.length ≤ lastFilled (ks ++ ks') m last + 1 := by
  obtain ⟨hend, -, -, hmax⟩ := lastLine?_eq_some_iff.1 (lastLine?_eq_lastFilled hfilled hm hlast)
  by_contra hnot
  rcases hgo with hbehind | ⟨hlt, hno⟩
  · omega
  · refine hmax (ks.length - 1) (by omega) (by omega)
      (lineIs_isFilled_iff.2 ⟨by rw [List.length_append]; omega, ?_⟩)
    rw [lineIs_append (by omega)]
    exact hno _ (by omega)

namespace Block

/-- The note is no field, so that the headers are the same.

**Proof sketch.** Behind the note the same lines are looked at. If it stands among the headers, the
lines before it go on to it without a blank one, it is not blank itself, and so the header lines are
those before it and those behind it, as they would be without it. -/
lemma headersIn_insert (hk : kind.isNote) (hgo : HeadersGoOn ks m)
    (hlast : ks.length ≤ last + 1) :
    headersIn (ks ++ kind :: ks') (lowered ks.length m) (last + 1) =
      headersIn (ks ++ ks') m last := by
  rcases hgo with hbehind | ⟨hlt, hno⟩
  · rw [lowered_of_le hbehind, headersIn, headersIn, extract_insert_of_le (by omega)]
  · obtain ⟨more, hmore⟩ := Nat.exists_eq_add_of_le hlast
    have hfield : headerFields (kind :: (ks'.take more).takeWhile (· != .blank)) =
        headerFields ((ks'.take more).takeWhile (· != .blank)) := by
      cases kind with
      | comment | text => rfl
      | separator | method | blank | header => exact absurd hk Bool.false_ne_true
    have hpass : ∀ kind ∈ ks.drop (m + 1), (kind != .blank) = true := fun kind hkind =>
      bne_iff_ne.2 (ne_blank_of_mem_drop hno kind hkind)
    have hnote : (kind :: ks'.take more).takeWhile (· != .blank) =
        kind :: (ks'.take more).takeWhile (· != .blank) :=
      List.takeWhile_cons_of_pos (bne_iff_ne.2 (ne_blank_of_isNote hk))
    have hfields : ∀ l l' : List LineKind, headerFields (l ++ l') =
        headerFields l ++ headerFields l' := fun l l' => List.filterMap_append
    rw [lowered_of_lt hlt, headersIn, headersIn, hmore, Nat.add_assoc, extract_append_add hlt,
      extract_append_add hlt, List.take_succ_cons, List.takeWhile_append_of_pos hpass,
      List.takeWhile_append_of_pos hpass, hnote,
      Headers.ofKinds_eq_ofPairs, Headers.ofKinds_eq_ofPairs, hfields, hfields, hfield]

/-- The first blank line comes behind the note, so that the body is the same.

**Proof sketch.** Behind the note the same lines are looked at, by their new numbers. If it stands
among the headers, no line up to it is blank, nor is the note, and the first blank line is one line
later, as is the end. -/
lemma bodyIn_insert (hk : kind ≠ .blank) (hgo : HeadersGoOn ks m) (hlast : ks.length ≤ last + 1)
    (hlen : ks.length = front.length) :
    bodyIn (front ++ note :: rest) (ks ++ kind :: ks') (lowered ks.length m) (last + 1) =
      bodyIn (front ++ rest) (ks ++ ks') m last := by
  rcases hgo with hbehind | ⟨hlt, hno⟩
  · have hlines : ∀ gap, (front ++ note :: rest).extract (m + 1 + gap + 2) (last + 1 + 1) =
        (front ++ rest).extract (m + gap + 2) (last + 1) := fun gap => by
      rw [show m + 1 + gap + 2 = m + gap + 2 + 1 by omega]
      exact extract_insert_of_le (by omega)
    rw [lowered_of_le hbehind, bodyIn, bodyIn, extract_insert_of_le (by omega)]
    simp only [hlines]
  · obtain ⟨more, hmore⟩ := Nat.exists_eq_add_of_le hlast
    have hnone : (ks.drop (m + 1)).findIdx? (· == .blank) = none :=
      List.findIdx?_eq_none_iff.2 fun kind hkind =>
        beq_eq_false_iff_ne.2 (ne_blank_of_mem_drop hno kind hkind)
    have hnote : (kind == .blank) = false := beq_eq_false_iff_ne.2 hk
    rw [lowered_of_lt hlt, bodyIn, bodyIn, hmore, Nat.add_assoc, extract_append_add hlt,
      extract_append_add hlt, List.take_succ_cons, List.findIdx?_append, List.findIdx?_append,
      hnone, List.findIdx?_cons, hnote]
    cases hgap : (ks'.take more).findIdx? (· == .blank) with
    | none => rfl
    | some gap =>
      simp only [Option.none_or, Option.map_some, Bool.false_eq_true, if_false, List.length_drop]
      rw [show m + (gap + 1 + (ks.length - m.succ)) + 2 = m + (gap + (ks.length - m.succ)) + 2 + 1 by
        omega, ← Nat.add_assoc ks.length, extract_insert_of_le (by omega)]

end Block

/-! ### Regions from the seam on -/

/-- **The last anchor that a scan has met** is the method line of the open region, or else its
start.

**Proof sketch.** An open region holds no separator but at its start, and no method line but its
own. So behind its method line, or behind its start if it waits for one, there is no anchor. -/
lemma ScanInv.lastAnchor?_eq (h : ScanInv ks ks.length opened) :
    lastAnchor? ks = opened.map fun o => o.methodLine.getD o.start := by
  rw [lastAnchor?]
  rcases opened with _ | ⟨start, _ | m⟩
  · exact lastLine?_eq_none_iff.2 fun i _ hi => h i hi
  · have hs : IsStretch ks start none ks.length := h
    refine lastLine?_eq_some_iff.2 ⟨Nat.zero_le _, hs.start_lt, hs.start_isAnchor, fun i h₁ h₂ hi => ?_⟩
    have hi₁ : start < i := h₁
    rcases lineIs_isAnchor_iff.1 hi with hsep | hm
    · exact Nat.ne_of_gt hi₁ (hs.eq_start_of_separator i (Nat.le_of_lt hi₁) h₂ hsep)
    · exact Option.some_ne_none i
        ((hs.methodLine_iff i).2 ⟨Nat.le_of_lt hi₁, h₂, hm⟩).symm
  · have hs : IsStretch ks start (some m) ks.length := h
    obtain ⟨-, hlt, hm⟩ := (hs.methodLine_iff m).1 rfl
    exact lastLine?_eq_some_iff.2 ⟨Nat.zero_le _, hlt, lineIs_isAnchor_iff.2 (.inr hm),
      fun i h₁ h₂ => hs.not_isAnchor_behind h₁ h₂⟩

/-- A region that the scan gives from the seam on ends there at the earliest.

**Proof sketch.** Induction on the lines that are left: a region is closed right before the line
that is looked at, or at the end. -/
lemma le_last_of_mem_regionsFrom (hr : r ∈ regionsFrom n opened ks) : n ≤ r.last + 1 := by
  have closed : ∀ {n} {opened : Option OpenRegion}, r ∈ (opened.map (·.closeAt n)).toList →
      n ≤ r.last + 1 := by
    rintro n (_ | o) hr
    · simp at hr
    · obtain rfl : r = o.closeAt n := by simpa using hr
      show n ≤ n - 1 + 1
      omega
  induction ks generalizing n opened with
  | nil => exact closed hr
  | cons kind ks ih =>
    rcases scan_cases kind opened with hpass | rfl | ⟨m, url, start, rfl, rfl⟩ | ⟨m, url, rfl, hw⟩
    · rw [regionsFrom_of_not_isAnchor hpass] at hr
      exact Nat.le_of_succ_le (ih hr)
    · exact (List.mem_append.1 hr).elim closed fun hr => Nat.le_of_succ_le (ih hr)
    · rw [regionsFrom_method_of_waiting] at hr
      exact Nat.le_of_succ_le (ih hr)
    · rw [regionsFrom_method_of_not_waiting hw] at hr
      exact (List.mem_append.1 hr).elim closed fun hr => Nat.le_of_succ_le (ih hr)

/-- The method line of a region that the scan gives from the seam on comes behind the seam, or it is
that of the open region. -/
lemma methodLine_of_mem_regionsFrom (hr : r ∈ regionsFrom n opened ks) (hm : r.methodLine = some m) :
    n ≤ m ∨ opened.bind OpenRegion.methodLine = some m := by
  have hmem : m ∈ (regionsFrom n opened ks).filterMap Region.methodLine :=
    List.mem_filterMap.2 ⟨r, hr, hm⟩
  rw [filterMap_methodLine_regionsFrom, List.mem_append, Option.mem_toList] at hmem
  exact hmem.symm.imp_left fun h => List.ge_of_mem_findIdxs m h

/-- If no body has begun at the seam, a method line behind it, or the last anchor before it, has the
seam before it or among its headers. -/
lemma OutsideBody.headersGoOn (h : OutsideBody ks) (hm : lineIs (ks ++ ks') isMethod m)
    (hor : ks.length ≤ m ∨ lastAnchor? ks = some m) : HeadersGoOn ks m := by
  refine hor.imp_right fun hlast => ?_
  have hlt : m < ks.length := (lastLine?_eq_some_iff.1 hlast).2.1
  rw [lineIs_append hlt] at hm
  have hno := (h m hlast).resolve_left fun hsep => not_isMethod_of_isSeparator hsep hm
  exact ⟨hlt, hno⟩

/-- **The block of a region that the scan gives from the seam on**, after the note is put in there,
is the block without the note with its line numbers moved.

**Proof sketch.** Without a method line there is no block either way. With one, it has the seam
before it or among its headers (`OutsideBody.headersGoOn`). So the end moves one line down
(`lastFilled_insert`), and headers and body are the same. -/
lemma Block.ofRegion?_insert (hk : kind.isNote) (hout : OutsideBody ks)
    (hlen : ks.length = front.length) (hr : IsRegion (ks ++ ks') r)
    (hlast : ks.length ≤ r.last + 1)
    (hor : ∀ m, r.methodLine = some m → ks.length ≤ m ∨ lastAnchor? ks = some m) :
    ofRegion? (front ++ note :: rest) (ks ++ kind :: ks') (r.renumber (lowered ks.length) 1) =
      (ofRegion? (front ++ rest) (ks ++ ks') r).map (·.besideNote ks.length (lastAnchor? ks)) := by
  cases hm : r.methodLine with
  | none => simp [ofRegion?, Region.renumber, hm]
  | some m =>
    obtain ⟨-, hlt, hmethod⟩ := (hr.methodLine_iff m).1 hm
    obtain ⟨verb, url, hkind⟩ := lineIs_isMethod_iff.1 hmethod
    have hgo : HeadersGoOn ks m := hout.headersGoOn hmethod (hor m hm)
    have hm' : (r.renumber (lowered ks.length) 1).methodLine = some (lowered ks.length m) := by
      rw [Region.renumber, hm, Option.map_some]
    have hkind' : (ks ++ kind :: ks')[lowered ks.length m]? = some (.method verb url) := by
      rw [getElem?_insert, hkind]
    have hend : lastFilled (ks ++ kind :: ks') (lowered ks.length m) (r.last + 1) =
        lastFilled (ks ++ ks') m r.last + 1 :=
      lastFilled_insert (ne_blank_of_isNote hk) hgo (Nat.le_of_lt_succ hlt) hlast
    have hle := hgo.le_lastFilled (hr.isFilled_methodLine hm) (Nat.le_of_lt_succ hlt) hr.stop_le hlast
    rw [ofRegion?_of_methodLine hm hkind, ofRegion?_of_methodLine hm' hkind']
    simp only [Region.renumber, hend, headersIn_insert hk hgo hle,
      bodyIn_insert (ne_blank_of_isNote hk) hgo hle hlen, besideNote, Option.map_some,
      if_pos (hor m hm)]

/-! ### Documents with a further note -/

/-- The region that is open at the seam keeps its line numbers. -/
lemma ScanInv.renumber_lowered (h : ScanInv ks k opened) :
    opened.map (·.renumber (lowered k)) = opened := by
  rcases opened with _ | ⟨start, methodLine⟩
  · rfl
  · have hs : IsStretch ks start methodLine k := h
    have hm : methodLine.map (lowered k) = methodLine := by
      cases methodLine with
      | none => rfl
      | some m => exact congrArg some (lowered_of_lt ((hs.methodLine_iff m).1 rfl).2.1)
    rw [Option.map_some, OpenRegion.renumber, lowered_of_lt hs.start_lt, hm]

/-- The last anchor is no line before the region that is open. -/
lemma ScanInv.lastAnchor?_ne {o : OpenRegion} (h : ScanInv ks ks.length (some o))
    (hm : m < o.start) : lastAnchor? ks ≠ some m := by
  rw [h.lastAnchor?_eq]
  rintro heq
  rcases o with ⟨start, _ | methodLine⟩
  · exact Nat.ne_of_gt hm (Option.some.inj heq)
  · have hs : IsStretch ks start (some methodLine) ks.length := h
    obtain rfl : methodLine = m := Option.some.inj heq
    exact Nat.not_le.2 hm ((hs.methodLine_iff methodLine).1 rfl).1

/-- A block before the open region stays where it is: it ends before the note, and its method line
is not the last anchor. -/
lemma Block.besideNote_of_lt {b : Block} {o : OpenRegion} (h : ScanInv ks ks.length (some o))
    (hend : b.endLine < o.start) (hstart : b.startLine ≤ b.methodLine)
    (hmethod : b.methodLine ≤ b.endLine) : b.besideNote ks.length (lastAnchor? ks) = b := by
  have hopen : o.start < ks.length := IsStretch.start_lt h
  have hm : b.methodLine < o.start := Nat.lt_of_le_of_lt hmethod hend
  have hnot : ¬ (ks.length ≤ b.methodLine ∨ lastAnchor? ks = some b.methodLine) :=
    not_or.2 ⟨by omega, h.lastAnchor?_ne hm⟩
  rw [besideNote, if_neg hnot, lowered_of_lt (by omega), lowered_of_lt (by omega)]

/-- **A note outside of bodies moves the lines behind it**, and leaves the rest of the blocks as it
is.

**Proof sketch.** The scan passes over the note (`regionsFrom_renumber`). The regions that are closed
before give the same blocks; those from there on have the note before them, or among their headers
(`Block.ofRegion?_insert`). -/
theorem blocksOfLines_insert_note (hk : (ofLine note).isNote) (hout : OutsideBody (front.map ofLine)) :
    blocksOfLines (front ++ note :: rest) =
      (blocksOfLines (front ++ rest)).map
        (·.besideNote front.length (lastAnchor? (front.map ofLine))) := by
  have hlen : (front.map ofLine).length = front.length := List.length_map _
  obtain ⟨bs, left, hinv, hclosed, hblocks⟩ := exists_blocks_scan front
  rw [← hlen] at hinv hblocks ⊢
  have hregions : regionsFrom ((front.map ofLine).length + 1) left (rest.map ofLine) =
      (regionsFrom (front.map ofLine).length left (rest.map ofLine)).map
        (·.renumber (lowered (front.map ofLine).length) 1) := by
    rw [← regionsFrom_renumber (fun _ => lowered_of_le) hinv.pos, hinv.renumber_lowered]
  rw [hblocks, hblocks, List.map_append, List.map_cons,
    regionsFrom_of_not_isAnchor (not_isAnchor_of_isNote hk), hregions, List.filterMap_map,
    List.map_filterMap]
  congr 1
  · conv_lhs => rw [← List.map_id bs]
    refine List.map_congr_left fun b hb => ?_
    obtain ⟨o, rfl, hend, hstart, hmethod⟩ := hclosed b hb
    exact (Block.besideNote_of_lt hinv hend hstart hmethod).symm
  · refine List.filterMap_congr fun r hr => ?_
    refine Block.ofRegion?_insert hk hout hlen
      (isRegion_of_mem_regionsFrom List.drop_left (hinv.append (Nat.le_refl _)) r hr)
      (le_last_of_mem_regionsFrom hr) fun m hm => ?_
    refine (methodLine_of_mem_regionsFrom hr hm).imp_right fun hopen => ?_
    obtain ⟨o, rfl, ho⟩ := Option.bind_eq_some_iff.1 hopen
    rw [hinv.lastAnchor?_eq, Option.map_some, ho, Option.getD_some]

/-! ### Texts with a further note -/

/-- **A note outside of bodies is inert.** Let the first text be empty or end with a line feed, and
let no body have begun at its end: its last anchor, if there is one, is a separator, or a method line
with no blank line behind it. If a note is put in as a line of its own behind that text, the blocks
keep verb, address, headers and body. First lines and method lines behind the note move one line
down, and so do the ends of the blocks whose method line stands behind the note or is that last
anchor; all other line numbers are the same.

**Proof sketch.** The scan passes over the note, since notes are no anchors. A block whose method line
stands behind the note has all of its lines moved. The one whose method line is the last anchor has
the note among its headers, before its first blank line, if there is one: a note is no field and not
blank, so that headers and body are the same, and if the block would end there, the note is its new
last line (`lastFilled_insert`). All other blocks end before. -/
theorem blocks_insert_note {front note : String} (rest : String)
    (h : front = "" ∨ front.toList.getLast? = some '\n') (hfeed : '\n' ∉ note.toList)
    (hk : (ofLine note).isNote) (hout : OutsideBody (lineKinds front)) :
    blocks (front ++ note ++ "\n" ++ rest) =
      (blocks (front ++ rest)).map
        (·.besideNote (Text.lines front).length (lastAnchor? (lineKinds front))) := by
  have htext : front ++ note ++ "\n" ++ rest = front ++ (note ++ "\n" ++ rest) := by
    rw [String.append_assoc, String.append_assoc, String.append_assoc]
  rw [← LineKind.ofLine_ended] at hk
  rw [htext, blocks_eq_blocksOfLines, blocks_eq_blocksOfLines, Text.lines_append h,
    Text.lines_append h, Text.lines_cons rest hfeed]
  exact blocksOfLines_insert_note hk hout

/-- A note right behind the last header becomes the end of its block. -/
theorem blocks_insert_note_behind_headers :
    let front := "GET /a\n\n###\nPUT /b\nA: 1\n"
    let note := "# as before\r"
    let rest := "\nbody\nPOST /c"
    (front = "" ∨ front.toList.getLast? = some '\n') ∧ '\n' ∉ note.toList ∧
      (ofLine note).isNote ∧ OutsideBody (lineKinds front) ∧
      blocks (front ++ note ++ "\n" ++ rest) =
        (blocks (front ++ rest)).map (·.besideNote 5 (some 3)) ∧
      (blocks (front ++ note ++ "\n")).map (fun b => (b.startLine, b.methodLine, b.endLine)) =
        [(0, 0, 0), (2, 3, 5)] := by
  intro front note rest
  have hfront : front = "" ∨ front.toList.getLast? = some '\n' := .inr (by decide)
  have hfeed : '\n' ∉ note.toList := by decide
  have hk : (ofLine note).isNote := by decide +kernel
  have hlines : (Text.lines front).length = 5 := by decide +kernel
  have hanchor : lastAnchor? (lineKinds front) = some 3 := by decide +kernel
  have hkinds : lineKinds front =
      [.method .get "/a", .blank, .separator, .method .put "/b", .header "A" "1"] := by
    decide +kernel
  have hout : OutsideBody (lineKinds front) := by
    intro a ha
    obtain rfl : 3 = a := Option.some.inj (hanchor ▸ ha)
    refine .inr fun i hi hblank => ?_
    rw [hkinds] at hblank
    rcases i with _ | _ | _ | _ | _ | i <;> simp_all [lineIs, isBlank]
  have hinsert := blocks_insert_note rest hfront hfeed hk hout
  rw [hlines, hanchor] at hinsert
  exact ⟨hfront, hfeed, hk, hout, hinsert, by decide +kernel⟩

end RequestRunner
