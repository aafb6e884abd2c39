import RequestRunner.Proofs.Document.LineSearch

/-!
# The regions of a document

`regions` scans the lines once and holds at most one open region. This file says what every region
of the result is, by the kinds of its lines alone.

## Main definitions

* `IsStretch` — a region that starts as one does, and holds what one may hold.
* `IsRegion` — a stretch that ends right before an anchor or on the last line.
* `ScanInv` — what the scan knows of the open region before it looks at a line.
* `Tiles` — regions that cover a run of lines without gap or overlap.

## Main results

* `isRegion_of_mem_regions` — every region of a document is one by the kinds of its lines.
* `filterMap_methodLine_regions` — the regions hold every method line once and in order.
* `tiles_regions` — the regions tile the lines from the first anchor on.
-/

namespace RequestRunner

open LineKind

variable {kinds rest : List LineKind} {opened : Option OpenRegion} {n : Nat}

/-! ### One line of the scan -/

/-- The scan passes over a line that is no anchor. -/
lemma regionsFrom_of_not_isAnchor {kind : LineKind} (h : ¬ kind.isAnchor) :
    regionsFrom n opened (kind :: rest) = regionsFrom (n + 1) opened rest := by
  cases kind with
  | separator | method => exact absurd rfl h
  | comment | blank | header | text => rfl

/-- A method line goes to the open region if that waits for one. -/
lemma regionsFrom_method_of_waiting {m : Method} {url : String} {start : Nat} :
    regionsFrom n (some ⟨start, none⟩) (.method m url :: rest) =
      regionsFrom (n + 1) (some ⟨start, some n⟩) rest := rfl

/-- Any other method line closes the open region, if there is one, and opens its own. -/
lemma regionsFrom_method_of_not_waiting {m : Method} {url : String}
    (h : ∀ start, opened ≠ some ⟨start, none⟩) :
    regionsFrom n opened (.method m url :: rest) =
      (opened.map (·.closeAt n)).toList ++ regionsFrom (n + 1) (some ⟨n, some n⟩) rest := by
  rcases opened with _ | ⟨start, _ | m⟩
  · rfl
  · exact absurd rfl (h start)
  · rfl

/-- The ways in which the scan treats a line: it passes over it, closes the open region for a
separator, gives the line to a region that waits for its method line, or closes the open region for
a method line. -/
lemma scan_cases (kind : LineKind) (opened : Option OpenRegion) :
    ¬ kind.isAnchor ∨ kind = .separator ∨
      (∃ m url start, kind = .method m url ∧ opened = some ⟨start, none⟩) ∨
      ∃ m url, kind = .method m url ∧ ∀ start, opened ≠ some ⟨start, none⟩ := by
  cases kind with
  | separator => exact .inr (.inl rfl)
  | method m url =>
    by_cases h : ∃ start, opened = some ⟨start, none⟩
    · obtain ⟨start, h⟩ := h
      exact .inr (.inr (.inl ⟨m, url, start, rfl, h⟩))
    · exact .inr (.inr (.inr ⟨m, url, rfl, fun start hs => h ⟨start, hs⟩⟩))
  | comment | blank | header | text => exact .inl (by simp [isAnchor, isSeparator, isMethod])

/-! ### What a region holds -/

/-- Lines `start` up to just before `stop` with an anchor first, as a region holds them: a separator
stands only at the start, `methodLine` is the one method line if there is one, and if the method
line comes first, no separator before it waits for one. -/
structure IsStretch (kinds : List LineKind) (start : Nat) (methodLine : Option Nat) (stop : Nat) :
    Prop where
  start_lt : start < stop
  stop_le : stop ≤ kinds.length
  start_isAnchor : lineIs kinds isAnchor start
  eq_start_of_separator : ∀ i, start ≤ i → i < stop → lineIs kinds isSeparator i → i = start
  methodLine_iff : ∀ i, methodLine = some i ↔ start ≤ i ∧ i < stop ∧ lineIs kinds isMethod i
  no_separator_waits : lineIs kinds isMethod start →
    ∀ j < start, lineIs kinds isSeparator j → ∃ i, j < i ∧ i < start ∧ lineIs kinds isMethod i

/-- A stretch that the next anchor or the end of the document ends. -/
structure IsRegion (kinds : List LineKind) (r : Region) : Prop
    extends IsStretch kinds r.start r.methodLine (r.last + 1) where
  last_ends : r.last + 1 = kinds.length ∨ lineIs kinds isAnchor (r.last + 1)

/-- What the scan knows before it looks at line `n`: without an open region it has met no anchor,
and an open region is a stretch up to the line before. -/
def ScanInv (kinds : List LineKind) (n : Nat) : Option OpenRegion → Prop
  | none => ∀ i < n, ¬ lineIs kinds isAnchor i
  | some r => IsStretch kinds r.start r.methodLine n

/-- An open region that is closed before an anchor, or at the end, is a region of the document. -/
lemma ScanInv.isRegion {r : OpenRegion} (h : ScanInv kinds n (some r))
    (hend : n = kinds.length ∨ lineIs kinds isAnchor n) : IsRegion kinds (r.closeAt n) := by
  have hs : IsStretch kinds r.start r.methodLine n := h
  have hn : n - 1 + 1 = n := by have := hs.start_lt; omega
  exact ⟨hn.symm ▸ hs, hn.symm ▸ hend⟩

/-- A line that is no anchor goes to the open region.

**Proof sketch.** If no region is open, no anchor came before and this line is none. If one is open,
its stretch gets longer by a line that is neither a separator nor a method line, so what is said of
both is said of the same lines as before. -/
lemma ScanInv.pass (h : ScanInv kinds n opened) (hn : n < kinds.length)
    (hk : ¬ lineIs kinds isAnchor n) : ScanInv kinds (n + 1) opened := by
  cases opened with
  | none =>
    intro i hi
    rcases Nat.lt_succ_iff_lt_or_eq.1 hi with hi | rfl
    · exact h i hi
    · exact hk
  | some r =>
    rw [lineIs_isAnchor_iff, not_or] at hk
    have hs : IsStretch kinds r.start r.methodLine n := h
    refine ⟨Nat.lt_succ_of_lt hs.start_lt, hn, hs.start_isAnchor, ?_, ?_, hs.no_separator_waits⟩
    · intro i h₁ h₂ h₃
      have hne : i ≠ n := fun he => hk.1 (he ▸ h₃)
      exact hs.eq_start_of_separator i h₁ (by omega) h₃
    · intro i
      rw [hs.methodLine_iff i]
      constructor
      · rintro ⟨h₁, h₂, h₃⟩
        exact ⟨h₁, Nat.lt_succ_of_lt h₂, h₃⟩
      · rintro ⟨h₁, h₂, h₃⟩
        have hne : i ≠ n := fun he => hk.2 (he ▸ h₃)
        exact ⟨h₁, by omega, h₃⟩

/-- A separator opens a region whatever was open before. -/
lemma scanInv_of_separator (hk : lineIs kinds isSeparator n) :
    ScanInv kinds (n + 1) (some ⟨n, none⟩) := by
  have hm := not_isMethod_of_isSeparator hk
  refine ⟨Nat.lt_succ_self n, lt_length_of_lineIs hk, lineIs_isAnchor_iff.2 (.inl hk),
    fun i h₁ h₂ _ => Nat.le_antisymm (Nat.lt_succ_iff.1 h₂) h₁, ?_, fun h => absurd h hm⟩
  intro i
  simp only [reduceCtorEq, false_iff]
  rintro ⟨h₁, h₂, h₃⟩
  obtain rfl : i = n := by omega
  exact hm h₃

/-- A method line goes to a region that waits for one.

**Proof sketch.** No method line came in the region before, so the line is the only one now. It is
no separator, so the separators of the stretch are those that were there. -/
lemma ScanInv.join {start : Nat} (h : ScanInv kinds n (some ⟨start, none⟩))
    (hk : lineIs kinds isMethod n) : ScanInv kinds (n + 1) (some ⟨start, some n⟩) := by
  have hs : IsStretch kinds start none n := h
  have hnone : ∀ i, start ≤ i → i < n → ¬ lineIs kinds isMethod i := by
    intro i h₁ h₂ h₃
    simpa using (hs.methodLine_iff i).2 ⟨h₁, h₂, h₃⟩
  refine ⟨Nat.lt_succ_of_lt hs.start_lt, lt_length_of_lineIs hk, hs.start_isAnchor, ?_, ?_,
    fun hm => absurd hm (hnone start (Nat.le_refl _) hs.start_lt)⟩
  · intro i h₁ h₂ h₃
    have hne : i ≠ n := fun he => not_isMethod_of_isSeparator h₃ (he ▸ hk)
    exact hs.eq_start_of_separator i h₁ (by simp only at *; omega) h₃
  · intro i
    simp only [Option.some.injEq]
    constructor
    · rintro rfl
      exact ⟨Nat.le_of_lt hs.start_lt, Nat.lt_succ_self _, hk⟩
    · rintro ⟨h₁, h₂, h₃⟩
      by_contra hne
      exact hnone i h₁ (by omega) h₃

/-- A method line opens a region of its own unless a region waits for it: the last anchor before it
is then a method line, or there is none.

**Proof sketch.** The one thing to see is that no separator waits for the line. A separator before
it would have to stand in the open region, at its start, and the method line that the region has
stands behind that. -/
lemma ScanInv.open_method (h : ScanInv kinds n opened)
    (hw : ∀ start, opened ≠ some ⟨start, none⟩) (hk : lineIs kinds isMethod n) :
    ScanInv kinds (n + 1) (some ⟨n, some n⟩) := by
  have hwaits : ∀ j < n, lineIs kinds isSeparator j →
      ∃ i, j < i ∧ i < n ∧ lineIs kinds isMethod i := by
    intro j hj hsep
    rcases opened with _ | ⟨start, _ | m⟩
    · exact absurd (lineIs_isAnchor_iff.2 (.inl hsep)) (h j hj)
    · exact absurd rfl (hw start)
    · have hs : IsStretch kinds start (some m) n := h
      obtain ⟨h₁, h₂, hm⟩ := (hs.methodLine_iff m).1 rfl
      have hjm : j ≠ m := fun he => not_isMethod_of_isSeparator hsep (he ▸ hm)
      -- a separator of the open region can only stand at its start, before the method line
      have hlt : j < m := by
        by_contra hle
        have := hs.eq_start_of_separator j (by omega) hj hsep
        omega
      exact ⟨m, hlt, h₂, hm⟩
  refine ⟨Nat.lt_succ_self n, lt_length_of_lineIs hk, lineIs_isAnchor_iff.2 (.inr hk),
    fun i h₁ h₂ _ => Nat.le_antisymm (Nat.lt_succ_iff.1 h₂) h₁, ?_, fun _ => hwaits⟩
  intro i
  simp only [Option.some.injEq]
  constructor
  · rintro rfl
    exact ⟨Nat.le_refl _, Nat.lt_succ_self _, hk⟩
  · rintro ⟨h₁, h₂, -⟩
    omega

/-! ### The whole scan -/

/-- The scan, at line `n` of a document with the lines `rest` still to look at, goes on to give
regions of the document.

**Proof sketch.** Induction on the lines that are left. Each way to treat a line keeps the
invariant, and the open region is given away only before an anchor or at the end. -/
lemma isRegion_of_mem_regionsFrom (hrest : kinds.drop n = rest) (h : ScanInv kinds n opened) :
    ∀ r ∈ regionsFrom n opened rest, IsRegion kinds r := by
  have closed : ∀ {n opened}, ScanInv kinds n opened →
      n = kinds.length ∨ lineIs kinds isAnchor n →
      ∀ r ∈ (opened.map (·.closeAt n)).toList, IsRegion kinds r := by
    intro n opened h hend r hr
    cases opened with
    | none => simp at hr
    | some o =>
      obtain rfl : r = o.closeAt n := by simpa using hr
      exact h.isRegion hend
  induction rest generalizing n opened with
  | nil =>
    intro r hr
    cases opened with
    | none => simp [regionsFrom] at hr
    | some o =>
      have hn : n = kinds.length :=
        Nat.le_antisymm (IsStretch.stop_le h) (List.drop_eq_nil_iff.1 hrest)
      exact closed h (.inl hn) r hr
  | cons kind rest ih =>
    have hk : kinds[n]? = some kind := by rw [← List.head?_drop, hrest, List.head?_cons]
    have hn : n < kinds.length := (List.getElem?_eq_some_iff.1 hk).1
    have hrest' : kinds.drop (n + 1) = rest := by
      rw [← List.tail_drop, hrest, List.tail_cons]
    rcases scan_cases kind opened with hpass | rfl | ⟨m, url, start, rfl, rfl⟩ | ⟨m, url, rfl, hw⟩
    · rw [regionsFrom_of_not_isAnchor hpass]
      exact ih hrest' (h.pass hn (by rwa [lineIs_of_getElem? hk]))
    · have hsep : lineIs kinds isSeparator n := by rw [lineIs_of_getElem? hk]; rfl
      intro r hr
      rcases List.mem_append.1 hr with hr | hr
      · exact closed h (.inr (lineIs_isAnchor_iff.2 (.inl hsep))) r hr
      · exact ih hrest' (scanInv_of_separator hsep) r hr
    · have hm : lineIs kinds isMethod n := by rw [lineIs_of_getElem? hk]; rfl
      rw [regionsFrom_method_of_waiting]
      exact ih hrest' (h.join hm)
    · have hm : lineIs kinds isMethod n := by rw [lineIs_of_getElem? hk]; rfl
      rw [regionsFrom_method_of_not_waiting hw]
      intro r hr
      rcases List.mem_append.1 hr with hr | hr
      · exact closed h (.inr (lineIs_isAnchor_iff.2 (.inr hm))) r hr
      · exact ih hrest' (h.open_method hw hm) r hr

/-- **Regions by their lines.** Every region that the scan of a document gives is one by the kinds
of its lines. -/
theorem isRegion_of_mem_regions {r : Region} (hr : r ∈ regions kinds) : IsRegion kinds r :=
  isRegion_of_mem_regionsFrom List.drop_zero
    (show ScanInv kinds 0 none from fun _ hi => absurd hi (Nat.not_lt_zero _)) r hr

/-- The scan gives every method line to one region, in order.

**Proof sketch.** Induction on the lines that are left. A method line goes to the open region or to
one of its own, and no region loses the one that it has. -/
lemma filterMap_methodLine_regionsFrom :
    (regionsFrom n opened rest).filterMap Region.methodLine =
      (opened.bind OpenRegion.methodLine).toList ++ rest.findIdxs isMethod n := by
  have closed : ∀ (opened : Option OpenRegion) (n : Nat),
      (opened.map (·.closeAt n)).toList.filterMap Region.methodLine =
        (opened.bind OpenRegion.methodLine).toList := by
    rintro (_ | ⟨start, _ | m⟩) n <;> rfl
  induction rest generalizing n opened with
  | nil => simp [regionsFrom, closed]
  | cons kind rest ih =>
    rw [List.findIdxs_cons]
    rcases scan_cases kind opened with hpass | rfl | ⟨m, url, start, rfl, rfl⟩ | ⟨m, url, rfl, hw⟩
    · have hm : ¬ kind.isMethod := fun h => hpass (by simp [isAnchor, h])
      rw [regionsFrom_of_not_isAnchor hpass, ih, if_neg hm]
    · simp [regionsFrom, closed, ih, isMethod]
    · simp [regionsFrom_method_of_waiting, ih, isMethod]
    · simp [regionsFrom_method_of_not_waiting hw, closed, ih, isMethod]

/-- **The method lines of the regions** are the method lines of the document. -/
theorem filterMap_methodLine_regions :
    (regions kinds).filterMap Region.methodLine = kinds.findIdxs isMethod :=
  filterMap_methodLine_regionsFrom

/-! ### Tilings -/

/-- The regions cover the lines from `first` up to just before `stop`, each starting right behind
the one before. -/
def Tiles (stop : Nat) : Nat → List Region → Prop
  | first, [] => first = stop
  | first, r :: rs => r.start = first ∧ Tiles stop (r.last + 1) rs

/-- With a region open, the scan tiles the lines from the start of that region to the end of the
document.

**Proof sketch.** Induction on the lines that are left. A region is closed right before the line
that opens the next one, and at the end with the last line. -/
lemma tiles_regionsFrom_of_open {r : OpenRegion} (h : r.start < n) :
    Tiles (n + rest.length) r.start (regionsFrom n (some r) rest) := by
  have hn : n - 1 + 1 = n := by omega
  induction rest generalizing n r with
  | nil => exact ⟨rfl, hn⟩
  | cons kind rest ih =>
    rw [List.length_cons, Nat.add_comm rest.length, ← Nat.add_assoc]
    rcases scan_cases kind (some r) with hpass | rfl | ⟨m, url, start, rfl, hr⟩ | ⟨m, url, rfl, hw⟩
    · rw [regionsFrom_of_not_isAnchor hpass]
      exact ih (by omega) (by omega)
    · refine ⟨rfl, ?_⟩
      rw [show (r.closeAt n).last + 1 = n from hn]
      exact ih (r := ⟨n, none⟩) (Nat.lt_succ_self n) (by omega)
    · obtain rfl : r = ⟨start, none⟩ := Option.some.inj hr
      rw [regionsFrom_method_of_waiting]
      exact ih (r := ⟨start, some n⟩) (Nat.lt_succ_of_lt h) (by omega)
    · rw [regionsFrom_method_of_not_waiting hw]
      refine ⟨rfl, ?_⟩
      rw [show (r.closeAt n).last + 1 = n from hn]
      exact ih (r := ⟨n, some n⟩) (Nat.lt_succ_self n) (by omega)

/-- Without an open region the scan tiles the lines from the first anchor on, which is the first
line to open one. -/
lemma tiles_regionsFrom :
    Tiles (n + rest.length) (n + rest.findIdx isAnchor) (regionsFrom n none rest) := by
  induction rest generalizing n with
  | nil => exact rfl
  | cons kind rest ih =>
    rw [List.length_cons, Nat.add_comm rest.length, ← Nat.add_assoc, List.findIdx_cons]
    rcases scan_cases kind none with hpass | rfl | ⟨m, url, start, -, hr⟩ | ⟨m, url, rfl, -⟩
    · rw [regionsFrom_of_not_isAnchor hpass, Bool.eq_false_iff.2 hpass, cond_false,
        Nat.add_comm (List.findIdx _ _), ← Nat.add_assoc]
      exact ih
    · exact tiles_regionsFrom_of_open (r := ⟨n, none⟩) (Nat.lt_succ_self n)
    · exact absurd hr.symm (Option.some_ne_none _)
    · exact tiles_regionsFrom_of_open (r := ⟨n, some n⟩) (Nat.lt_succ_self n)

/-- **The regions tile the document** from its first anchor to its end. -/
theorem tiles_regions : Tiles kinds.length (kinds.findIdx isAnchor) (regions kinds) := by
  have h : Tiles (0 + kinds.length) (0 + kinds.findIdx isAnchor) (regions kinds) :=
    tiles_regionsFrom
  rwa [Nat.zero_add, Nat.zero_add] at h

/-- **A document has no region exactly if it has no anchor.**

**Proof sketch.** Regions tile the lines from the first anchor on. If there are none, the first
anchor is at the end, so there is no anchor; and each region starts at one. -/
theorem regions_eq_nil_iff : regions kinds = [] ↔ ∀ kind ∈ kinds, ¬ kind.isAnchor := by
  have htiles : Tiles kinds.length (kinds.findIdx isAnchor) (regions kinds) := tiles_regions
  constructor
  · intro hnil
    rw [hnil] at htiles
    exact fun kind hk => Bool.eq_false_iff.1 (List.findIdx_eq_length.1 htiles kind hk)
  · intro hnone
    refine List.eq_nil_iff_forall_not_mem.2 fun r hr => ?_
    obtain ⟨kind, hk, hanchor⟩ := lineIs_iff.1 (isRegion_of_mem_regions hr).start_isAnchor
    exact hnone kind (List.mem_of_getElem? hk) hanchor

/-- Regions that tile a run of lines lie one behind the other. -/
lemma Tiles.pairwise {first stop : Nat} {rs : List Region} (h : Tiles stop first rs)
    (hr : ∀ r ∈ rs, r.start ≤ r.last) :
    (∀ r ∈ rs, first ≤ r.start) ∧ rs.Pairwise fun r r' => r.last < r'.start := by
  induction rs generalizing first with
  | nil => simp
  | cons r rs ih =>
    obtain ⟨hstart, htail⟩ := h
    have hle := hr r List.mem_cons_self
    obtain ⟨hfirst, hpair⟩ := ih htail fun r' hr' => hr r' (List.mem_cons_of_mem _ hr')
    refine ⟨fun r' hr' => ?_, List.pairwise_cons.2 ⟨fun r' hr' => hfirst r' hr', hpair⟩⟩
    rcases List.mem_cons.1 hr' with rfl | hr'
    · exact Nat.le_of_eq hstart.symm
    · have := hfirst r' hr'
      omega

/-- Each region ends before the next one starts. -/
theorem pairwise_regions : (regions kinds).Pairwise fun r r' => r.last < r'.start :=
  (tiles_regions.pairwise fun _ hr =>
    Nat.lt_succ_iff.1 (isRegion_of_mem_regions hr).start_lt).2

/-- Without an anchor in the rest of the document the open region runs to its end. -/
lemma regionsFrom_of_forall_not_isAnchor {r : OpenRegion} (h : ∀ kind ∈ rest, ¬ kind.isAnchor) :
    regionsFrom n (some r) rest = [r.closeAt (n + rest.length)] := by
  induction rest generalizing n with
  | nil => rfl
  | cons kind rest ih =>
    rw [regionsFrom_of_not_isAnchor (h kind List.mem_cons_self),
      ih fun kind' hk => h kind' (List.mem_cons_of_mem kind hk), List.length_cons,
      Nat.add_right_comm, Nat.add_assoc]

end RequestRunner
