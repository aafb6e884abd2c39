import Mathlib.Data.List.Induction
import RequestRunner.Proofs.Document.Regions

/-!
# Regions across a seam

A document is cut in two between two of its lines. The scan of the second part goes on with the
region that the first part leaves open, and depends on the number of its first line in no other way
than that all its line numbers do.

## Main definitions

* `StartsRegion` — a line of some kind starts a region of its own behind some lines.
* `Region.renumber`, `Region.shift` — a region whose lines have other numbers.

## Main results

* `exists_scan` — what the scan of a first part leaves.
* `regionsFrom_renumber` — the scan does not depend on where the line numbers start.
* `regions_append` — the regions of a document whose second part starts a region.
-/

namespace RequestRunner

open LineKind

variable {front kinds rest : List LineKind} {kind : LineKind} {opened : Option OpenRegion}
  {n d : Nat} {f : Nat → Nat}

/-! ### What the first part leaves -/

/-- A line of the first part has its kind whatever comes behind that part. -/
lemma lineIs_append {p : LineKind → Bool} {i : Nat} (h : i < front.length) :
    lineIs (front ++ rest) p i = lineIs front p i := by
  rw [lineIs, lineIs, List.getElem?_append_left h]

/-- A stretch of the first part is one of the whole. All that it is said to hold, and all that is
said of the lines before it, lies in the first part.

**Proof sketch.** A stretch ends within the first part, and a line there is of the same kind in the
whole. So each condition can be asked of the one list or of the other. -/
lemma IsStretch.append {start stop : Nat} {methodLine : Option Nat}
    (h : IsStretch front start methodLine stop) :
    IsStretch (front ++ rest) start methodLine stop := by
  have hline : ∀ {p i}, i < stop → lineIs (front ++ rest) p i = lineIs front p i :=
    fun hi => lineIs_append (Nat.lt_of_lt_of_le hi h.stop_le)
  refine ⟨h.start_lt, ?_, ?_, ?_, ?_, ?_⟩
  · exact Nat.le_trans h.stop_le (by simp)
  · rw [hline h.start_lt]
    exact h.start_isAnchor
  · intro i h₁ h₂ hsep
    rw [hline h₂] at hsep
    exact h.eq_start_of_separator i h₁ h₂ hsep
  · intro i
    rw [h.methodLine_iff i]
    refine and_congr_right fun _ => and_congr_right fun hi => ?_
    rw [hline hi]
  · intro hm j hj hsep
    rw [hline h.start_lt] at hm
    rw [hline (Nat.lt_trans hj h.start_lt)] at hsep
    obtain ⟨i, h₁, h₂, hi⟩ := h.no_separator_waits hm j hj hsep
    exact ⟨i, h₁, h₂, by rwa [hline (Nat.lt_trans h₂ h.start_lt)]⟩

/-- What the scan knows of the lines that it has looked at holds whatever comes behind them. -/
lemma ScanInv.append (h : ScanInv front n opened) (hn : n ≤ front.length) :
    ScanInv (front ++ rest) n opened := by
  cases opened with
  | none =>
    intro i hi
    rw [lineIs_append (Nat.lt_of_lt_of_le hi hn)]
    exact h i hi
  | some r => exact IsStretch.append h

/-- **The scan of a first part** gives some regions and leaves one open behind them, or none if there
are none, whatever the second part is.

**Proof sketch.** Induction from the end of the first part: its last line closes the open region,
takes its place in it or goes to it. -/
theorem exists_scan (front : List LineKind) :
    ∃ closed left, ScanInv front front.length left ∧
      (∀ r ∈ closed, ∃ o, left = some o ∧ r.last < o.start) ∧
      ∀ rest, regions (front ++ rest) = closed ++ regionsFrom front.length left rest := by
  induction front using List.reverseRecOn with
  | nil => exact ⟨[], none, fun i hi => absurd hi (Nat.not_lt_zero i), by simp, fun _ => rfl⟩
  | append_singleton front kind ih =>
    obtain ⟨closed, left, hinv, hclosed, hscan⟩ := ih
    have hinv' : ScanInv (front ++ [kind]) front.length left := hinv.append (Nat.le_refl _)
    have hkind : ∀ p, lineIs (front ++ [kind]) p front.length = p kind := fun p =>
      lineIs_of_getElem? List.getElem?_concat_length
    have hlength : (front ++ [kind]).length = front.length + 1 := List.length_append
    -- a region that opens at the last line stands behind all that are closed, the last one included
    have hnew : ∀ methodLine, ∀ r ∈ closed ++ (left.map (·.closeAt front.length)).toList,
        ∃ o : OpenRegion, some ⟨front.length, methodLine⟩ = some o ∧ r.last < o.start := by
      intro methodLine r hr
      refine ⟨_, rfl, ?_⟩
      rcases List.mem_append.1 hr with hr | hr
      · obtain ⟨o, rfl, hlt⟩ := hclosed r hr
        exact Nat.lt_trans hlt (IsStretch.start_lt hinv)
      · cases left with
        | none => simp at hr
        | some o =>
          obtain rfl : r = o.closeAt front.length := by simpa using hr
          exact Nat.sub_one_lt_of_lt (IsStretch.start_lt hinv)
    simp only [hlength, List.append_assoc, List.singleton_append, hscan]
    rcases scan_cases kind left with hpass | rfl | ⟨m, url, start, rfl, rfl⟩ | ⟨m, url, rfl, hw⟩
    · refine ⟨closed, left, hinv'.pass (by simp) (by rwa [hkind]), hclosed, fun rest => ?_⟩
      rw [regionsFrom_of_not_isAnchor hpass]
    · refine ⟨closed ++ (left.map (·.closeAt front.length)).toList, some ⟨front.length, none⟩,
        scanInv_of_separator (hkind _), hnew none, fun rest => ?_⟩
      rw [regionsFrom, List.append_assoc]
    · refine ⟨closed, some ⟨start, some front.length⟩, hinv'.join (hkind _), fun r hr => ?_,
        fun rest => ?_⟩
      · obtain ⟨o, ho, hlt⟩ := hclosed r hr
        obtain rfl := Option.some.inj ho
        exact ⟨_, rfl, hlt⟩
      · rw [regionsFrom_method_of_waiting]
    · refine ⟨closed ++ (left.map (·.closeAt front.length)).toList,
        some ⟨front.length, some front.length⟩, hinv'.open_method hw (hkind _), hnew _,
        fun rest => ?_⟩
      rw [regionsFrom_method_of_not_waiting hw, List.append_assoc]

/-- A region is only open behind a line. -/
lemma ScanInv.pos (h : ScanInv kinds n opened) (hne : opened ≠ none) : 0 < n := by
  obtain ⟨r, rfl⟩ := Option.ne_none_iff_exists'.1 hne
  exact Nat.zero_lt_of_lt (IsStretch.start_lt h)

/-! ### Lines with other numbers -/

/-- The region after its lines have got the numbers that `f` gives, by which its last line moves
`d` lines down. -/
def Region.renumber (f : Nat → Nat) (d : Nat) (r : Region) : Region :=
  ⟨f r.start, r.methodLine.map f, r.last + d⟩

/-- The open region after its lines have got the numbers that `f` gives. -/
def OpenRegion.renumber (f : Nat → Nat) (r : OpenRegion) : OpenRegion :=
  ⟨f r.start, r.methodLine.map f⟩

/-- The region `d` lines further down. -/
def Region.shift (d : Nat) (r : Region) : Region :=
  ⟨r.start + d, r.methodLine.map (· + d), r.last + d⟩

/-- A region that is closed after its lines have got other numbers is the closed region with these
numbers. Its last line is the one before the next region, which is not the first line of all. -/
lemma toList_closeAt_renumber (h : opened ≠ none → 0 < n) :
    ((opened.map (·.renumber f)).map (·.closeAt (n + d))).toList =
      (opened.map (·.closeAt n)).toList.map (·.renumber f d) := by
  rcases opened with _ | r
  · rfl
  · have hn := h (Option.some_ne_none r)
    have hlast : n + d - 1 = n - 1 + d := by omega
    simp [OpenRegion.closeAt, OpenRegion.renumber, Region.renumber, hlast]

/-- **The scan does not depend on where the line numbers start**: if the lines still to look at get
numbers that are larger by `d`, and the lines before get any others, the regions change their
numbers alike.

**Proof sketch.** Induction on the lines that are left. How a line is treated depends on its kind
and on whether a region waits, neither of which the numbers change; and the numbers that a line
gives away are its own. -/
theorem regionsFrom_renumber (hf : ∀ i, n ≤ i → f i = i + d) (h : opened ≠ none → 0 < n) :
    regionsFrom (n + d) (opened.map (·.renumber f)) rest =
      (regionsFrom n opened rest).map (·.renumber f d) := by
  induction rest generalizing n opened with
  | nil => exact toList_closeAt_renumber h
  | cons kind rest ih =>
    have hd : n + d + 1 = n + 1 + d := Nat.add_right_comm n d 1
    have hfn : f n = n + d := hf n (Nat.le_refl n)
    have hf' : ∀ i, n + 1 ≤ i → f i = i + d := fun i hi => hf i (Nat.le_of_succ_le hi)
    rcases scan_cases kind opened with hpass | rfl | ⟨m, url, start, rfl, rfl⟩ | ⟨m, url, rfl, hw⟩
    · rw [regionsFrom_of_not_isAnchor hpass, regionsFrom_of_not_isAnchor hpass, hd]
      exact ih hf' fun _ => Nat.succ_pos n
    · have ih' := @ih (some ⟨n, none⟩) (n + 1) hf' fun _ => Nat.succ_pos n
      simp only [Option.map_some, OpenRegion.renumber, Option.map_none, hfn, ← hd] at ih'
      rw [regionsFrom, regionsFrom, List.map_append, toList_closeAt_renumber h, ih']
    · have ih' := @ih (some ⟨start, some n⟩) (n + 1) hf' fun _ => Nat.succ_pos n
      simp only [Option.map_some, OpenRegion.renumber, hfn, ← hd] at ih'
      simp only [Option.map_some, OpenRegion.renumber, Option.map_none,
        regionsFrom_method_of_waiting]
      exact ih'
    · have hw' : ∀ start, opened.map (·.renumber f) ≠ some ⟨start, none⟩ := by
        rintro start hs
        rcases opened with _ | ⟨start', _ | m'⟩
        · simp at hs
        · exact hw start' rfl
        · simp [OpenRegion.renumber] at hs
      have ih' := @ih (some ⟨n, some n⟩) (n + 1) hf' fun _ => Nat.succ_pos n
      simp only [Option.map_some, OpenRegion.renumber, hfn, ← hd] at ih'
      rw [regionsFrom_method_of_not_waiting hw, regionsFrom_method_of_not_waiting hw',
        List.map_append, toList_closeAt_renumber h, ih']

/-! ### A second part that starts a region -/

/-- A line of the kind starts a region of its own behind the lines `front`: it is a separator, or a
method line for which no separator waits. -/
def StartsRegion (front : List LineKind) (kind : LineKind) : Prop :=
  kind.isSeparator ∨ (kind.isMethod ∧
    ∀ s, lineIs front isSeparator s → ∃ m, s < m ∧ lineIs front isMethod m)

/-- Behind lines where no separator waits for a method line the scan has left no waiting region. -/
lemma ScanInv.not_waiting (h : ScanInv front front.length opened)
    (hs : ∀ s, lineIs front isSeparator s → ∃ m, s < m ∧ lineIs front isMethod m) (start : Nat) :
    opened ≠ some ⟨start, none⟩ := by
  rintro rfl
  have hstretch : IsStretch front start none front.length := h
  have hnone : ∀ m, start ≤ m → ¬ lineIs front isMethod m := fun m hm hmethod =>
    Option.some_ne_none m
      ((hstretch.methodLine_iff m).2 ⟨hm, lt_length_of_lineIs hmethod, hmethod⟩).symm
  have hsep : lineIs front isSeparator start :=
    (lineIs_isAnchor_iff.1 hstretch.start_isAnchor).resolve_right (hnone start (Nat.le_refl start))
  obtain ⟨m, hm, hmethod⟩ := hs start hsep
  exact hnone m (Nat.le_of_lt hm) hmethod

/-- A line that starts a region closes the open one as the end of the document does. -/
lemma regionsFrom_of_startsRegion (h : ScanInv front front.length opened)
    (hk : StartsRegion front kind) :
    regionsFrom front.length opened (kind :: rest) =
      (opened.map (·.closeAt front.length)).toList ++
        regionsFrom front.length none (kind :: rest) := by
  rcases hk with hsep | ⟨hmethod, hs⟩
  · cases kind with
    | separator => rfl
    | method | comment | blank | header | text => exact absurd hsep Bool.false_ne_true
  · obtain ⟨m, url, rfl⟩ := isMethod_iff.1 hmethod
    rw [regionsFrom_method_of_not_waiting (h.not_waiting hs),
      regionsFrom_method_of_not_waiting fun start => (Option.some_ne_none _).symm]
    rfl

/-- **A line that starts a region cuts a document in two**: the regions before it are those of the
lines before it, and the regions from it on are those of the lines from it on.

**Proof sketch.** The scan of the first lines leaves closed regions and an open one (`exists_scan`).
The line that starts a region closes the open one, as the end of the first lines would, and from
there the scan is one of the second part with other numbers. -/
theorem regions_append (hk : StartsRegion front kind) :
    regions (front ++ kind :: rest) =
      regions front ++ (regions (kind :: rest)).map (·.shift front.length) := by
  obtain ⟨closed, left, hinv, -, hscan⟩ := exists_scan front
  have hfront : regions front = closed ++ (left.map (·.closeAt front.length)).toList := by
    simpa [regionsFrom] using hscan []
  have hrest : regionsFrom (0 + front.length) none (kind :: rest) =
      (regions (kind :: rest)).map (·.shift front.length) :=
    regionsFrom_renumber (f := (· + front.length)) (fun _ _ => rfl) fun h => absurd rfl h
  rw [Nat.zero_add] at hrest
  rw [hscan, regionsFrom_of_startsRegion hinv hk, hfront, hrest, List.append_assoc]

end RequestRunner
