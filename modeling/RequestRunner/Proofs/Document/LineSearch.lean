import Mathlib.Data.List.Basic
import RequestRunner.Document.Block

/-!
# Searching the lines of a document by their kind

A line is named by its index. The position of a block is described by searches for the first or
the last line of a class of kinds between two lines: the next anchor behind a method line, the last
separator before it, the last line that is not blank.

## Main definitions

* `LineKind.isSeparator`, `LineKind.isMethod`, `LineKind.isAnchor`, `LineKind.isBlank`,
  `LineKind.isFilled` — classes of kinds.
* `lineIs` — a line has a kind of a class.
* `firstLine?`, `lastLine?` — the first and the last such line between two lines.

## Main results

* `firstLine?_eq_some_iff`, `lastLine?_eq_some_iff` — what the searches find, by order alone.
* `findIdx?_extract` — a search in a stretch of lines, counted from the start of the stretch.
-/

namespace RequestRunner

namespace LineKind

/-- Whether the kind is `separator`. -/
def isSeparator : LineKind → Bool
  | separator => true
  | _ => false

/-- Whether the kind is `method`. -/
def isMethod : LineKind → Bool
  | method _ _ => true
  | _ => false

/-- Whether a line of this kind is an anchor: a separator or a method line. -/
def isAnchor (kind : LineKind) : Bool := kind.isSeparator || kind.isMethod

/-- Whether the kind is `blank`. -/
def isBlank : LineKind → Bool
  | blank => true
  | _ => false

/-- Whether the kind is any but `blank`. -/
def isFilled (kind : LineKind) : Bool := !kind.isBlank

/-- The class of blank lines has one kind. -/
lemma isBlank_iff {kind : LineKind} : kind.isBlank ↔ kind = .blank := by
  cases kind <;> simp [isBlank]

/-- The class of method lines has the kinds with a method and an address. -/
lemma isMethod_iff {kind : LineKind} : kind.isMethod ↔ ∃ m url, kind = .method m url := by
  cases kind <;> simp [isMethod]

end LineKind

/-- Line `i` exists and its kind is in the class `p`. -/
def lineIs (kinds : List LineKind) (p : LineKind → Bool) (i : Nat) : Bool := kinds[i]?.any p

/-- The first line from `first` up to just before `stop` with a kind in the class `p`. -/
def firstLine? (kinds : List LineKind) (p : LineKind → Bool) (first stop : Nat) : Option Nat :=
  (List.range' first (stop - first)).find? (lineIs kinds p)

/-- The last line from `first` up to just before `stop` with a kind in the class `p`. -/
def lastLine? (kinds : List LineKind) (p : LineKind → Bool) (first stop : Nat) : Option Nat :=
  (List.range' first (stop - first)).reverse.find? (lineIs kinds p)

variable {kinds : List LineKind} {p : LineKind → Bool} {first stop i : Nat}

/-! ### Lines and their kinds -/

/-- A line is in a class exactly if it exists and its kind is. -/
lemma lineIs_iff : lineIs kinds p i ↔ ∃ kind, kinds[i]? = some kind ∧ p kind := by
  simp [lineIs, Option.any_eq_true]

/-- Of a line whose kind is known, the kind decides. -/
lemma lineIs_of_getElem? {kind : LineKind} (h : kinds[i]? = some kind) :
    lineIs kinds p i = p kind := by
  simp [lineIs, h]

/-- A line of some class is a line of the document. -/
lemma lt_length_of_lineIs (h : lineIs kinds p i) : i < kinds.length := by
  obtain ⟨kind, hk, -⟩ := lineIs_iff.1 h
  exact (List.getElem?_eq_some_iff.1 hk).1

/-- An anchor is a separator or a method line. -/
lemma lineIs_isAnchor_iff :
    lineIs kinds LineKind.isAnchor i ↔
      lineIs kinds LineKind.isSeparator i ∨ lineIs kinds LineKind.isMethod i := by
  cases h : kinds[i]? <;> simp [lineIs, h, LineKind.isAnchor]

/-- A line is a separator exactly if that is its kind. -/
lemma lineIs_isSeparator_iff :
    lineIs kinds LineKind.isSeparator i ↔ kinds[i]? = some .separator := by
  rw [lineIs_iff]
  constructor
  · rintro ⟨kind, hk, hp⟩
    cases kind <;> simp_all [LineKind.isSeparator]
  · exact fun h => ⟨_, h, rfl⟩

/-- A line is a method line exactly if it gives a method and an address. -/
lemma lineIs_isMethod_iff :
    lineIs kinds LineKind.isMethod i ↔ ∃ m url, kinds[i]? = some (.method m url) := by
  rw [lineIs_iff]
  constructor
  · rintro ⟨kind, hk, hp⟩
    obtain ⟨m, url, rfl⟩ := LineKind.isMethod_iff.1 hp
    exact ⟨m, url, hk⟩
  · rintro ⟨m, url, h⟩
    exact ⟨_, h, rfl⟩

/-- A line is filled exactly if it is there and not blank. Behind the end there is neither. -/
lemma lineIs_isFilled_iff :
    lineIs kinds LineKind.isFilled i ↔ i < kinds.length ∧ ¬ lineIs kinds LineKind.isBlank i := by
  by_cases hi : i < kinds.length
  · simp [lineIs, LineKind.isFilled, hi]
  · simp [lineIs, hi]

/-- No line is both a separator and a method line. -/
lemma not_isMethod_of_isSeparator (h : lineIs kinds LineKind.isSeparator i) :
    ¬ lineIs kinds LineKind.isMethod i := by
  rw [lineIs_isSeparator_iff] at h
  simp [lineIs, h, LineKind.isMethod]

/-! ### What the searches find -/

/-- **What the search for the first line finds**, by order alone. -/
theorem firstLine?_eq_some_iff :
    firstLine? kinds p first stop = some i ↔
      first ≤ i ∧ i < stop ∧ lineIs kinds p i ∧ ∀ j, first ≤ j → j < i → ¬ lineIs kinds p j := by
  rw [firstLine?, List.find?_range'_eq_some, List.mem_range'_1]
  simp only [Bool.not_eq_true', Bool.not_eq_true]
  constructor
  · rintro ⟨hp, hi, hj⟩
    exact ⟨hi.1, by omega, hp, hj⟩
  · rintro ⟨h₁, h₂, hp, hj⟩
    exact ⟨hp, ⟨h₁, by omega⟩, hj⟩

/-- The search for the first line finds nothing exactly if no line is in the class. -/
theorem firstLine?_eq_none_iff :
    firstLine? kinds p first stop = none ↔ ∀ j, first ≤ j → j < stop → ¬ lineIs kinds p j := by
  simp only [firstLine?, List.find?_eq_none, List.mem_range'_1]
  constructor
  · exact fun h j h₁ h₂ => h j ⟨h₁, by omega⟩
  · exact fun h j hj => h j hj.1 (by omega)

/-- The search for the last line finds nothing exactly if no line is in the class. -/
theorem lastLine?_eq_none_iff :
    lastLine? kinds p first stop = none ↔ ∀ j, first ≤ j → j < stop → ¬ lineIs kinds p j := by
  rw [← firstLine?_eq_none_iff, lastLine?, firstLine?, List.find?_eq_none, List.find?_eq_none]
  simp only [List.mem_reverse]

/-- A search that ends one line later looks at that line first. -/
lemma lastLine?_succ (h : first ≤ stop) :
    lastLine? kinds p first (stop + 1) =
      if lineIs kinds p stop then some stop else lastLine? kinds p first stop := by
  rw [lastLine?, lastLine?, show stop + 1 - first = stop - first + 1 by omega,
    List.range'_1_concat, List.reverse_append, List.reverse_singleton, List.singleton_append,
    List.find?_cons, show first + (stop - first) = stop by omega]
  cases lineIs kinds p stop <;> rfl

/-- A search looks at its first line first. -/
lemma firstLine?_of_lt (h : first < stop) :
    firstLine? kinds p first stop =
      if lineIs kinds p first then some first else firstLine? kinds p (first + 1) stop := by
  rw [firstLine?, firstLine?, show stop - first = stop - (first + 1) + 1 by omega,
    List.range'_succ, List.find?_cons]
  cases lineIs kinds p first <;> rfl

/-- **What the search for the last line finds**, by order alone.

**Proof sketch.** Induction on where the search ends: it answers with its last line if that is in
the class, and otherwise goes on to the lines before. -/
theorem lastLine?_eq_some_iff :
    lastLine? kinds p first stop = some i ↔
      first ≤ i ∧ i < stop ∧ lineIs kinds p i ∧ ∀ j, i < j → j < stop → ¬ lineIs kinds p j := by
  induction stop with
  | zero => simp [lastLine?]
  | succ stop ih =>
    by_cases hfs : first ≤ stop
    · rw [lastLine?_succ hfs]
      by_cases hp : lineIs kinds p stop
      · rw [if_pos hp, Option.some.injEq]
        constructor
        · rintro rfl
          exact ⟨hfs, by omega, hp, fun j _ _ => by omega⟩
        · rintro ⟨-, h₂, -, h₄⟩
          by_contra hne
          exact h₄ stop (by omega) (by omega) hp
      · rw [if_neg hp, ih]
        constructor
        · rintro ⟨h₁, h₂, h₃, h₄⟩
          refine ⟨h₁, by omega, h₃, fun j hj₁ hj₂ => ?_⟩
          rcases Nat.lt_succ_iff_lt_or_eq.1 hj₂ with hj | rfl
          · exact h₄ j hj₁ hj
          · exact hp
        · rintro ⟨h₁, h₂, h₃, h₄⟩
          have hne : i ≠ stop := fun h => hp (h ▸ h₃)
          exact ⟨h₁, by omega, h₃, fun j hj₁ hj₂ => h₄ j hj₁ (by omega)⟩
    · simp only [lastLine?, show stop + 1 - first = 0 by omega, List.range'_zero,
        List.reverse_nil, List.find?_nil, reduceCtorEq, false_iff]
      omega

/-! ### Searches in stretches -/

/-- A search may leave out its last line if that is not in the class. -/
lemma firstLine?_succ_of_not (h : ¬ lineIs kinds p stop) :
    firstLine? kinds p first (stop + 1) = firstLine? kinds p first stop := by
  cases hf : firstLine? kinds p first stop with
  | none =>
    rw [firstLine?_eq_none_iff] at hf ⊢
    intro j h₁ h₂
    rcases Nat.lt_succ_iff_lt_or_eq.1 h₂ with h₂ | rfl
    · exact hf j h₁ h₂
    · exact h
  | some i =>
    rw [firstLine?_eq_some_iff] at hf ⊢
    obtain ⟨h₁, h₂, h₃⟩ := hf
    exact ⟨h₁, Nat.lt_succ_of_lt h₂, h₃⟩

/-- **A search in a stretch of lines**, counted from the start of the stretch, is the search for the
first line between its ends.

**Proof sketch.** Induction on the length of the stretch. Behind the end of the document neither
search finds anything; on a line, both look at its kind and then go on from the next one. -/
lemma findIdx?_extract :
    (kinds.extract first stop).findIdx? p = (firstLine? kinds p first stop).map (· - first) := by
  obtain ⟨count, hcount⟩ : ∃ count, stop - first = count := ⟨_, rfl⟩
  rw [firstLine?, List.extract_eq_take_drop, hcount]
  clear hcount
  induction count generalizing first with
  | zero => simp
  | succ count ih =>
    by_cases hlen : kinds.length ≤ first
    · have hnone : (List.range' first (count + 1)).find? (lineIs kinds p) = none := by
        refine List.find?_eq_none.2 fun i hi hline => ?_
        have := lt_length_of_lineIs hline
        have := (List.mem_range'_1.1 hi).1
        omega
      rw [hnone, List.drop_eq_nil_of_le hlen, List.take_nil, List.findIdx?_nil, Option.map_none]
    · have hlt : first < kinds.length := Nat.lt_of_not_le hlen
      rw [List.drop_eq_getElem_cons hlt, List.take_succ_cons, List.findIdx?_cons, ih,
        List.range'_succ, List.find?_cons, lineIs_of_getElem? (List.getElem?_eq_getElem hlt)]
      cases hp : p kinds[first] with
      | true => simp
      | false =>
        cases hf : (List.range' (first + 1) count).find? (lineIs kinds p) with
        | none => simp
        | some i =>
          have := (List.mem_range'_1.1 (List.mem_of_find?_eq_some hf)).1
          have hshift : i - (first + 1) + 1 = i - first := by omega
          simp [hshift]

end RequestRunner
