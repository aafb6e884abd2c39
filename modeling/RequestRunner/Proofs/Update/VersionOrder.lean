import Mathlib.Data.Prod.Lex
import RequestRunner.Proofs.Document.LineForms
import RequestRunner.Proofs.Text.Digits
import RequestRunner.Version

/-!
# The order of versions

A text is a version in one way at most, and which version it is can be said without reading it. One
text is newer than another if both are versions and the one has the greater numbers, compared one
after the other. What is no version is neither newer nor older than anything, so that the laws of a
strict order hold of all texts.

## Main definitions

* `Version.IsPart`, `Version.IsText` — what is the text of a version.
* `Version.triple` — the numbers of a version, in lexicographic order.

## Main results

* `Version.ofText?_eq_some_iff` — texts of versions are what is read as them.
* `isNewer_strict_order` — which texts are newer than which, and the laws of this order.
-/

namespace RequestRunner

namespace Version

/-- The text of a number of 64 bits: digits, at least one, that write it, with a plus sign before
them or nothing. -/
def IsPart (n : ℕ) (cs : List Char) : Prop :=
  ∃ sign digits, (sign = [] ∨ sign = ['+']) ∧ cs = sign ++ digits ∧ digits ≠ [] ∧
    (∀ c ∈ digits, c.isDigit) ∧ Nat.ofDigitChars 10 digits 0 = n ∧ n < UInt64.size

/-- The text of a version: its three numbers with dots between them, with a `v` before them or
nothing. -/
def IsText (v : Version) (text : String) : Prop :=
  ∃ mark major minor patch, (mark = [] ∨ mark = ['v']) ∧
    text.toList = mark ++ (major ++ '.' :: (minor ++ '.' :: patch)) ∧
    IsPart v.major major ∧ IsPart v.minor minor ∧ IsPart v.patch patch

/-- The numbers of a version, of which the first one that differs decides. -/
def triple (v : Version) : ℕ ×ₗ ℕ ×ₗ ℕ := toLex (v.major, toLex (v.minor, v.patch))

variable {v w : Version} {text : String} {cs part rest : List Char} {n : ℕ}

/-! ### Parts -/

/-- **A part is read as its number.** A sign that is no digit is taken off first, so the digits are
never empty.

**Proof sketch.** By whether a plus sign stands in front. A part without one begins with a digit, so
no sign is taken off by mistake. -/
lemma part?_eq_some_iff : part? cs = some n ↔ IsPart n cs := by
  rw [part?, Text.readNatural?, Text.readDigits?_eq_some_iff]
  constructor
  · intro h
    split at h
    · rename_i hplus
      obtain ⟨ds, rfl⟩ := List.head?_eq_some_iff.1 hplus
      exact ⟨['+'], ds, .inr rfl, rfl, h⟩
    · exact ⟨[], cs, .inl rfl, rfl, h⟩
  · rintro ⟨sign, digits, hsign, rfl, h⟩
    rcases hsign with rfl | rfl
    · have hnot : ¬ digits.head? = some '+' := fun hplus =>
        absurd (h.2.1 '+' (List.mem_of_head? hplus)) (by decide)
      rw [List.nil_append, if_neg hnot]
      exact h
    · exact h

/-- A part begins with a digit or a plus sign and goes on with digits. -/
lemma IsPart.exists_cons (h : IsPart n cs) : ∃ c more, cs = c :: more ∧ (c.isDigit ∨ c = '+') := by
  obtain ⟨sign, digits, hsign, rfl, hne, hdigits, -⟩ := h
  rcases hsign with rfl | rfl
  · obtain ⟨c, more, rfl⟩ := List.exists_cons_of_ne_nil hne
    exact ⟨c, more, rfl, .inl (hdigits c List.mem_cons_self)⟩
  · exact ⟨'+', digits, rfl, .inr rfl⟩

/-- There is no dot in a part. -/
lemma IsPart.not_mem_dot (h : IsPart n cs) : '.' ∉ cs := by
  obtain ⟨sign, digits, hsign, rfl, -, hdigits, -⟩ := h
  rcases hsign with rfl | rfl
  · exact fun hdot => absurd (hdigits _ hdot) (by decide)
  · intro hdot
    rcases List.mem_cons.1 hdot with heq | hdot
    · exact absurd heq (by decide)
    · exact absurd (hdigits _ hdot) (by decide)

/-! ### Texts -/

/-- A text is divided at its first dot. -/
lemma splitAtDot?_eq_some_iff :
    splitAtDot? cs = some (part, rest) ↔ cs = part ++ '.' :: rest ∧ '.' ∉ part := by
  have hcut : splitAtDot? cs = splitAt? '.' cs := rfl
  rw [hcut]
  refine ⟨eq_append_of_splitAt?, ?_⟩
  rintro ⟨rfl, hdot⟩
  exact splitAt?_append hdot

/-- A part begins with no mark. -/
lemma dropMark_of_isPart (h : IsPart n part) (cs : List Char) :
    dropMark (part ++ cs) = part ++ cs := by
  obtain ⟨c, more, rfl, hc⟩ := h.exists_cons
  refine if_neg fun hmark => ?_
  obtain rfl : c = 'v' := Option.some.inj hmark
  rcases hc with hc | hc <;> exact absurd hc (by decide)

/-- **The texts of a version** are those that are read as it.

**Proof sketch.** A text that is read is its mark and what is behind it, which is divided at its
first two dots. A text of a version is divided there too, since no dot is in its parts, and no mark
is taken off that is not one. -/
theorem ofText?_eq_some_iff : ofText? text = some v ↔ v.IsText text := by
  have hmark : ∀ cs : List Char, ∃ mark, (mark = [] ∨ mark = ['v']) ∧ cs = mark ++ dropMark cs := by
    intro cs
    rw [dropMark]
    split
    · rename_i h
      obtain ⟨more, rfl⟩ := List.head?_eq_some_iff.1 h
      exact ⟨['v'], .inr rfl, rfl⟩
    · exact ⟨[], .inl rfl, rfl⟩
  constructor
  · intro h
    simp only [ofText?, Option.bind_eq_bind, Option.bind_eq_some_iff, Option.pure_def,
      Option.some.injEq, Prod.exists, splitAtDot?_eq_some_iff, part?_eq_some_iff] at h
    obtain ⟨major, behind, ⟨hfirst, -⟩, minor, patch, ⟨rfl, -⟩, _, hmajor, _, hminor, _, hpatch,
      rfl⟩ := h
    obtain ⟨mark, hm, hcs⟩ := hmark text.toList
    exact ⟨mark, major, minor, patch, hm, hcs.trans (by rw [hfirst]), hmajor, hminor, hpatch⟩
  · rintro ⟨mark, major, minor, patch, hm, hcs, hmajor, hminor, hpatch⟩
    have hdropped : dropMark text.toList = major ++ '.' :: (minor ++ '.' :: patch) := by
      rw [hcs]
      rcases hm with rfl | rfl
      · exact dropMark_of_isPart hmajor _
      · rfl
    -- the first dot is the one behind the first part, as there is none in it
    have hfirst := splitAtDot?_eq_some_iff.2 ⟨hdropped, hmajor.not_mem_dot⟩
    have hsecond : splitAtDot? (minor ++ '.' :: patch) = some (minor, patch) :=
      splitAtDot?_eq_some_iff.2 ⟨rfl, hminor.not_mem_dot⟩
    simp only [ofText?, hfirst, hsecond, part?_eq_some_iff.2 hmajor, part?_eq_some_iff.2 hminor,
      part?_eq_some_iff.2 hpatch, Option.bind_eq_bind, Option.bind_some, Option.pure_def]

/-- A text is one version at most. -/
lemma IsText.unique (hv : v.IsText text) (hw : w.IsText text) : v = w := by
  rw [← ofText?_eq_some_iff] at hv hw
  exact Option.some.inj (hv.symm.trans hw)

/-- A mark before a digit changes nothing. -/
lemma ofText?_mark (h : text.toList.head?.any Char.isDigit) :
    ofText? ("v" ++ text) = ofText? text := by
  have hnot : ¬ text.toList.head? = some 'v' := fun hmark => by
    rw [hmark] at h
    exact absurd h (by decide)
  have hsame : dropMark ("v" ++ text).toList = dropMark text.toList := by
    rw [String.toList_append]
    exact (if_neg hnot).symm
  rw [ofText?, ofText?, hsame]

/-! ### The order -/

/-- One version is below another if its numbers are less in lexicographic order. -/
lemma isBelow_iff : v.isBelow w ↔ v.triple < w.triple := by
  simp [isBelow, triple, Prod.Lex.toLex_lt_toLex]

/-- A version is determined by its numbers. -/
lemma triple_injective : Function.Injective triple := by
  rintro ⟨major, minor, patch⟩ ⟨major', minor', patch'⟩ h
  obtain ⟨rfl, rfl, rfl⟩ : major = major' ∧ minor = minor' ∧ patch = patch' := by
    simpa [triple] using h
  rfl

end Version

/-- One text is newer than another if both are versions and the numbers of the one are greater. -/
lemma isNewer_iff {latest current : String} :
    isNewer latest current ↔
      ∃ v w : Version, v.IsText latest ∧ w.IsText current ∧ w.triple < v.triple := by
  simp only [← Version.ofText?_eq_some_iff, ← Version.isBelow_iff, isNewer]
  split
  · rename_i v w hv hw
    simp [hv, hw]
  · rename_i hnone
    simp only [Bool.false_eq_true, false_iff, not_exists]
    exact fun v w h => hnone v w h.1 h.2.1

/-- **Versions are ordered by their numbers.** One text is newer than another if and only if both
are texts of versions, each of one version only, and the numbers of the one are greater in
lexicographic order. So no text is newer than itself, of two texts one at most is newer than the
other, and a text that is newer than a newer one is newer. A mark before a text that begins with a
digit changes nothing on either side. Of two texts of versions either one is newer, or the other one
is, or the numbers are the same.

**Proof sketch.** By `isNewer_iff` the order is that of the numbers of the versions that the texts
are of, and a text is of one version only. So each law is one of the lexicographic order. -/
theorem isNewer_strict_order :
    (∀ latest current, isNewer latest current ↔
      ∃ v w : Version, v.IsText latest ∧ w.IsText current ∧ w.triple < v.triple) ∧
    (∀ (text : String) (v w : Version), v.IsText text → w.IsText text → v = w) ∧
    (∀ text, ¬ isNewer text text) ∧
    (∀ a b, isNewer a b → ¬ isNewer b a) ∧
    (∀ a b c, isNewer a b → isNewer b c → isNewer a c) ∧
    (∀ a b : String, a.toList.head?.any Char.isDigit →
      isNewer ("v" ++ a) b = isNewer a b ∧ isNewer b ("v" ++ a) = isNewer b a) ∧
    ∀ (a b : String) (v w : Version), v.IsText a → w.IsText b →
      (isNewer a b ∧ ¬ isNewer b a ∧ v.triple ≠ w.triple) ∨
      (¬ isNewer a b ∧ isNewer b a ∧ v.triple ≠ w.triple) ∨
      (¬ isNewer a b ∧ ¬ isNewer b a ∧ v.triple = w.triple) := by
  have hasymm : ∀ a b, isNewer a b → ¬ isNewer b a := by
    intro a b hab hba
    obtain ⟨v, w, hv, hw, hlt⟩ := isNewer_iff.1 hab
    obtain ⟨w', v', hw', hv', hlt'⟩ := isNewer_iff.1 hba
    obtain rfl := hv.unique hv'
    obtain rfl := hw.unique hw'
    exact lt_asymm hlt hlt'
  refine ⟨fun _ _ => isNewer_iff, fun _ _ _ => Version.IsText.unique, fun text h => hasymm _ _ h h,
    hasymm, fun a b c hab hbc => ?_, fun a b h => ?_, fun a b v w hv hw => ?_⟩
  · obtain ⟨v, w, hv, hw, hlt⟩ := isNewer_iff.1 hab
    obtain ⟨w', u, hw', hu, hlt'⟩ := isNewer_iff.1 hbc
    obtain rfl := hw.unique hw'
    exact isNewer_iff.2 ⟨v, u, hv, hu, lt_trans hlt' hlt⟩
  · have hmark := Version.ofText?_mark h
    exact ⟨by rw [isNewer, isNewer, hmark], by rw [isNewer, isNewer, hmark]⟩
  · rcases lt_trichotomy v.triple w.triple with hlt | heq | hgt
    · have hba : isNewer b a := isNewer_iff.2 ⟨w, v, hw, hv, hlt⟩
      exact .inr (.inl ⟨hasymm b a hba, hba, ne_of_lt hlt⟩)
    · obtain rfl := Version.triple_injective heq
      have hnot : ∀ {s t : String}, v.IsText s → v.IsText t → ¬ isNewer s t := by
        intro s t hs ht h
        obtain ⟨v₁, v₂, h₁, h₂, hlt⟩ := isNewer_iff.1 h
        obtain rfl := hs.unique h₁
        obtain rfl := ht.unique h₂
        exact lt_irrefl _ hlt
      exact .inr (.inr ⟨hnot hv hw, hnot hw hv, rfl⟩)
    · have hab : isNewer a b := isNewer_iff.2 ⟨v, w, hv, hw, hgt⟩
      exact .inl ⟨hab, hasymm a b hab, ne_of_gt hgt⟩

/-- The greatest number of a part counts, and neither signs, nor leading zeros, nor marks do. -/
theorem isNewer_strict_order_of_greatest_part :
    let a := "v+1.010.18446744073709551615"
    let b := "1.10.018446744073709551614"
    let v : Version := ⟨1, 10, 18446744073709551615⟩
    let w : Version := ⟨1, 10, 18446744073709551614⟩
    v.IsText a ∧ w.IsText b ∧ isNewer a b ∧ ¬ isNewer b a ∧ isNewer a ("v" ++ b) ∧
      isNewer b "0.0.0" ∧ isNewer a "0.0.0" := by
  intro a b v w
  have hv : v.IsText a := Version.ofText?_eq_some_iff.1 (by decide +kernel)
  have hw : w.IsText b := Version.ofText?_eq_some_iff.1 (by decide +kernel)
  obtain ⟨hiff, hunique, -, hasymm, htrans, hmark, hcases⟩ := isNewer_strict_order
  have hlt : w.triple < v.triple := Version.isBelow_iff.1 (by decide)
  have hab : isNewer a b := (hiff a b).2 ⟨v, w, hv, hw, hlt⟩
  have hnot : ¬ isNewer b a := by
    rcases hcases a b v w hv hw with ⟨-, h, -⟩ | ⟨h, -, -⟩ | ⟨h, -, -⟩
    · exact h
    · exact absurd hab h
    · exact absurd hab h
  have hzero : isNewer b "0.0.0" := by decide +kernel
  refine ⟨hv, hw, hab, hnot, ?_, hzero, htrans a b _ hab hzero⟩
  rw [(hmark b a (by decide)).2]
  exact hab

end RequestRunner
