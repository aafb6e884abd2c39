import Mathlib.Data.List.TakeWhile
import RequestRunner.Proofs.Json.WellFormed

/-!
# What is accepted

A value is read only where a well-formed one stands, with its surrogates in pairs and not too deep.
So a reader that gives a value tells what it has read it from.

## Main definitions

* `Json.ReadsFormed` — a reader gives something only where a well-formed value stands.
* `Json.WellFormed` — the texts that may be accepted.

## Main results

* `Json.of_readStringChars`, `Json.of_readNumber` — strings and numbers.
* `Json.of_readItems`, `Json.of_foldMembers` — the insides of arrays and objects.
* `Json.readsFormed_readArranged` — values.
* `Json.wellFormed_of_parse?` — whole texts.
-/

namespace RequestRunner.Json

variable {α β σ : Type} {cs rest word : List Char} {n : Nat} {c : Char}

/-- Two steps succeed if both do. -/
lemma bind_eq_ok_iff {x : Except Fault α} {f : α → Except Fault β} {b : β} :
    x >>= f = .ok b ↔ ∃ a, x = .ok a ∧ f a = .ok b := by
  cases x <;> simp [bind, Except.bind]

/-- What is skipped before a token is a gap. -/
lemma exists_gap (cs : List Char) : ∃ gap, Gap gap ∧ cs = gap ++ skipGap cs :=
  ⟨cs.takeWhile isGap, fun _ hc => List.mem_takeWhile_imp hc,
    (List.takeWhile_append_dropWhile ..).symm⟩

/-! ### Words and strings -/

/-- A word is read where it stands. -/
lemma of_readWord (h : readWord word cs = .ok rest) : cs = word ++ rest := by
  induction word generalizing cs with
  | nil => exact Except.ok.inj h
  | cons e word ih =>
    cases cs with
    | nil => cases h
    | cons c cs =>
      rw [readWord] at h
      split at h
      · next hc => rw [hc, ih h, List.cons_append]
      · cases h

/-- A word is read where it stands, whatever value it is. -/
lemma of_word {v v' : Json} (h : readWord word cs >>= (fun rest => .ok (v, rest)) = .ok (v', rest)) :
    cs = word ++ rest := by
  obtain ⟨rest', hword, hlast⟩ := bind_eq_ok_iff.1 h
  obtain ⟨-, rfl⟩ := Prod.mk.inj (Except.ok.inj hlast)
  exact of_readWord hword

/-- A hexadecimal digit has a value below 16, whichever of its three ranges it is from. -/
lemma hexValue_lt (h : Text.hexValue c = some n) : n < 16 := by
  rw [Text.hexValue] at h
  simp only [Char.le_def, UInt32.le_iff_toNat_le] at h
  split at h
  · next hc =>
    have hn : c.toNat - 48 = n := Option.some.inj h
    have hle : c.toNat ≤ 57 := hc.2
    omega
  split at h
  · next hc =>
    have hn : c.toNat - 87 = n := Option.some.inj h
    have hle : c.toNat ≤ 102 := hc.2
    omega
  split at h
  · next hc =>
    have hn : c.toNat - 55 = n := Option.some.inj h
    have hle : c.toNat ≤ 70 := hc.2
    omega
  · cases h

/-- Each of the characters has a value. -/
lemma mapM_hexValue_eq_some_iff {ns : List Nat} : cs.mapM Text.hexValue = some ns ↔
    List.Forall₂ (fun c n => Text.hexValue c = some n) cs ns := by
  induction cs generalizing ns with
  | nil => cases ns <;> simp
  | cons c cs ih =>
    simp only [List.mapM_cons, Option.bind_eq_bind, Option.bind_eq_some_iff, Option.pure_def,
      Option.some.injEq, ih, List.forall₂_cons_left_iff]
    exact ⟨fun ⟨n, hn, ns, hns, heq⟩ => ⟨n, ns, hn, hns, heq.symm⟩,
      fun ⟨n, ns, hn, hns, heq⟩ => ⟨n, hn, ns, hns, heq.symm⟩⟩

/-- Where a unit is read, four hexadecimal digits stand that write it.

**Proof sketch.** The four first characters have values, so there are four of them, and each is a
digit. What is left are the characters behind them. -/
lemma of_readHexUnit (h : readHexUnit cs = .ok (n, rest)) :
    ∃ digits, UnitText n digits ∧ n < 65536 ∧ cs = digits ++ rest := by
  unfold readHexUnit at h
  split at h
  · next n₁ n₂ n₃ n₄ hvalues =>
    obtain ⟨rfl, rfl⟩ := Prod.mk.inj (Except.ok.inj h)
    have hdigits := mapM_hexValue_eq_some_iff.1 hvalues
    -- the list of values has four elements, so the list of characters has
    rcases hfour : cs.take 4 with _ | ⟨c₁, _ | ⟨c₂, _ | ⟨c₃, _ | ⟨c₄, _ | ⟨c₅, more⟩⟩⟩⟩⟩ <;>
      simp only [hfour, List.forall₂_cons, List.forall₂_nil_left_iff, List.forall₂_nil_right_iff,
        reduceCtorEq, and_false, and_true] at hdigits
    obtain ⟨h₁, h₂, h₃, h₄⟩ := hdigits
    have hlt₁ := hexValue_lt h₁
    have hlt₂ := hexValue_lt h₂
    have hlt₃ := hexValue_lt h₃
    have hlt₄ := hexValue_lt h₄
    exact ⟨_, .digits h₁ h₂ h₃ h₄, by omega, by rw [← hfour, List.take_append_drop]⟩
  · dsimp only at h
    split at h <;> cases h

/-- Where the second surrogate of a pair is read, it stands behind a reverse solidus, and the two
are the character that was read.

**Proof sketch.** The other cases of the definition are faults. The number of the character is that
of a valid one, as both halves are in their ranges. -/
lemma of_readLowUnit {high : Nat} (hhigh : 0xD800 ≤ high ∧ high ≤ 0xDBFF)
    (h : readLowUnit high cs = .ok (c, rest)) :
    ∃ low digits, UnitText low digits ∧ (0xDC00 ≤ low ∧ low ≤ 0xDFFF) ∧
      (high - 0xD800) * 1024 + (low - 0xDC00) + 0x10000 = c.toNat ∧
      cs = '\\' :: 'u' :: (digits ++ rest) := by
  unfold readLowUnit at h
  split at h
  · cases h
  · cases h
  · next more =>
    obtain ⟨⟨low, more'⟩, hunit, hlast⟩ := bind_eq_ok_iff.1 h
    obtain ⟨digits, hdigits, -, rfl⟩ := of_readHexUnit hunit
    dsimp only at hlast
    split at hlast
    · next hlow =>
      obtain ⟨rfl, rfl⟩ := Prod.mk.inj (Except.ok.inj hlast)
      rw [Text.toNat_ofNat (by omega)]
      exact ⟨low, digits, hdigits, hlow, rfl, rfl⟩
    · cases hlast
  · cases h
  · cases h

/-- **What is read of an escape** is what it stands for.

**Proof sketch.** One case for each form: a letter; a unit that is no surrogate; and a high
surrogate, behind which a low one was read. A low surrogate by itself is refused. -/
lemma of_readEscape (h : readEscape cs = .ok (c, rest)) :
    ∃ form, EscapeText c form ∧ cs = form ++ rest := by
  unfold readEscape at h
  split at h
  · cases h
  · next more =>
    obtain ⟨⟨unit, more'⟩, hunit, hlast⟩ := bind_eq_ok_iff.1 h
    obtain ⟨digits, hdigits, hlt, rfl⟩ := of_readHexUnit hunit
    dsimp only at hlast
    split at hlast
    · cases hlast
    split at hlast
    · next hhigh =>
      obtain ⟨low, digits', hdigits', hlow, hc, rfl⟩ := of_readLowUnit hhigh hlast
      exact ⟨_, .pair hdigits hdigits' hhigh hlow hc, by simp⟩
    · next hlow hhigh =>
      obtain ⟨rfl, rfl⟩ := Prod.mk.inj (Except.ok.inj hlast)
      refine ⟨'u' :: digits, .unit ?_, rfl⟩
      rwa [Text.toNat_ofNat (by omega)]
  · next e more hu =>
    split at h
    · next he =>
      obtain ⟨rfl, rfl⟩ := Prod.mk.inj (Except.ok.inj h)
      exact ⟨[e], .letter he, rfl⟩
    · cases h

/-- **What is read of a string** is what it stands for.

**Proof sketch.** By induction on the fuel, which is one for each character that is read. A quote
ends the string, a reverse solidus begins an escape, a control character is refused, and any other
one stands for itself. -/
lemma of_readStringChars {fuel : Nat} {s : List Char}
    (h : readStringChars fuel cs = .ok (s, rest)) :
    ∃ quoted, StringText s quoted ∧ cs = quoted ++ '"' :: rest := by
  induction fuel generalizing cs s with
  | zero => cases h
  | succ fuel ih =>
    rcases cs with _ | ⟨c, cs⟩
    · cases h
    rw [readStringChars] at h
    split at h
    · next hquote =>
      obtain ⟨rfl, rfl⟩ := Prod.mk.inj (Except.ok.inj h)
      exact ⟨[], .nil, by rw [hquote]; rfl⟩
    split at h
    · next hsolidus =>
      obtain ⟨⟨e, more⟩, hescape, hmore⟩ := bind_eq_ok_iff.1 h
      obtain ⟨⟨es, more'⟩, hchars, hlast⟩ := bind_eq_ok_iff.1 hmore
      obtain ⟨rfl, rfl⟩ := Prod.mk.inj (Except.ok.inj hlast)
      obtain ⟨form, hform, rfl⟩ := of_readEscape hescape
      obtain ⟨quoted, hquoted, rfl⟩ := ih hchars
      exact ⟨'\\' :: (form ++ quoted), .escape hform hquoted, by simp [hsolidus]⟩
    split at h
    · cases h
    · next hquote hsolidus hcontrol =>
      obtain ⟨⟨es, more⟩, hchars, hlast⟩ := bind_eq_ok_iff.1 h
      obtain ⟨rfl, rfl⟩ := Prod.mk.inj (Except.ok.inj hlast)
      obtain ⟨quoted, hquoted, rfl⟩ := ih hchars
      exact ⟨c :: quoted, .plain hquote hsolidus (Nat.not_lt.1 hcontrol) hquoted, rfl⟩

/-- Where a string is read, a text of characters stands, and its quote behind it. -/
lemma of_readQuoted {s : String} (h : readQuoted cs = .ok (s, rest)) :
    ∃ quoted, PairedString quoted ∧ cs = quoted ++ '"' :: rest := by
  obtain ⟨⟨s, more⟩, hchars, hlast⟩ := bind_eq_ok_iff.1 h
  obtain ⟨-, rfl⟩ := Prod.mk.inj (Except.ok.inj hlast)
  obtain ⟨quoted, hquoted, rfl⟩ := of_readStringChars hchars
  exact ⟨quoted, ⟨s, hquoted⟩, rfl⟩

/-! ### Numbers -/

section

variable {negative : Bool} {significand : Nat} {exponent : Int} {v : Json}

/-- What is counted are digits, and what is left is what stands behind them. Counting may end before
the digits do.

**Proof sketch.** By induction on the characters. A digit is counted if the number stays within the
limit, and counting ends otherwise. -/
lemma of_digitsWithin (limit n : Nat) (cs : List Char) :
    ∃ digits, (∀ c ∈ digits, isDigit c) ∧ cs = digits ++ (digitsWithin limit n cs).2 := by
  induction cs generalizing n with
  | nil => exact ⟨[], by simp, rfl⟩
  | cons c cs ih =>
    rw [digitsWithin]
    split
    · next d hd =>
      split
      · obtain ⟨digits, hdigits, hcs⟩ := ih (n * 10 + d)
        have hc : isDigit c := Option.isSome_of_eq_some hd
        exact ⟨c :: digits, List.forall_mem_cons.2 ⟨hc, hdigits⟩, congrArg (c :: ·) hcs⟩
      · exact ⟨[], by simp, rfl⟩
    · exact ⟨[], by simp, rfl⟩

/-- Digits at the front are taken off. -/
lemma exists_digits (h : startsWithDigit cs) :
    ∃ digits, Digits digits ∧ cs = digits ++ cs.dropWhile isDigit := by
  refine ⟨cs.takeWhile isDigit, ⟨?_, fun _ hc => List.mem_takeWhile_imp hc⟩,
    (List.takeWhile_append_dropWhile ..).symm⟩
  rcases cs with _ | ⟨c, cs⟩
  · cases h
  · have hc : isDigit c := h
    simp [hc]

/-- The digits that are counted, with those behind them that are not. -/
lemma digitsWithin_long {limit : Nat} (h : startsWithDigit (digitsWithin limit n cs).2) :
    ∃ digits, Digits digits ∧ cs = digits ++ (digitsWithin limit n cs).2.dropWhile isDigit := by
  obtain ⟨counted, hcounted, hcs⟩ := of_digitsWithin limit n cs
  obtain ⟨dropped, hdropped, hmore⟩ := exists_digits h
  refine ⟨counted ++ dropped, ⟨?_, ?_⟩, ?_⟩
  · exact List.append_ne_nil_of_right_ne_nil _ hdropped.1
  · exact List.forall_mem_append.2 ⟨hcounted, hdropped.2⟩
  · rw [List.append_assoc, ← hmore, ← hcs]

/-- Digits that are counted are one or more if anything was taken off at all. -/
lemma digitsWithin_short {limit : Nat} (h : (digitsWithin limit n cs).2 ≠ cs) :
    ∃ digits, Digits digits ∧ cs = digits ++ (digitsWithin limit n cs).2 := by
  obtain ⟨counted, hcounted, hcs⟩ := of_digitsWithin limit n cs
  refine ⟨counted, ⟨?_, hcounted⟩, hcs⟩
  rintro rfl
  exact h hcs.symm

/-- What is left of text that starts with a digit is less, if it does not start with one. -/
lemma ne_of_startsWithDigit {more : List Char} (h : startsWithDigit cs)
    (hmore : ¬ startsWithDigit more) : more ≠ cs :=
  fun heq => hmore (heq ▸ h)

/-- A fraction is made of what was read before it. It takes no characters. -/
lemma of_fraction (h : fraction negative significand exponent cs = .ok (v, rest)) : cs = rest := by
  unfold fraction at h
  split at h
  · exact (Prod.mk.inj (Except.ok.inj h)).2
  · cases h

/-- Where an exponent is read, a sign or none stands, and digits.

**Proof sketch.** The sign is taken off first. The digits are counted up to a limit: either more
digits follow, which are taken off without being counted (`digitsWithin_long`), or all were counted
(`digitsWithin_short`). -/
lemma of_readExponent (h : readExponent negative significand exponent cs = .ok (v, rest)) :
    ∃ sign digits, (sign = [] ∨ sign = ['+'] ∨ sign = ['-']) ∧ Digits digits ∧
      cs = sign ++ (digits ++ rest) := by
  unfold readExponent at h
  split at h
  next shrinks more hmatch =>
  -- the three branches of the match are the three signs that may stand here
  have hcs : ∃ sign, (sign = [] ∨ sign = ['+'] ∨ sign = ['-']) ∧ cs = sign ++ more := by
    split at hmatch <;> obtain ⟨-, rfl⟩ := Prod.mk.inj hmatch
    · exact ⟨['+'], by simp, rfl⟩
    · exact ⟨['-'], by simp, rfl⟩
    · exact ⟨[], by simp, rfl⟩
  obtain ⟨sign, hsign, rfl⟩ := hcs
  split at h
  · cases h
  split at h
  · cases h
  next hstart =>
  rw [Bool.not_eq_true', Bool.not_eq_false] at hstart
  dsimp only at h
  split at h
  · next hlong =>
    obtain ⟨digits, hdigits, hmore⟩ := digitsWithin_long hlong
    split at h
    · cases h
    · obtain ⟨-, rfl⟩ := Prod.mk.inj (Except.ok.inj h)
      exact ⟨sign, digits, hsign, hdigits, by rw [← hmore]⟩
  · next hshort =>
    obtain ⟨digits, hdigits, hmore⟩ := digitsWithin_short (ne_of_startsWithDigit hstart hshort)
    exact ⟨sign, digits, hsign, hdigits, by rw [← of_fraction h, ← hmore]⟩

/-- Behind the decimals of a number an exponent is read where one stands, or nothing. -/
lemma of_readFractionEnd (h : readFractionEnd negative significand exponent cs = .ok (v, rest)) :
    ∃ exponent, ExponentText exponent ∧ cs = exponent ++ rest := by
  unfold readFractionEnd at h
  split at h
  · obtain ⟨sign, digits, hsign, hdigits, rfl⟩ := of_readExponent h
    exact ⟨_, .letter (.inl rfl) hsign hdigits, by simp⟩
  · obtain ⟨sign, digits, hsign, hdigits, rfl⟩ := of_readExponent h
    exact ⟨_, .letter (.inr rfl) hsign hdigits, by simp⟩
  · exact ⟨[], .nil, of_fraction h⟩

/-- Behind the point of a number digits are read, and then an exponent or nothing. As in an
exponent, digits that are too many are taken off without being counted.

**Proof sketch.** By whether digits are left when counting ends, as for an exponent. If none was
counted, this is a fault. -/
lemma of_readDecimals (h : readDecimals negative significand exponent cs = .ok (v, rest)) :
    ∃ digits exponent, Digits digits ∧ ExponentText exponent ∧
      cs = digits ++ (exponent ++ rest) := by
  unfold readDecimals at h
  dsimp only at h
  split at h
  · next hlong =>
    obtain ⟨digits, hdigits, hcs⟩ := digitsWithin_long hlong
    obtain ⟨exponent, hexponent, hmore⟩ := of_readFractionEnd h
    exact ⟨digits, exponent, hdigits, hexponent, by rw [← hmore, ← hcs]⟩
  split at h
  · cases h
  · next hless =>
    have hne : (digitsWithin greatestSignificand significand cs).2 ≠ cs :=
      fun heq => hless (congrArg List.length heq)
    obtain ⟨digits, hdigits, hcs⟩ := digitsWithin_short hne
    obtain ⟨exponent, hexponent, hmore⟩ := of_readFractionEnd h
    exact ⟨digits, exponent, hdigits, hexponent, by rw [← hmore, ← hcs]⟩

/-- Behind the whole part of a number a fraction and an exponent are read where they stand, each of
which may be missing.

**Proof sketch.** By the next character: a point, one of the two letters, or another one, which ends
the number. -/
lemma of_readNumberEnd (h : readNumberEnd negative significand cs = .ok (v, rest)) :
    ∃ fraction exponent, FractionText fraction ∧ ExponentText exponent ∧
      cs = fraction ++ (exponent ++ rest) := by
  unfold readNumberEnd at h
  split at h
  · obtain ⟨digits, exponent, hdigits, hexponent, rfl⟩ := of_readDecimals h
    exact ⟨_, exponent, .point hdigits, hexponent, by simp⟩
  · obtain ⟨sign, digits, hsign, hdigits, rfl⟩ := of_readExponent h
    exact ⟨[], _, .nil, .letter (.inl rfl) hsign hdigits, by simp⟩
  · obtain ⟨sign, digits, hsign, hdigits, rfl⟩ := of_readExponent h
    exact ⟨[], _, .nil, .letter (.inr rfl) hsign hdigits, by simp⟩
  · have hcs : cs = rest := by
      split at h
      · exact (Prod.mk.inj (Except.ok.inj h)).2
      split at h <;> exact (Prod.mk.inj (Except.ok.inj h)).2
    exact ⟨[], [], .nil, .nil, hcs⟩

/-- **A number is read** where one stands.

**Proof sketch.** The whole part is a zero, with no digit behind it, or begins with another digit.
Then all its digits are taken off, counted or not, and what is read behind them is the rest of a
number (`of_readNumberEnd`, `of_readDecimals`, `of_readFractionEnd`). -/
lemma of_readNumber (h : readNumber negative cs = .ok (v, rest)) :
    ∃ mid, MagnitudeText mid ∧ cs = mid ++ rest := by
  unfold readNumber at h
  split at h
  · cases h
  · next more =>
    split at h
    · cases h
    · obtain ⟨fraction, exponent, hfraction, hexponent, rfl⟩ := of_readNumberEnd h
      exact ⟨_, .parts .zero hfraction hexponent, by simp⟩
  · next c more hzero =>
    split at h
    · cases h
    next hc =>
    rw [Bool.not_eq_true', Bool.not_eq_false] at hc
    -- the first digit is no zero, so whatever digits are taken off are a whole part
    have hwhole : ∀ {digits behind : List Char}, Digits digits → c :: more = digits ++ behind →
        WholeText digits := by
      intro digits behind hdigits heq
      obtain ⟨d, digits, rfl⟩ := List.exists_cons_of_ne_nil hdigits.1
      obtain ⟨rfl, -⟩ := List.cons.inj heq
      exact .digits hzero hdigits
    dsimp only at h
    split at h
    · next hlong =>
      -- more digits than are counted: a fraction or an exponent may follow them all the same
      obtain ⟨digits, hdigits, hcs⟩ := digitsWithin_long hlong
      split at h
      · next decimals hpoint =>
        obtain ⟨digits', exponent, hdigits', hexponent, rfl⟩ := of_readDecimals h
        rw [hpoint] at hcs
        exact ⟨_, .parts (hwhole hdigits hcs) (.point hdigits') hexponent, by simp [hcs]⟩
      · obtain ⟨exponent, hexponent, hmore⟩ := of_readFractionEnd h
        rw [hmore] at hcs
        exact ⟨_, .parts (hwhole hdigits hcs) .nil hexponent, by simp [hcs]⟩
    · next hshort =>
      have hstart : startsWithDigit (c :: more) := hc
      obtain ⟨digits, hdigits, hcs⟩ := digitsWithin_short (ne_of_startsWithDigit hstart hshort)
      obtain ⟨fraction, exponent, hfraction, hexponent, hmore⟩ := of_readNumberEnd h
      rw [hmore] at hcs
      exact ⟨_, .parts (hwhole hdigits hcs) hfraction hexponent, by simp [hcs]⟩

end

/-! ### Arrays and objects -/

/-- The reader gives something only where a well-formed value stands. -/
def ReadsFormed (reader : Reader α) (depth : Nat) : Prop :=
  ∀ cs a rest, reader cs = .ok (a, rest) →
    ∃ gap mid, Gap gap ∧ Formed PairedString NumberText depth .value mid ∧ cs = gap ++ (mid ++ rest)

variable {depth fuel : Nat} {isFirst : Bool} {gap lead : List Char}

/-- Two gaps are one. -/
lemma Gap.append {gap' : List Char} (h : Gap gap) (h' : Gap gap') : Gap (gap ++ gap') :=
  List.forall_mem_append.2 ⟨h, h'⟩

/-- What stands before an item may end with another gap. -/
lemma Lead.append (h : Lead isFirst lead) (hgap : Gap gap) : Lead isFirst (lead ++ gap) := by
  cases isFirst with
  | true => exact Gap.append h hgap
  | false =>
    obtain ⟨gap₁, gap₂, hgap₁, hgap₂, rfl⟩ := h
    exact ⟨gap₁, gap₂ ++ gap, hgap₁, hgap₂.append hgap, by simp⟩

/-- A comma stands with gaps around it. -/
lemma exists_lead_of_comma {more : List Char} (h : skipGap cs = ',' :: more) :
    ∃ lead, Lead false lead ∧ cs = lead ++ skipGap more := by
  obtain ⟨gap, hgap, hcs⟩ := exists_gap cs
  obtain ⟨gap', hgap', hmore⟩ := exists_gap more
  refine ⟨gap ++ ',' :: gap', ⟨gap, gap', hgap, hgap', rfl⟩, ?_⟩
  rw [hcs, h, List.append_assoc, List.cons_append, ← hmore]

/-- Reads items from where the first one starts. -/
def readItemsFrom (item : Reader α) (fuel : Nat) (start : List Char) :
    Except Fault (List α × List Char) := do
  let (a, rest) ← item start
  let (as, rest) ← readItems item fuel false rest
  .ok (a :: as, rest)

/-- **Items are read** where well-formed ones stand, up to the closing bracket.

**Proof sketch.** By induction on the fuel, which is one for each item. Either the bracket stands
behind the gap and there are no more items, or an item starts there, behind a comma unless it is the
first one. The item reader tells what it has read it from, and the others are read where they stand
by the hypothesis. -/
lemma of_readItems {item : Reader α} (hitem : ReadsFormed item depth) {as : List α}
    (h : readItems item fuel isFirst cs = .ok (as, rest)) :
    ∃ mid behind, Formed PairedString NumberText depth (.items isFirst) mid ∧ rest = ']' :: behind ∧
      cs = mid ++ behind := by
  induction fuel generalizing isFirst cs as with
  | zero => cases h
  | succ fuel ih =>
    obtain ⟨gap, hgap, hcs⟩ := exists_gap cs
    unfold readItems at h
    split at h
    · cases h
    · next behind hskip =>
      -- the bracket stands behind the gap: there are no more items
      obtain ⟨rfl, rfl⟩ := Prod.mk.inj (Except.ok.inj h)
      exact ⟨gap ++ [']'], behind, .closeItems hgap, rfl, by rw [hcs, hskip]; simp⟩
    · next c more _ hskip =>
      -- an item starts here, and what is before it is its lead, with the comma if one is asked for
      have hstart : ∃ start lead, Lead isFirst lead ∧ cs = lead ++ start ∧
          readItemsFrom item fuel start = .ok (as, rest) := by
        dsimp only at h
        split at h
        · next hfirst =>
          subst hfirst
          exact ⟨c :: more, gap, hgap, by rw [hcs, hskip], h⟩
        next hfirst =>
        obtain rfl := Bool.not_eq_true _ ▸ hfirst
        split at h
        · next hcomma =>
          obtain ⟨lead, hlead, hcs⟩ := exists_lead_of_comma (hcomma ▸ hskip)
          refine ⟨skipGap more, lead, hlead, hcs, ?_⟩
          split at h
          · cases h
          · cases h
          · exact h
        · cases h
      obtain ⟨start, lead, hlead, rfl, hitems⟩ := hstart
      obtain ⟨⟨a, more₁⟩, hfirst, hnext⟩ := bind_eq_ok_iff.1 hitems
      obtain ⟨⟨as', more₂⟩, hothers, hlast⟩ := bind_eq_ok_iff.1 hnext
      obtain ⟨rfl, rfl⟩ := Prod.mk.inj (Except.ok.inj hlast)
      -- the gap that the item reader skips belongs to the lead
      obtain ⟨gap', mid, hgap', hmid, rfl⟩ := hitem _ _ _ hfirst
      obtain ⟨mids, behind, hmids, hbehind, rfl⟩ := ih hothers
      exact ⟨_, behind, .item (hlead.append hgap') hmid hmids, hbehind, by simp⟩

/-- A colon is read where one stands behind a gap. -/
lemma of_readColon (h : readColon cs = .ok rest) : ∃ gap, Gap gap ∧ cs = gap ++ ':' :: rest := by
  obtain ⟨gap, hgap, hcs⟩ := exists_gap cs
  unfold readColon at h
  split at h
  · cases h
  · next more hskip =>
    obtain rfl := Except.ok.inj h
    exact ⟨gap, hgap, by rw [hcs, hskip]⟩
  · cases h

/-- Reads a name from its quote on. -/
def readName (start : List Char) : Except Fault (Option String × List Char) :=
  match start with
  | [] => failBehind .endInValue []
  | '"' :: more => do
    let (name, more) ← readQuoted more
    .ok (some name, more)
  | '}' :: more => failBehind .trailingComma ('}' :: more)
  | more => failBehind .keyNotString more

/-- Where the name of a member is looked for, the closing brace is found or a name stands behind its
lead.

**Proof sketch.** As for items: the brace stands behind the gap, or a name starts there, behind a
comma unless it is the first one. What is read from its quote on is a string. -/
lemma of_readKey {name : Option String} (h : readKey isFirst cs = .ok (name, rest)) :
    (∃ gap behind, name = none ∧ Gap gap ∧ rest = '}' :: behind ∧ cs = gap ++ '}' :: behind) ∨
      ∃ lead quoted, name.isSome ∧ Lead isFirst lead ∧ PairedString quoted ∧
        cs = lead ++ '"' :: (quoted ++ '"' :: rest) := by
  obtain ⟨gap, hgap, hcs⟩ := exists_gap cs
  unfold readKey at h
  split at h
  · cases h
  · next behind hskip =>
    obtain ⟨rfl, rfl⟩ := Prod.mk.inj (Except.ok.inj h)
    exact .inl ⟨gap, behind, rfl, hgap, rfl, by rw [hcs, hskip]⟩
  · next c more _ hskip =>
    -- as for items, but from here on the start of a name is looked for
    have hstart : ∃ start lead, Lead isFirst lead ∧ cs = lead ++ start ∧
        readName start = .ok (name, rest) := by
      dsimp only at h
      split at h
      · next hfirst =>
        subst hfirst
        exact ⟨c :: more, gap, hgap, by rw [hcs, hskip], h⟩
      next hfirst =>
      obtain rfl := Bool.not_eq_true _ ▸ hfirst
      split at h
      · next hcomma =>
        obtain ⟨lead, hlead, hcs⟩ := exists_lead_of_comma (hcomma ▸ hskip)
        exact ⟨skipGap more, lead, hlead, hcs, h⟩
      · cases h
    obtain ⟨start, lead, hlead, rfl, hname⟩ := hstart
    unfold readName at hname
    split at hname
    · cases hname
    · next more =>
      obtain ⟨⟨s, more'⟩, hread, hlast⟩ := bind_eq_ok_iff.1 hname
      obtain ⟨rfl, rfl⟩ := Prod.mk.inj (Except.ok.inj hlast)
      obtain ⟨quoted, hquoted, rfl⟩ := of_readQuoted hread
      exact .inr ⟨lead, quoted, rfl, hlead, hquoted, rfl⟩
    · cases hname
    · cases hname

/-- **Members are read** where well-formed ones stand, up to the closing brace.

**Proof sketch.** By induction on the fuel, which is one for each member. The state does not matter:
what is made of a member, it is read from a colon and a value. -/
lemma of_foldMembers {member : σ → String → Reader σ} {state state' : σ}
    (hmember : ∀ state name cs state' rest, member state name cs = .ok (state', rest) →
      ∃ gap gap' mid, Gap gap ∧ Gap gap' ∧ Formed PairedString NumberText depth .value mid ∧
        cs = gap ++ ':' :: (gap' ++ (mid ++ rest)))
    (h : foldMembers member fuel isFirst state cs = .ok (state', rest)) :
    ∃ mid behind, Formed PairedString NumberText depth (.members isFirst) mid ∧
      rest = '}' :: behind ∧ cs = mid ++ behind := by
  induction fuel generalizing isFirst cs state with
  | zero => cases h
  | succ fuel ih =>
    unfold foldMembers at h
    obtain ⟨⟨name, more⟩, hkey, hmore⟩ := bind_eq_ok_iff.1 h
    rcases of_readKey hkey with ⟨gap, behind, rfl, hgap, rfl, rfl⟩ |
      ⟨lead, quoted, hname, hlead, hquoted, rfl⟩
    · obtain ⟨-, rfl⟩ := Prod.mk.inj (Except.ok.inj hmore)
      exact ⟨gap ++ ['}'], behind, .closeMembers hgap, rfl, by simp⟩
    · obtain ⟨name, rfl⟩ := Option.isSome_iff_exists.1 hname
      obtain ⟨⟨state₁, more₁⟩, hfirst, hothers⟩ := bind_eq_ok_iff.1 hmore
      obtain ⟨gap, gap', mid, hgap, hgap', hmid, rfl⟩ := hmember _ _ _ _ _ hfirst
      obtain ⟨mids, behind, hmids, hbehind, rfl⟩ := ih hothers
      exact ⟨_, behind, .member hlead hquoted hgap hgap' hmid hmids, hbehind, by simp⟩

/-- The members of an object are read where well-formed ones stand, if their values are. -/
lemma of_readMembers {value : Reader α} (hvalue : ReadsFormed value depth)
    {as : List (String × α)} (h : readMembers value cs = .ok (as, rest)) :
    ∃ mid behind, Formed PairedString NumberText depth (.members true) mid ∧ rest = '}' :: behind ∧
      cs = mid ++ behind := by
  refine of_foldMembers (fun members name cs members' rest hmember => ?_) h
  obtain ⟨more, hcolon, hmore⟩ := bind_eq_ok_iff.1 hmember
  obtain ⟨⟨a, more₁⟩, ha, hlast⟩ := bind_eq_ok_iff.1 hmore
  obtain ⟨-, rfl⟩ := Prod.mk.inj (Except.ok.inj hlast)
  obtain ⟨gap, hgap, rfl⟩ := of_readColon hcolon
  obtain ⟨gap', mid, hgap', hmid, rfl⟩ := hvalue _ _ _ ha
  exact ⟨gap, gap', mid, hgap, hgap', hmid, rfl⟩

/-! ### Values -/

/-- A value is read where a well-formed one stands, if that holds of the values inside it.

**Proof sketch.** One case for each first character of a value. Words, strings and numbers are read
by themselves; an array or object is read by the reader for the depth below, so there is such a
depth. -/
lemma readsFormed_step {arrange : List (String × Json) → List (String × Json)}
    (hinside : ∀ below, depth = below + 1 → ReadsFormed (readArranged arrange below) below) :
    ReadsFormed (readArranged arrange depth) depth := by
  intro cs v rest h
  obtain ⟨gap, hgap, hcs⟩ := exists_gap cs
  -- the gap in front is skipped once, before the value is looked at
  suffices ∃ mid, Formed PairedString NumberText depth .value mid ∧ skipGap cs = mid ++ rest by
    obtain ⟨mid, hmid, hskip⟩ := this
    exact ⟨gap, mid, hgap, hmid, by rw [← hskip, ← hcs]⟩
  unfold readArranged at h
  split at h
  · cases h
  · next more hskip => exact ⟨_, .null, by rw [hskip, of_word h]; rfl⟩
  · next more hskip => exact ⟨_, .yes, by rw [hskip, of_word h]; rfl⟩
  · next more hskip => exact ⟨_, .no, by rw [hskip, of_word h]; rfl⟩
  · next more hskip =>
    obtain ⟨⟨s, rest'⟩, hread, hlast⟩ := bind_eq_ok_iff.1 h
    obtain ⟨-, rfl⟩ := Prod.mk.inj (Except.ok.inj hlast)
    obtain ⟨quoted, hquoted, rfl⟩ := of_readQuoted hread
    exact ⟨_, .string hquoted, by rw [hskip]; simp⟩
  · next more hskip =>
    obtain ⟨mid, hmid, rfl⟩ := of_readNumber h
    exact ⟨_, .number (.negative hmid), by rw [hskip]; rfl⟩
  · next more hskip =>
    split at h
    · cases h
    next below =>
    obtain ⟨⟨items, more'⟩, hitems, hclose⟩ := bind_eq_ok_iff.1 h
    obtain ⟨mid, behind, hmid, rfl, rfl⟩ := of_readItems (hinside below rfl) hitems
    dsimp only at hclose
    rw [closeArray_cons] at hclose
    obtain ⟨-, rfl⟩ := Prod.mk.inj (Except.ok.inj hclose)
    exact ⟨_, .array hmid, by rw [hskip]; rfl⟩
  · next more hskip =>
    split at h
    · cases h
    next below =>
    obtain ⟨⟨members, more'⟩, hmembers, hclose⟩ := bind_eq_ok_iff.1 h
    obtain ⟨mid, behind, hmid, rfl, rfl⟩ := of_readMembers (hinside below rfl) hmembers
    dsimp only at hclose
    rw [closeObject_cons] at hclose
    obtain ⟨-, rfl⟩ := Prod.mk.inj (Except.ok.inj hclose)
    exact ⟨_, .object hmid, by rw [hskip]; rfl⟩
  · next c more _ _ _ _ _ _ _ hskip =>
    split at h
    · obtain ⟨mid, hmid, hcons⟩ := of_readNumber h
      exact ⟨mid, .number (.positive hmid), by rw [hskip, hcons]⟩
    · cases h

/-- **A value is read** where a well-formed one stands.

**Proof sketch.** Induction on the depth: what stands in an array or object is read by the reader
for the depth below. -/
theorem readsFormed_readArranged (arrange : List (String × Json) → List (String × Json))
    (depth : Nat) : ReadsFormed (readArranged arrange depth) depth := by
  induction depth with
  | zero => exact readsFormed_step fun _ h => absurd h (Nat.succ_ne_zero _).symm
  | succ depth ih =>
    refine readsFormed_step fun below h => ?_
    obtain rfl := Nat.succ.inj h
    exact ih

/-- The text is a well-formed value with its surrogates in pairs, not too deep, and with gaps around
it. -/
def WellFormed (text : List Char) : Prop :=
  ∃ gap mid gap', Gap gap ∧ Gap gap' ∧ Formed PairedString NumberText depthLimit .value mid ∧
    text = gap ++ (mid ++ gap')

/-- **A text is accepted** only if it is well formed.

**Proof sketch.** The value was read where a well-formed one stands (`readsFormed_readArranged`),
and what is left behind it is a gap, since otherwise the text is refused. -/
theorem wellFormed_of_parse? {text : String} {v : Json} (h : parse? text = some v) :
    WellFormed text.toList := by
  rcases hread : readAll (readValue depthLimit) text.toList with fault | v'
  · rw [parse?, hread] at h
    cases h
  obtain ⟨⟨v', rest⟩, hvalue, hend⟩ := bind_eq_ok_iff.1 hread
  obtain ⟨gap, mid, hgap, hmid, htext⟩ := readsFormed_readArranged _ _ _ _ _ hvalue
  obtain ⟨gap', hgap', hrest⟩ := exists_gap rest
  dsimp only at hend
  split at hend
  · next hnone =>
    rw [hnone, List.append_nil] at hrest
    exact ⟨gap, mid, rest, hgap, hrest ▸ hgap', hmid, htext⟩
  · cases hend

end RequestRunner.Json
