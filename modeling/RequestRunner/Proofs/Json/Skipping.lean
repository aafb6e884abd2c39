import RequestRunner.Proofs.Json.WellFormed

/-!
# Skipping values

A well-formed value is skipped as a whole, however deep it is, wherever gaps stand in it and
whatever its numbers and escapes are. Skipping goes from value to value and remembers only which
brackets are open, so what is proved of a value takes up what is skipped behind it.

## Main definitions

* `Json.skipHead` — skips the first token of a value.
* `Json.Skips` — what skipping inside of brackets leaves.
* `Json.Resumes` — what it leaves from behind a value on.

## Main results

* `Json.skipInside_succ` — skipping is a token at a time.
* `Json.skipValue_of_formed` — a well-formed value is skipped.
-/

namespace RequestRunner.Json

/-- What the first token of a value leaves to be skipped: what stands behind the value, if the token
is all of it, and the inside of a bracket otherwise. -/
structure Head where
  afterValue : Bool
  frames : List Frame
  rest : List Char

/-- Behind a value that is one token. -/
def behind (frames : List Frame) (skipped : Except Fault (List Char)) : Except Fault Head :=
  skipped.map (⟨true, frames, ·⟩)

/-- Skips the first token of a value. -/
def skipHead (frames : List Frame) : List Char → Except Fault Head
  | [] => failBehind .endInValue []
  | 'n' :: rest => behind frames (readWord ['u', 'l', 'l'] rest)
  | 't' :: rest => behind frames (readWord ['r', 'u', 'e'] rest)
  | 'f' :: rest => behind frames (readWord ['a', 'l', 's', 'e'] rest)
  | '"' :: rest => behind frames (skipQuoted rest)
  | '-' :: rest => behind frames (skipNumber rest)
  | '[' :: rest => .ok ⟨false, .list :: frames, rest⟩
  | '{' :: rest => .ok ⟨false, .object :: frames, rest⟩
  | c :: rest =>
    if isDigit c then behind frames (skipNumber (c :: rest))
    else failBehind .expectedValue (c :: rest)

/-- Goes on from where a step of skipping ended. -/
def goOn (fuel : Nat) : SkipStep → Except Fault (List Char)
  | .done rest => .ok rest
  | .value frames rest => skipInside fuel frames rest

/-- Goes on behind the first token of a value. -/
def Head.goOn (fuel : Nat) (head : Head) : Except Fault (List Char) :=
  (skipCloses head.afterValue head.frames head.rest).bind (Json.goOn fuel)

/-- Inside the frames all is skipped up to the end of the outermost one, and `out` is left. -/
def Skips (frames : List Frame) (cs out : List Char) : Prop :=
  ∀ fuel, cs.length < fuel → skipInside fuel frames cs = .ok out

/-- From behind a value, or an opening bracket, everything is skipped up to the end of the outermost
frame, and `out` is left. -/
def Resumes (afterValue : Bool) (frames : List Frame) (cs out : List Char) : Prop :=
  skipCloses afterValue frames cs = .ok (.done out) ∨
    ∃ frames' rest, skipCloses afterValue frames cs = .ok (.value frames' rest) ∧
      rest.length ≤ cs.length ∧ Skips frames' rest out

/-- A value is passed, and so are the insides of an array and of an object, if skipping resumes
behind them. -/
def Passed : Part → List Char → Prop
  | .value, cs => ∀ frames gap rest out, Gap gap → Delimited rest →
      Resumes true frames rest out → Skips frames (gap ++ (cs ++ rest)) out
  | .items isFirst, cs => ∀ frames rest out,
      Resumes true frames rest out → Resumes (!isFirst) (.list :: frames) (cs ++ rest) out
  | .members isFirst, cs => ∀ frames rest out,
      Resumes true frames rest out → Resumes (!isFirst) (.object :: frames) (cs ++ rest) out

variable {cs rest rest' gap lead out whole fraction exponent : List Char} {fuel depth : Nat}
  {frames frames' : List Frame} {afterValue isFirst : Bool} {part : Part}

/-! ### Tokens -/

/-- A string is skipped up to its quote.

**Proof sketch.** By induction on the form of the string. Each step takes a character, or an escape
whatever it stands for, and there is fuel for as many as there are characters. -/
lemma skipStringChars_append (h : LooseString cs) (hfuel : cs.length < fuel) (rest : List Char) :
    skipStringChars fuel (cs ++ '"' :: rest) = .ok rest := by
  induction h generalizing fuel with
  | nil =>
    obtain ⟨fuel, rfl⟩ := Nat.exists_eq_add_one_of_ne_zero (Nat.ne_zero_of_lt hfuel)
    simp [skipStringChars]
  | @plain c cs hquote hsolidus hcontrol _ ih =>
    obtain ⟨fuel, rfl⟩ := Nat.exists_eq_add_one_of_ne_zero (Nat.ne_zero_of_lt hfuel)
    have hnot : ¬ c.toNat < 32 := Nat.not_lt.2 hcontrol
    have hrest := ih (Nat.lt_of_succ_lt_succ hfuel)
    simp [skipStringChars, hquote, hsolidus, hnot, hrest]
  | @letter e cs he _ ih =>
    obtain ⟨fuel, rfl⟩ := Nat.exists_eq_add_one_of_ne_zero (Nat.ne_zero_of_lt hfuel)
    have hu : e ≠ 'u' := by
      rintro rfl
      exact absurd he (by decide)
    simp only [List.length_cons] at hfuel
    have hrest : skipStringChars fuel (cs ++ '"' :: rest) = .ok rest := ih (by omega)
    simp [skipStringChars, he, hrest]
  | @unit n digits cs hdigits _ ih =>
    obtain ⟨fuel, rfl⟩ := Nat.exists_eq_add_one_of_ne_zero (Nat.ne_zero_of_lt hfuel)
    simp only [List.length_cons, List.length_append] at hfuel
    have hrest : skipStringChars fuel (cs ++ '"' :: rest) = .ok rest := ih (by omega)
    have hunit := readHexUnit_append hdigits (cs ++ '"' :: rest)
    simp [skipStringChars, hunit, hrest, bind, Except.bind]

/-- A string is skipped with its quote. -/
lemma skipQuoted_append (h : LooseString cs) (rest : List Char) :
    skipQuoted (cs ++ '"' :: rest) = .ok rest := by
  refine skipStringChars_append h ?_ rest
  rw [List.length_append]
  omega

/-- Digits are skipped up to something else. -/
lemma dropWhile_digits (h : ∀ c ∈ cs, isDigit c) (hrest : startsWithDigit rest = false) :
    (cs ++ rest).dropWhile isDigit = rest := by
  rw [List.dropWhile_append_of_pos h]
  cases rest with
  | nil => rfl
  | cons c rest =>
    have hc : ¬ isDigit c = true := by simpa [startsWithDigit] using hrest
    exact List.dropWhile_cons_of_neg hc

/-- Digits start with a digit, whatever is behind them. -/
lemma startsWithDigit_append (h : Digits cs) (rest : List Char) : startsWithDigit (cs ++ rest) := by
  obtain ⟨c, cs, rfl⟩ := List.exists_cons_of_ne_nil h.1
  exact h.2 c List.mem_cons_self

/-- An exponent is skipped up to something that is no digit. -/
lemma skipExponent_append {sign : List Char} (hsign : sign = [] ∨ sign = ['+'] ∨ sign = ['-'])
    (h : Digits cs) (hrest : startsWithDigit rest = false) :
    skipExponent (sign ++ (cs ++ rest)) = .ok rest := by
  have hstart := startsWithDigit_append h rest
  have hdrop := dropWhile_digits h.2 hrest
  rcases hsign with rfl | rfl | rfl
  · obtain ⟨c, cs, rfl⟩ := List.exists_cons_of_ne_nil h.1
    have hdigit := isDigit_iff.1 (h.2 c List.mem_cons_self)
    have hplus : c ≠ '+' := ne_of_isDigit hdigit (by decide)
    have hminus : c ≠ '-' := ne_of_isDigit hdigit (by decide)
    simp_all [skipExponent]
  · simp [skipExponent, hstart, hdrop]
  · simp [skipExponent, hstart, hdrop]

/-- What stands behind the digits of a number is no digit. -/
lemma startsWithDigit_exponent (h : ExponentText exponent) (hrest : Delimited rest) :
    startsWithDigit (exponent ++ rest) = false := by
  cases h with
  | nil => exact startsWithDigit_of_delimited hrest
  | letter he _ _ => rcases he with rfl | rfl <;> rfl

/-- What stands behind the whole part of a number is no digit. -/
lemma startsWithDigit_fraction (h : FractionText fraction) (h' : ExponentText exponent)
    (hrest : Delimited rest) : startsWithDigit (fraction ++ (exponent ++ rest)) = false := by
  cases h with
  | nil =>
    rw [List.nil_append]
    exact startsWithDigit_exponent h' hrest
  | point _ => rfl

/-- The exponent of a number is skipped if it is there. -/
lemma skipNumberEnd_append (h : ExponentText exponent) (hrest : Delimited rest) :
    skipNumberEnd (exponent ++ rest) = .ok rest := by
  cases h with
  | nil =>
    cases rest with
    | nil => rfl
    | cons c rest =>
      rcases delimited_cons hrest with rfl | rfl | rfl | rfl | rfl | rfl | rfl <;> rfl
  | @letter e sign cs he hsign h =>
    have hskip := skipExponent_append hsign h (startsWithDigit_of_delimited hrest)
    rcases he with rfl | rfl <;>
      simpa [skipNumberEnd] using hskip

/-- Skips what stands behind the whole part of a number. -/
def skipDecimals (cs : List Char) : Except Fault (List Char) :=
  match cs with
  | '.' :: more =>
    if startsWithDigit more then skipNumberEnd (more.dropWhile isDigit)
    else failBehind .badNumber more
  | _ => skipNumberEnd cs

/-- The whole part of a number is skipped if no digit is behind it. -/
lemma skipNumber_whole (h : WholeText whole) (hrest : startsWithDigit rest = false) :
    skipNumber (whole ++ rest) = skipDecimals rest := by
  cases h with
  | zero =>
    simp only [skipNumber, List.singleton_append, hrest, bind, Except.bind, Bool.false_eq_true,
      if_false]
    rfl
  | @digits c cs hzero h =>
    have hstart := startsWithDigit_append h rest
    have hdrop := dropWhile_digits h.2 hrest
    rw [List.cons_append] at hstart hdrop
    simp [skipNumber, hzero, hstart, hdrop, bind, Except.bind]
    rfl

/-- The fraction and the exponent of a number are skipped if they are there.

**Proof sketch.** By whether there is a fraction. If not, the next character is a letter, or one
that can stand behind a value, and never a point. -/
lemma skipDecimals_append (h : FractionText fraction) (h' : ExponentText exponent)
    (hrest : Delimited rest) : skipDecimals (fraction ++ (exponent ++ rest)) = .ok rest := by
  have hend := skipNumberEnd_append h' hrest
  cases h with
  | nil =>
    rw [List.nil_append, ← hend]
    cases h' with
    | nil =>
      cases rest with
      | nil => rfl
      | cons c rest =>
        rcases delimited_cons hrest with rfl | rfl | rfl | rfl | rfl | rfl | rfl <;> rfl
    | letter he _ _ => rcases he with rfl | rfl <;> rfl
  | @point cs h =>
    have hstart := startsWithDigit_append h (exponent ++ rest)
    have hdrop := dropWhile_digits h.2 (startsWithDigit_exponent h' hrest)
    simp [skipDecimals, hstart, hdrop, hend]

/-- **A number is skipped** up to its end. -/
lemma skipNumber_append (h : MagnitudeText cs) (hrest : Delimited rest) :
    skipNumber (cs ++ rest) = .ok rest := by
  obtain ⟨hwhole, hfraction, hexponent⟩ := h
  rw [List.append_assoc, List.append_assoc,
    skipNumber_whole hwhole (startsWithDigit_fraction hfraction hexponent hrest),
    skipDecimals_append hfraction hexponent hrest]

/-! ### From value to value -/

/-- Skipping that resumes leaves what it is to leave, if there is fuel for what stands there. -/
lemma Resumes.goOn_eq (h : Resumes afterValue frames rest out) (hfuel : rest.length < fuel) :
    (skipCloses afterValue frames rest).bind (goOn fuel) = .ok out := by
  rcases h with hdone | ⟨frames', rest', hvalue, hlength, hskips⟩
  · rw [hdone]
    rfl
  · rw [hvalue]
    exact hskips fuel (Nat.lt_of_le_of_lt hlength hfuel)

/-- To go on behind a token that is a value is to go on behind the value. -/
lemma behind_bind (fuel : Nat) (frames : List Frame) (skipped : Except Fault (List Char)) :
    (behind frames skipped).bind (Head.goOn fuel) =
      skipped.bind fun rest => (skipCloses true frames rest).bind (goOn fuel) := by
  cases skipped <;> rfl

/-- Skipping inside of frames is a token at a time. By this equation the one loop is the first token
of a value and then the closing of brackets, and each can be reasoned about by itself.

**Proof sketch.** One case for each first character, in the order in which the definition asks for
them. The last one is a digit or begins no value. -/
lemma skipInside_succ (fuel : Nat) (frames : List Frame) (cs : List Char) :
    skipInside (fuel + 1) frames cs = (skipHead frames (skipGap cs)).bind (Head.goOn fuel) := by
  rw [skipInside]
  split
  case h_9 hn ht hf hquote hminus hbracket hbrace hgap =>
    rw [hgap, skipHead.eq_9 _ _ _ hn ht hf hquote hminus hbracket hbrace]
    split
    case isTrue => exact (behind_bind ..).symm
    case isFalse => rfl
  all_goals
    rename_i hgap
    rw [hgap]
  case h_1 | h_7 | h_8 => rfl
  all_goals exact (behind_bind ..).symm

/-- One step over the first token of a value, and what is skipped behind it. -/
lemma Resumes.skips {c : Char} (h : Resumes afterValue frames' rest out) (hgap : Gap gap)
    (hc : isGap c = false) (hhead : skipHead frames (c :: cs) = .ok ⟨afterValue, frames', rest⟩)
    (hlength : rest.length ≤ cs.length) : Skips frames (gap ++ c :: cs) out := by
  intro fuel hfuel
  obtain ⟨fuel, rfl⟩ := Nat.exists_eq_add_one_of_ne_zero (Nat.ne_zero_of_lt hfuel)
  rw [List.length_append, List.length_cons] at hfuel
  rw [skipInside_succ, skipGap_append_cons hgap hc cs, hhead]
  exact h.goOn_eq (by omega)

/-! ### Values -/

/-- A value that is one token is passed. -/
lemma passed_token {c : Char} (hc : isGap c = false)
    (hhead : ∀ frames rest, Delimited rest →
      skipHead frames (c :: (cs ++ rest)) = .ok ⟨true, frames, rest⟩) :
    Passed .value (c :: cs) := by
  intro frames gap rest out hgap hrest h
  have hlength : rest.length ≤ (cs ++ rest).length := (List.sublist_append_right cs rest).length_le
  exact h.skips hgap hc (hhead frames rest hrest) hlength

/-- A word is passed where it stands. -/
lemma readWord_append (word rest : List Char) : readWord word (word ++ rest) = .ok rest := by
  induction word with
  | nil => rfl
  | cons c word ih => rw [List.cons_append, readWord, if_pos rfl, ih]

/-- `null`, `true` and `false` are passed. -/
lemma passed_word {c : Char} (word : List Char) (hc : isGap c = false)
    (hhead : ∀ frames rest,
      skipHead frames (c :: rest) = behind frames (readWord word rest)) :
    Passed .value (c :: word) := by
  refine passed_token hc fun frames rest _ => ?_
  rw [hhead, readWord_append]
  rfl

/-- A string is passed, whatever its escapes stand for. -/
lemma passed_string (hcs : LooseString cs) : Passed .value ('"' :: (cs ++ ['"'])) := by
  refine passed_token rfl fun frames rest _ => ?_
  have hquoted := skipQuoted_append hcs rest
  rw [List.append_assoc, List.singleton_append]
  exact congrArg (behind frames) hquoted

/-- A digit begins no other value than a number. -/
lemma skipHead_digit (frames : List Frame) {c : Char} (hc : isDigit c) (cs : List Char) :
    skipHead frames (c :: cs) = behind frames (skipNumber (c :: cs)) := by
  have hdigit := isDigit_iff.1 hc
  rw [skipHead.eq_9, if_pos hc]
  -- a digit is none of the characters that begin the other values
  all_goals exact ne_of_isDigit hdigit (by decide)

/-- A number is passed, of whatever size and precision. -/
lemma passed_number (hcs : NumberText cs) : Passed .value cs := by
  cases hcs with
  | negative hcs =>
    refine passed_token rfl fun frames rest hrest => ?_
    exact congrArg (behind frames) (skipNumber_append hcs hrest)
  | positive hcs =>
    obtain ⟨c, cs, rfl, hc⟩ := hcs.exists_cons
    refine passed_token (isGap_eq_false_of_isDigit (isDigit_iff.1 hc)) fun frames rest hrest => ?_
    rw [skipHead_digit frames hc]
    exact congrArg (behind frames) (skipNumber_append hcs hrest)

/-- An array or an object is passed if its inside is. -/
lemma passed_bracket {c : Char} (frame : Frame) (hc : isGap c = false)
    (hhead : ∀ frames rest, skipHead frames (c :: rest) = .ok ⟨false, frame :: frames, rest⟩)
    (hcs : ∀ frames rest out, Resumes true frames rest out →
      Resumes false (frame :: frames) (cs ++ rest) out) : Passed .value (c :: cs) := by
  intro frames gap rest out hgap _ h
  exact (hcs frames rest out h).skips hgap hc (hhead frames (cs ++ rest)) (Nat.le_refl _)

/-! ### The insides of arrays and objects -/

/-- Skipping resumes alike where the same brackets are closed, if there is no less to be skipped. -/
lemma Resumes.of_eq {afterValue' : Bool} (h : Resumes afterValue' frames' rest out)
    (heq : skipCloses afterValue frames cs = skipCloses afterValue' frames' rest)
    (hlength : rest.length ≤ cs.length) : Resumes afterValue frames cs out := by
  rcases h with hdone | ⟨frames'', rest', hvalue, hle, hskips⟩
  · exact .inl (heq.trans hdone)
  · exact .inr ⟨frames'', rest', heq.trans hvalue, Nat.le_trans hle hlength, hskips⟩

/-- The closing bracket of an array is passed. -/
lemma passed_closeItems (hgap : Gap gap) : Passed (.items isFirst) (gap ++ [']']) := by
  intro frames rest out h
  have hskip := skipGap_append_cons (c := ']') hgap rfl rest
  rw [List.append_assoc, List.singleton_append]
  refine h.of_eq ?_ (by simp; omega)
  simp only [skipCloses, hskip]

/-- The closing brace of an object is passed. -/
lemma passed_closeMembers (hgap : Gap gap) : Passed (.members isFirst) (gap ++ ['}']) := by
  intro frames rest out h
  have hskip := skipGap_append_cons (c := '}') hgap rfl rest
  rw [List.append_assoc, List.singleton_append]
  refine h.of_eq ?_ (by simp; omega)
  simp only [skipCloses, hskip]

/-- The step to an item leaves out what stands before it. Of a comma with gaps around it the second
gap is left to the item. -/
lemma skipCloses_item (frames : List Frame) {c : Char} (hlead : Lead isFirst lead)
    (hc : isGap c = false) (hbracket : c ≠ ']') (cs : List Char) :
    ∃ gap, Gap gap ∧ gap.length ≤ lead.length ∧
      skipCloses (!isFirst) (.list :: frames) (lead ++ c :: cs) =
        .ok (.value (.list :: frames) (gap ++ c :: cs)) := by
  cases isFirst with
  | true =>
    have hskip := skipGap_append_cons (c := c) hlead hc cs
    exact ⟨[], gap_nil, Nat.zero_le _, by simp [skipCloses, hskip, hbracket]⟩
  | false =>
    obtain ⟨gap, gap', hgap, hgap', rfl⟩ := hlead
    have hskip := skipGap_append_cons (c := ',') hgap rfl (gap' ++ c :: cs)
    refine ⟨gap', hgap', by simp; omega, ?_⟩
    simp [skipCloses, hskip]

/-- An item and those behind it are passed if both are.

**Proof sketch.** The step to the item leaves its frame open. Behind the item skipping resumes with
the other items, which can stand behind a value; and behind these it resumes by assumption. -/
lemma passed_item (hlead : Lead isFirst lead) (hv : Formed LooseString NumberText depth .value cs)
    (hcs : Passed .value cs) (hmore : Formed LooseString NumberText depth (.items false) rest')
    (h : Passed (.items false) rest') : Passed (.items isFirst) (lead ++ (cs ++ rest')) := by
  intro frames rest out hout
  obtain ⟨c, cs, rfl, hc, hbracket⟩ := hv.exists_cons
  obtain ⟨gap, hgap, hlength, hstep⟩ :=
    skipCloses_item frames hlead hc hbracket (cs ++ (rest' ++ rest))
  have hskips := hcs (.list :: frames) gap (rest' ++ rest) out hgap (hmore.delimited_items rest)
    (h frames rest out hout)
  simp only [List.append_assoc, List.cons_append] at hskips ⊢
  -- the step leaves no more characters than there were, so there is fuel for the item
  exact .inr ⟨_, _, hstep, by simp; omega, hskips⟩

/-- The name of a member is skipped with its colon. -/
lemma skipKey_append {quoted gap' : List Char} (hgap : Gap gap) (hname : LooseString quoted)
    (hgap' : Gap gap') (cs : List Char) :
    skipKey (gap ++ '"' :: (quoted ++ '"' :: (gap' ++ ':' :: cs))) = .ok cs := by
  have hskip := skipGap_append_cons (c := '"') hgap rfl (quoted ++ '"' :: (gap' ++ ':' :: cs))
  have hquoted := skipQuoted_append hname (gap' ++ ':' :: cs)
  have hcolon := readColon_append hgap' cs
  simp only [skipKey, hskip, hquoted, bind, Except.bind, hcolon]

/-- The step to the value of a member leaves out its name.

**Proof sketch.** By whether the member is the first one. The name is skipped with its colon, and
what is behind the colon is left. -/
lemma skipCloses_member (frames : List Frame) {quoted : List Char} (hlead : Lead isFirst lead)
    (hname : LooseString quoted) (hgap : Gap gap) (cs : List Char) :
    skipCloses (!isFirst) (.object :: frames)
        (lead ++ '"' :: (quoted ++ '"' :: (gap ++ ':' :: cs))) =
      .ok (.value (.object :: frames) cs) := by
  cases isFirst with
  | true =>
    have hskip := skipGap_append_cons (c := '"') hlead rfl (quoted ++ '"' :: (gap ++ ':' :: cs))
    have hkey := skipKey_append gap_nil hname hgap cs
    rw [List.nil_append] at hkey
    simp [skipCloses, hskip, hkey, bind, Except.bind]
  | false =>
    obtain ⟨gap₁, gap₂, hgap₁, hgap₂, rfl⟩ := hlead
    have hskip := skipGap_append_cons (c := ',') hgap₁ rfl
      (gap₂ ++ '"' :: (quoted ++ '"' :: (gap ++ ':' :: cs)))
    have hkey := skipKey_append hgap₂ hname hgap cs
    simp [skipCloses, hskip, hkey, bind, Except.bind]

/-- A member and those behind it are passed if both are, as for items. -/
lemma passed_member {quoted gap' : List Char} (hlead : Lead isFirst lead)
    (hname : LooseString quoted) (hgap : Gap gap) (hgap' : Gap gap') (hcs : Passed .value cs)
    (hmore : Formed LooseString NumberText depth (.members false) rest')
    (h : Passed (.members false) rest') :
    Passed (.members isFirst)
      (lead ++ '"' :: (quoted ++ '"' :: (gap ++ ':' :: (gap' ++ (cs ++ rest'))))) := by
  intro frames rest out hout
  have hstep := skipCloses_member frames hlead hname hgap
    (gap' ++ (cs ++ (rest' ++ rest)))
  have hskips := hcs (.object :: frames) gap' (rest' ++ rest) out hgap'
    (hmore.delimited_members rest) (h frames rest out hout)
  simp only [List.append_assoc, List.cons_append]
  exact .inr ⟨_, _, hstep, by simp; omega, hskips⟩

/-! ### Values of any depth -/

/-- **Whatever is well formed is passed.** By induction on the form, one case for each way to be
well formed. -/
theorem Formed.passed (h : Formed LooseString NumberText depth part cs) : Passed part cs := by
  induction h with
  | null => exact passed_word ['u', 'l', 'l'] rfl fun _ _ => rfl
  | yes => exact passed_word ['r', 'u', 'e'] rfl fun _ _ => rfl
  | no => exact passed_word ['a', 'l', 's', 'e'] rfl fun _ _ => rfl
  | number h => exact passed_number h
  | string h => exact passed_string h
  | array _ ih => exact passed_bracket .list rfl (fun _ _ => rfl) ih
  | object _ ih => exact passed_bracket .object rfl (fun _ _ => rfl) ih
  | closeItems hgap => exact passed_closeItems hgap
  | item hlead hv h ihv ih => exact passed_item hlead hv ihv h ih
  | closeMembers hgap => exact passed_closeMembers hgap
  | member hlead hname hgap hgap' _ h ihv ih =>
    exact passed_member hlead hname hgap hgap' ihv h ih

/-- **A well-formed value is skipped**, and what stands behind it is left. -/
theorem skipValue_of_formed (h : Formed LooseString NumberText depth .value cs) (hgap : Gap gap)
    (hrest : Delimited rest) : skipValue (gap ++ (cs ++ rest)) = .ok rest :=
  h.passed [] gap rest rest hgap hrest (.inl rfl) _ (Nat.lt_succ_self _)

end RequestRunner.Json
