import Mathlib.Data.List.TakeDrop
import RequestRunner.Proofs.Document.LineSearch
import RequestRunner.Proofs.Text.Lines
import RequestRunner.Proofs.Text.Trimming

/-!
# The forms of request and header lines

A line that is a request or a header gives an address, or a name and a value, of a certain form;
and anything of that form can be written as a line that gives it again. A header is written behind
a blank, since a line that starts with a verb or an address is a request whatever follows.

## Main definitions

* `IsAddress` — what the address of a request line looks like.
* `IsField` — what the name and the value of a header line look like.
* `LineKind.ofIndented` — the rules for the kind of a line without the one for request lines.

## Main results

* `LineKind.ofChars_eq_getD` — the rule for request lines may as well come first.
* `isAddress_of_ofLine`, `ofLine_request` — request lines read and written.
* `isField_of_ofLine`, `ofLine_field` — header lines read and written.
-/

namespace RequestRunner

open Text

/-- An address as a request line gives it. -/
structure IsAddress (url : List Char) : Prop where
  trimmed : Trimmed url
  looks : looksLikeAddress url

/-- A name and a value as a header line gives them. -/
structure IsField (name value : List Char) : Prop where
  name_ne_nil : name ≠ []
  name_trimmed : Trimmed name
  not_mem_name : ':' ∉ name
  not_comment : name.head? ≠ some '#' ∧ ¬ "//".toList <+: name
  value_trimmed : Trimmed value

variable {c : Char} {cs before behind line : List Char} {m : Method} {url name value : String}

/-! ### Starts and cuts -/

/-- A text can be read on behind a start exactly if it starts so. -/
lemma isSome_after?_iff {start : String} : (after? start cs).isSome ↔ start.toList <+: cs := by
  rw [after?, ← List.isPrefixOf_iff_prefix]
  split <;> simp_all

/-- A text does not start with what has another first character. -/
lemma after?_cons_eq_none {start : String} {d : Char} {more : List Char}
    (hstart : start.toList = d :: more) (h : d ≠ c) : after? start (c :: cs) = none := by
  rw [← Option.not_isSome_iff_eq_none, isSome_after?_iff, hstart]
  rintro ⟨rest, hrest⟩
  exact h (List.cons.inj hrest).1

/-- The cut is at the first of the characters that are looked for. -/
lemma splitAt?_append (h : c ∉ before) :
    splitAt? c (before ++ c :: behind) = some (before, behind) := by
  have hp : ∀ d ∈ before, (d != c) = true := fun d hd =>
    bne_iff_ne.2 fun he => h (he ▸ hd)
  rw [splitAt?, List.span_eq_takeWhile_dropWhile, List.takeWhile_append_of_pos hp,
    List.dropWhile_append_of_pos hp]
  simp

/-- What a cut gives: the text is put together of both parts with the character between them, which
the first part does not hold.

**Proof sketch.** The first part is taken as long as the character is not met. What is left then
begins with it. -/
lemma eq_append_of_splitAt? (h : splitAt? c cs = some (before, behind)) :
    cs = before ++ c :: behind ∧ c ∉ before := by
  rw [splitAt?, List.span_eq_takeWhile_dropWhile] at h
  cases hd : cs.dropWhile (· != c) with
  | nil => simp [hd] at h
  | cons d rest =>
    have hdc : d = c := by
      have hnot := List.head?_dropWhile_not (· != c) cs
      simpa [hd] using hnot
    simp only [hd, Option.some.injEq, Prod.mk.injEq] at h
    obtain ⟨rfl, rfl⟩ := h
    refine ⟨?_, fun hmem => ?_⟩
    · calc cs = cs.takeWhile (· != c) ++ cs.dropWhile (· != c) :=
            List.takeWhile_append_dropWhile.symm
        _ = cs.takeWhile (· != c) ++ c :: rest := by rw [hd, hdc]
    · simpa using List.mem_takeWhile_imp hmem

/-- A text without the character is not cut. -/
lemma splitAt?_eq_none (h : c ∉ cs) : splitAt? c cs = none := by
  cases hcut : splitAt? c cs with
  | none => rfl
  | some parts =>
    refine absurd ?_ h
    rw [(eq_append_of_splitAt? hcut).1]
    exact List.mem_append_right _ List.mem_cons_self

/-! ### Verbs and addresses -/

/-- A letter is no blank, of whichever kind. The letters are the two ranges of ASCII, and no blank
of Unicode is in them. -/
lemma not_isBlank_of_isAlpha (h : c.isAlpha) : ¬ isBlank c := by
  have between : ∀ low high : Char, low.val ≤ c.val ∧ c.val ≤ high.val →
      low.toNat ≤ c.toNat ∧ c.toNat ≤ high.toNat := fun low high hc =>
    hc.imp UInt32.le_iff_toNat_le.1 UInt32.le_iff_toNat_le.1
  have hrange : (65 ≤ c.toNat ∧ c.toNat ≤ 90) ∨ (97 ≤ c.toNat ∧ c.toNat ≤ 122) := by
    rcases Bool.or_eq_true_iff.1 h with hupper | hlower
    · exact .inl (between 'A' 'Z' (of_decide_eq_true hupper))
    · obtain ⟨hlow, hhigh⟩ := Bool.and_eq_true_iff.1 hlower
      exact .inr (between 'a' 'z' ⟨of_decide_eq_true hlow, of_decide_eq_true hhigh⟩)
  simp only [isBlank, Bool.or_eq_true, Bool.and_eq_true, decide_eq_true_eq, beq_iff_eq]
  omega

/-- A letter is none of the marks. -/
lemma ne_of_isAlpha {d : Char} (h : c.isAlpha) (hd : ¬ d.isAlpha) : c ≠ d := fun he => hd (he ▸ h)

/-- A line that starts with a letter is no separator. -/
lemma after?_separator_of_isAlpha (h : c.isAlpha) : after? "###" (c :: cs) = none :=
  after?_cons_eq_none rfl (ne_of_isAlpha h (by decide)).symm

/-- A verb has no blank in it and starts with a letter. -/
lemma Method.name_spec (m : Method) :
    ' ' ∉ m.name.toList ∧ (∃ c rest, m.name.toList = c :: rest ∧ c.isAlpha) ∧
      Method.ofVerb? m.name = some m := by
  cases m <;> exact ⟨by decide, ⟨_, _, rfl, by decide⟩, by decide⟩

/-- A verb is the name of the method that it is read as, in capitals and all. -/
lemma Method.name_of_ofVerb? {verb : String} (h : Method.ofVerb? verb = some m) :
    m.name = verb := by
  simpa using List.find?_some h

/-- An address that stands alone has a scheme, and so starts with a letter.

**Proof sketch.** What stands alone as an address has something behind a scheme, and both schemes
that are looked for begin with the same letter. -/
lemma afterScheme?_of_isBareAddress (h : isBareAddress cs) :
    (afterScheme? cs).isSome ∧ ∃ rest, cs = 'h' :: rest := by
  have hsome : (afterScheme? cs).isSome := by
    unfold isBareAddress at h
    split at h
    · rename_i rest hrest
      rw [hrest]; rfl
    · exact absurd h Bool.false_ne_true
  refine ⟨hsome, ?_⟩
  have hstart : "http://".toList <+: cs ∨ "https://".toList <+: cs := by
    rw [← isSome_after?_iff, ← isSome_after?_iff]
    unfold afterScheme? at hsome
    cases h₁ : after? "http://" cs with
    | some rest => exact .inl rfl
    | none =>
      rw [h₁, Option.orElse_none] at hsome
      exact .inr hsome
  rcases hstart with ⟨rest, rfl⟩ | ⟨rest, rfl⟩ <;> exact ⟨_, rfl⟩

/-! ### Kinds from characters -/

namespace LineKind

/-- **What a verb with an address is**: the name of a method, a space, and the rest of the line,
which looks like an address when the blanks around it are gone. That rest is the address that the
line gives. -/
lemma ofVerbAndAddress?_eq_some {kind : LineKind} (h : ofVerbAndAddress? line = some kind) :
    ∃ m rest, line = m.name.toList ++ ' ' :: rest ∧ looksLikeAddress (trim rest) ∧
      kind = .method m (String.ofList (trim rest)) := by
  simp only [ofVerbAndAddress?, Option.bind_eq_bind, Option.bind_eq_some_iff] at h
  obtain ⟨⟨verb, rest⟩, hcut, m, hverb, h⟩ := h
  split at h
  · rename_i hlooks
    refine ⟨m, rest, ?_, hlooks, (Option.some.inj h).symm⟩
    rw [Method.name_of_ofVerb? hverb, String.toList_ofList]
    exact (eq_append_of_splitAt? hcut).1
  · cases h

/-- **What a request line is**: a verb with an address, or an address alone, which is a request to
get it. -/
lemma ofMethodLine?_eq_some {kind : LineKind} (h : ofMethodLine? line = some kind) :
    (∃ m rest, line = m.name.toList ++ ' ' :: rest ∧ looksLikeAddress (trim rest) ∧
      kind = .method m (String.ofList (trim rest))) ∨
    (isBareAddress line ∧ kind = .method .get (String.ofList line)) := by
  rw [ofMethodLine?] at h
  cases hv : ofVerbAndAddress? line with
  | some kind' =>
    rw [hv, Option.orElse_some, Option.some.injEq] at h
    exact .inl (ofVerbAndAddress?_eq_some (h ▸ hv))
  | none =>
    rw [hv, Option.orElse_none] at h
    split at h
    · rename_i hbare
      exact .inr ⟨hbare, (Option.some.inj h).symm⟩
    · cases h

/-- A request line starts with a letter: that of its verb, or that of the scheme of its address. -/
lemma exists_cons_of_ofMethodLine? {kind : LineKind} (h : ofMethodLine? line = some kind) :
    ∃ c rest, line = c :: rest ∧ c.isAlpha := by
  rcases ofMethodLine?_eq_some h with ⟨m, rest, rfl, -, -⟩ | ⟨hbare, -⟩
  · obtain ⟨-, ⟨c, more, hname, hc⟩, -⟩ := m.name_spec
    exact ⟨c, _, by rw [hname, List.cons_append], hc⟩
  · obtain ⟨-, rest, rfl⟩ := afterScheme?_of_isBareAddress hbare
    exact ⟨'h', rest, rfl, by decide⟩

/-- A request line has no blank in front. -/
lemma not_isBlank_head?_of_ofMethodLine? {kind : LineKind} (h : ofMethodLine? line = some kind) :
    ∀ c ∈ line.head?, ¬ Text.isBlank c := by
  obtain ⟨d, rest, rfl, hd⟩ := exists_cons_of_ofMethodLine? h
  intro c hc
  obtain rfl : d = c := Option.some.inj hc
  exact not_isBlank_of_isAlpha hd

/-- A line that starts with a blank is no request. -/
lemma ofMethodLine?_of_blank (h : Text.isBlank c) : ofMethodLine? (c :: cs) = none := by
  cases hm : ofMethodLine? (c :: cs) with
  | none => rfl
  | some kind => exact absurd h (not_isBlank_head?_of_ofMethodLine? hm c rfl)

/-- A request line has blanks at its end alone, and starts with a letter. -/
lemma exists_trim_eq_cons {kind : LineKind} (h : ofMethodLine? (trimEnd cs) = some kind) :
    trim cs = trimEnd cs ∧ ∃ c rest, trimEnd cs = c :: rest ∧ c.isAlpha := by
  obtain ⟨c, rest, hcs, hc⟩ := exists_cons_of_ofMethodLine? h
  exact ⟨trimStart_of_head? (not_isBlank_head?_of_ofMethodLine? h), c, rest, hcs, hc⟩

/-- The kind of a line that is no request, from the line without the blanks around it. -/
def ofIndented (trimmed : List Char) : LineKind :=
  if trimmed.isEmpty then .blank
  else if (after? "###" trimmed).isSome then .separator
  else ofTrimmed trimmed

/-- Without the rule for requests a line is blank, a separator, or what the rules for comments and
headers say. -/
lemma ofIndented_cases (cs : List Char) :
    ofIndented cs = .blank ∨ ofIndented cs = .separator ∨ ofIndented cs = ofTrimmed cs := by
  unfold ofIndented
  split
  · exact .inl rfl
  · split
    · exact .inr (.inl rfl)
    · exact .inr (.inr rfl)

/-- **The rule for request lines may come before all others**, since a request line starts with a
letter: it is neither blank nor a separator, and has no blanks in front that the other rules would
leave out. -/
theorem ofChars_eq_getD (cs : List Char) :
    ofChars cs = (ofMethodLine? (trimEnd cs)).getD (ofIndented (trim cs)) := by
  cases hm : ofMethodLine? (trimEnd cs) with
  | none => rw [ofChars, hm, Option.getD_none, Option.getD_none, ofIndented]
  | some kind =>
    obtain ⟨htrim, c, rest, hcs, hc⟩ := exists_trim_eq_cons hm
    rw [ofChars, hm, htrim, hcs, after?_separator_of_isAlpha hc]
    rfl

/-- The rules for comments and headers give no request. -/
lemma ofTrimmed_ne_method : ofTrimmed cs ≠ .method m url := by
  unfold ofTrimmed
  split
  · exact LineKind.noConfusion
  · split <;> exact LineKind.noConfusion

/-- Without the rule for requests there is none. -/
lemma ofIndented_ne_method : ofIndented cs ≠ .method m url := by
  rcases ofIndented_cases cs with h | h | h
  · exact h ▸ LineKind.noConfusion
  · exact h ▸ LineKind.noConfusion
  · exact h ▸ ofTrimmed_ne_method

/-- A line that is a request is one by the rule for requests. -/
lemma ofMethodLine?_of_ofChars (h : ofChars line = .method m url) :
    ofMethodLine? (trimEnd line) = some (.method m url) := by
  rw [ofChars_eq_getD] at h
  cases hm : ofMethodLine? (trimEnd line) with
  | none =>
    rw [hm, Option.getD_none] at h
    exact absurd h ofIndented_ne_method
  | some kind => rw [← h, hm, Option.getD_some]

/-- A line that is a header is one by the rule for headers, looked at without the blanks around it.

**Proof sketch.** The rule for request lines may come first (`ofChars_eq_getD`), and it gives no
headers. Of the rules that are left only that for comments and headers gives one. -/
lemma ofTrimmed_of_ofChars (h : ofChars line = .header name value) :
    ofTrimmed (trim line) = .header name value := by
  rw [ofChars_eq_getD] at h
  cases hm : ofMethodLine? (trimEnd line) with
  | none =>
    rw [hm, Option.getD_none] at h
    rcases ofIndented_cases (trim line) with hk | hk | hk
    · exact LineKind.noConfusion (hk.symm.trans h)
    · exact LineKind.noConfusion (hk.symm.trans h)
    · exact hk.symm.trans h
  | some kind =>
    rw [hm, Option.getD_some] at h
    subst h
    rcases ofMethodLine?_eq_some hm with ⟨_, _, _, _, h⟩ | ⟨_, h⟩ <;> exact LineKind.noConfusion h

/-- Blanks at the end of a line make no difference to its kind: every rule looks at the line without
them. -/
lemma ofChars_congr (h : trimEnd line = trimEnd cs) : ofChars line = ofChars cs := by
  rw [ofChars, ofChars, trim, trim, h]

/-- A carriage return at the end of a line makes no difference to its kind. -/
lemma ofLine_ended (l : String) : ofLine (ended l) = ofLine l := by
  rw [ofLine, ended, String.toList_ofList]
  refine ofChars_congr ?_
  unfold endedLine
  split
  · rename_i before hbefore
    have hchars : l.toList = before.reverse ++ ['\r'] := by
      rw [← List.reverse_cons, ← hbefore, List.reverse_reverse]
    rw [hchars, trimEnd_append, if_pos (by decide)]
  · rw [List.reverse_reverse]

end LineKind

/-! ### Request lines -/

/-- **The address of a request line** has no blanks around it, looks like an address, and is made of
characters of the line.

**Proof sketch.** By the two forms of request lines (`LineKind.ofMethodLine?_eq_some`). Behind a
verb the address is trimmed and looked at. An address alone is the line without the blanks at its
end; it starts with a letter and has a scheme. -/
theorem isAddress_of_ofLine {l : String} (h : LineKind.ofLine l = .method m url) :
    IsAddress url.toList ∧ ∀ c ∈ url.toList, c ∈ l.toList := by
  have hm := LineKind.ofMethodLine?_of_ofChars h
  rcases LineKind.ofMethodLine?_eq_some hm with
    ⟨m', rest, hline, hlooks, hkind⟩ | ⟨hbare, hkind⟩
  · obtain ⟨-, rfl⟩ := LineKind.method.inj hkind
    rw [String.toList_ofList]
    refine ⟨⟨trimmed_trim rest, hlooks⟩, fun c hc => (trimEnd_prefix_self _).subset ?_⟩
    rw [hline]
    exact List.mem_append_right _ (List.mem_cons_of_mem _ (mem_of_mem_trim hc))
  · obtain ⟨-, rfl⟩ := LineKind.method.inj hkind
    obtain ⟨hscheme, -⟩ := afterScheme?_of_isBareAddress hbare
    rw [String.toList_ofList]
    have hhead := LineKind.not_isBlank_head?_of_ofMethodLine? hm
    refine ⟨⟨⟨hhead, fun _ => not_isBlank_getLast?_trimEnd⟩, ?_⟩,
      fun c hc => (trimEnd_prefix_self _).subset hc⟩
    rw [looksLikeAddress, hscheme]
    rfl

/-- An address is not empty: it has to look like one. -/
lemma IsAddress.ne_nil {url : List Char} (h : IsAddress url) : url ≠ [] := by
  rintro rfl
  exact absurd h.looks (by decide)

/-- **A verb and an address make a request line** that gives them again.

**Proof sketch.** Neither end of the line is blank: it starts with the letter of the verb and ends
as the address does. It is cut at the space behind the verb, which has none in it, and the address
is trimmed already. -/
theorem ofLine_request (h : IsAddress url.toList) :
    LineKind.ofLine (m.name ++ " " ++ url) = .method m url := by
  obtain ⟨hspace, ⟨c, rest, hname, hletter⟩, hverb⟩ := m.name_spec
  have hchars : (m.name ++ " " ++ url).toList = m.name.toList ++ ' ' :: url.toList := by
    simp [String.toList_append]
  have hend : trimEnd (m.name.toList ++ ' ' :: url.toList) = m.name.toList ++ ' ' :: url.toList := by
    refine trimEnd_of_getLast? fun d hd => h.trimmed.2 d ?_
    obtain ⟨u, us, hu⟩ := List.exists_cons_of_ne_nil h.ne_nil
    rwa [List.getLast?_append_cons, hu, List.getLast?_cons_cons, ← hu] at hd
  have htrim : trim (m.name.toList ++ ' ' :: url.toList) = m.name.toList ++ ' ' :: url.toList := by
    refine (trim_of_head? ?_).trans hend
    rw [hname]
    rintro d hd
    obtain rfl : c = d := by simpa using hd
    exact not_isBlank_of_isAlpha hletter
  have hsep : after? "###" (m.name.toList ++ ' ' :: url.toList) = none := by
    rw [hname]
    exact after?_separator_of_isAlpha hletter
  have hmethod : LineKind.ofMethodLine? (m.name.toList ++ ' ' :: url.toList) =
      some (.method m url) := by
    simp [LineKind.ofMethodLine?, LineKind.ofVerbAndAddress?, splitAt?_append hspace,
      String.ofList_toList, hverb, h.trimmed.trim_eq, h.looks]
  rw [LineKind.ofLine, LineKind.ofChars, hchars, htrim, hend, hsep, hmethod]
  simp

/-! ### Header lines -/

/-- **What a header line is**, without the blanks around it: no comment, and with a colon that is
not its first character. The first colon parts the name from the value, and neither keeps the blanks
around it.

**Proof sketch.** The rule is taken apart check by check. A header is what is left when the two
comments are excluded and a colon is found behind at least one character. -/
lemma LineKind.ofTrimmed_eq_header (h : ofTrimmed cs = .header name value) :
    cs.head? ≠ some '#' ∧ ¬ "//".toList <+: cs ∧ ∃ before behind, cs = before ++ ':' :: behind ∧
      ':' ∉ before ∧ before ≠ [] ∧
      name = String.ofList (trim before) ∧ value = String.ofList (trim behind) := by
  unfold ofTrimmed at h
  split at h
  · exact LineKind.noConfusion h
  rename_i hcomment
  rw [Bool.or_eq_true, not_or, isSome_after?_iff, beq_iff_eq] at hcomment
  refine ⟨hcomment.1, hcomment.2, ?_⟩
  split at h
  · rename_i c before behind hcut
    obtain ⟨hcs, hcolon⟩ := eq_append_of_splitAt? hcut
    obtain ⟨rfl, rfl⟩ := LineKind.header.inj h
    exact ⟨c :: before, behind, hcs, hcolon, List.cons_ne_nil _ _, rfl, rfl⟩
  · exact LineKind.noConfusion h

/-- **The name and the value of a header line** are of the form that a name and a value have, and
made of characters of the line.

**Proof sketch.** The name is what stands before the first colon without the blanks at its end; in
front it has none, since the line was trimmed. So it begins the line, which is no comment, and it is
not empty, since its first character is not blank. -/
theorem isField_of_ofLine {l : String} (h : LineKind.ofLine l = .header name value) :
    IsField name.toList value.toList ∧
      (∀ c ∈ name.toList, c ∈ l.toList) ∧ ∀ c ∈ value.toList, c ∈ l.toList := by
  obtain ⟨hhash, hslash, before, behind, hcs, hcolon, hne, rfl, rfl⟩ :=
    LineKind.ofTrimmed_eq_header (LineKind.ofTrimmed_of_ofChars h)
  rw [String.toList_ofList, String.toList_ofList]
  have hpre : before <+: trim l.toList := ⟨':' :: behind, hcs.symm⟩
  have hhead : ∀ c ∈ before.head?, ¬ isBlank c := fun c hc =>
    (trimmed_trim l.toList).1 c (mem_head?_mono hpre hc)
  have htrim : trim before = trimEnd before := trim_of_head? hhead
  have hname : trim before <+: trim l.toList := htrim ▸ (trimEnd_prefix_self before).trans hpre
  refine ⟨⟨?_, trimmed_trim before, fun hc => hcolon (mem_of_mem_trim hc), ⟨?_, ?_⟩,
    trimmed_trim behind⟩, ?_, ?_⟩
  · rw [htrim, Ne, trimEnd_eq_nil_iff]
    obtain ⟨c, rest, rfl⟩ := List.exists_cons_of_ne_nil hne
    exact fun hall => hhead c rfl (hall c List.mem_cons_self)
  · exact fun hc => hhash (mem_head?_mono hname hc)
  · exact fun hs => hslash (hs.trans hname)
  · exact fun c hc => mem_of_mem_trim (hname.subset hc)
  · intro c hc
    refine mem_of_mem_trim ?_
    rw [hcs]
    exact List.mem_append_right _ (List.mem_cons_of_mem _ (mem_of_mem_trim hc))

/-- A name with a colon behind it does not start a comment either. The case of one slash is the one
to look at: the colon is no second one.

**Proof sketch.** By the length of the name. If it has two characters or more, both slashes would
stand in the name itself. -/
lemma IsField.not_comment_append {name value : List Char} (h : IsField name value)
    (rest : List Char) :
    (name ++ ':' :: rest).head? ≠ some '#' ∧ ¬ "//".toList <+: name ++ ':' :: rest := by
  obtain ⟨hhash, hslash⟩ := h.not_comment
  obtain ⟨c, cs, rfl⟩ := List.exists_cons_of_ne_nil h.name_ne_nil
  refine ⟨hhash, fun hpre => ?_⟩
  rcases cs with _ | ⟨d, cs⟩
  · -- a single slash has the colon behind it, which is no slash
    obtain ⟨more, hmore⟩ := hpre
    simp at hmore
  · obtain ⟨more, hmore⟩ := hpre
    have hstart : '/' = c ∧ '/' = d := by
      simp only [String.reduceToList, List.cons_append, List.cons.injEq] at hmore
      exact ⟨hmore.1, hmore.2.1⟩
    obtain ⟨rfl, rfl⟩ := hstart
    exact hslash ⟨cs, rfl⟩

/-- **A name and a value behind a blank make a header line** that gives them again.

**Proof sketch.** The blank in front keeps the line from being a request
(`LineKind.ofMethodLine?_of_blank`). Without it, the line starts as the name does, so that it is no
separator and no comment, and the first colon is the one behind the name. The blanks at the end of
the line can only be the one in front of an empty value, which is left out anyway. -/
theorem ofLine_field (h : IsField name.toList value.toList) :
    LineKind.ofLine (" " ++ name ++ ": " ++ value) = .header name value := by
  have hchars : (" " ++ name ++ ": " ++ value).toList =
      ' ' :: (name.toList ++ ':' :: ' ' :: value.toList) := by
    simp [String.toList_append]
  have hend : trimEnd (name.toList ++ ':' :: ' ' :: value.toList) =
      name.toList ++ ':' :: trimEnd (' ' :: value.toList) := by
    exact trimEnd_append_cons (by decide)
  have hne : trimEnd (name.toList ++ ':' :: ' ' :: value.toList) ≠ [] := by
    rw [hend]
    exact List.append_ne_nil_of_right_ne_nil _ (List.cons_ne_nil _ _)
  have htrim : trim (' ' :: (name.toList ++ ':' :: ' ' :: value.toList)) =
      name.toList ++ ':' :: trimEnd (' ' :: value.toList) := by
    rw [trim_cons (by decide), trim_of_head?, hend]
    intro c hc
    obtain ⟨d, ds, hname⟩ := List.exists_cons_of_ne_nil h.name_ne_nil
    refine h.name_trimmed.1 c ?_
    rw [hname] at hc ⊢
    exact hc
  have hline : trimEnd (' ' :: (name.toList ++ ':' :: ' ' :: value.toList)) =
      ' ' :: (name.toList ++ ':' :: trimEnd (' ' :: value.toList)) := by
    rw [← List.singleton_append, trimEnd_append, if_neg hne, hend, List.singleton_append]
  have hvalue : trim (trimEnd (' ' :: value.toList)) = value.toList := by
    rw [trim_trimEnd, trim_cons (by decide), h.value_trimmed.trim_eq]
  obtain ⟨hhash, hslash⟩ := h.not_comment_append (trimEnd (' ' :: value.toList))
  have hsep : ¬ "###".toList <+: name.toList ++ ':' :: trimEnd (' ' :: value.toList) := by
    rintro ⟨more, hmore⟩
    exact hhash (by rw [← hmore]; rfl)
  rw [← isSome_after?_iff, Bool.not_eq_true] at hslash hsep
  rw [LineKind.ofLine, LineKind.ofChars, hchars, htrim, hline,
    LineKind.ofMethodLine?_of_blank (by decide)]
  simp only [List.isEmpty_eq_false_iff.2 (List.append_ne_nil_of_right_ne_nil _ (List.cons_ne_nil _ _)),
    hsep, Option.getD_none, Bool.false_eq_true, if_false]
  have hcolon : splitAt? ':' (name.toList ++ ':' :: trimEnd (' ' :: value.toList)) =
      some (name.toList, trimEnd (' ' :: value.toList)) := splitAt?_append h.not_mem_name
  have hstart : ((name.toList ++ ':' :: trimEnd (' ' :: value.toList)).head? == some '#') = false :=
    beq_eq_false_iff_ne.2 hhash
  obtain ⟨c, cs, hname⟩ := List.exists_cons_of_ne_nil h.name_ne_nil
  have hback : String.ofList (trim (c :: cs)) = name := by
    rw [← hname, h.name_trimmed.trim_eq, String.ofList_toList]
  rw [LineKind.ofTrimmed, hslash, hstart, hcolon, hname]
  simp only [Bool.or_self, Bool.false_eq_true, if_false, hback, hvalue, String.ofList_toList]

end RequestRunner
