import RequestRunner.Proofs.Document.LineForms

/-!
# Blanks around a line

Blanks behind a line make no difference to its kind. Blanks before it matter to one rule alone: a
request stands in the first column. All other rules look at the line without the blanks around it.
So a line that is no request keeps its kind, and a request line becomes a header if there is a
colon in it and other text if there is none.

## Main results

* `LineKind.ofChars_indented` — the kind of a line with blanks before it.
* `LineKind.ofIndented_header`, `LineKind.ofIndented_text` — what becomes of a request line.
* `ofLine_among_blanks` — the kind of a line with blanks behind it or before it.
-/

namespace RequestRunner

open Text

variable {c : Char} {cs blanks before behind : List Char}

namespace LineKind

/-! ### Texts that start with a letter -/

/-- What starts with a letter is no comment. -/
lemma not_comment_of_isAlpha (h : c.isAlpha) :
    ((c :: cs).head? == some '#' || (after? "//" (c :: cs)).isSome) = false := by
  have hhash : ((c :: cs).head? == some '#') = false :=
    beq_eq_false_iff_ne.2 fun he => ne_of_isAlpha h (by decide) (Option.some.inj he)
  have hslash : after? "//" (c :: cs) = none :=
    after?_cons_eq_none rfl (ne_of_isAlpha h (by decide)).symm
  rw [hhash, hslash, Option.isSome_none, Bool.or_false]

/-- What starts with a letter is no separator. -/
lemma ofIndented_of_isAlpha (h : c.isAlpha) : ofIndented (c :: cs) = ofTrimmed (c :: cs) := by
  rw [ofIndented, List.isEmpty_cons, after?_separator_of_isAlpha h]
  rfl

/-! ### Lines that are no requests -/

/-- Without the rule for requests a line is none. -/
lemma not_isMethod_ofIndented : ¬ (ofIndented cs).isMethod := by
  intro h
  obtain ⟨m, url, hkind⟩ := isMethod_iff.1 h
  exact ofIndented_ne_method hkind

/-- **The rule for request lines decides which lines are requests.** No other rule gives one. -/
lemma isMethod_ofChars_iff : (ofChars cs).isMethod ↔ (ofMethodLine? (trimEnd cs)).isSome := by
  rw [ofChars_eq_getD]
  cases hm : ofMethodLine? (trimEnd cs) with
  | none => simp [not_isMethod_ofIndented]
  | some kind =>
    have hkind : kind.isMethod := by
      rcases ofMethodLine?_eq_some hm with ⟨_, _, _, _, rfl⟩ | ⟨_, rfl⟩ <;> rfl
    simp [hkind]

/-- A line that is no request has the kind that it has behind blanks. -/
lemma ofChars_of_not_isMethod (h : ¬ (ofChars cs).isMethod) :
    ofChars cs = ofIndented (trim cs) := by
  rw [isMethod_ofChars_iff, Option.not_isSome_iff_eq_none] at h
  rw [ofChars_eq_getD, h, Option.getD_none]

/-! ### Blanks behind and before a line -/

/-- Blanks behind a line make no difference to its kind, since every rule looks at the line without
them. -/
lemma ofChars_append_of_blank (h : ∀ c ∈ blanks, Text.isBlank c) :
    ofChars (cs ++ blanks) = ofChars cs :=
  ofChars_congr (trimEnd_append_of_blank h)

/-- **A line with blanks before it** has the kind that the rules without the one for request lines
give: a request line starts with a letter. -/
theorem ofChars_indented (h : ∀ c ∈ blanks, Text.isBlank c) (hne : blanks ≠ []) :
    ofChars (blanks ++ cs) = ofIndented (trim cs) := by
  have hnone : ofMethodLine? (trimEnd (blanks ++ cs)) = none := by
    obtain ⟨c, rest, rfl⟩ := List.exists_cons_of_ne_nil hne
    rw [trimEnd_append]
    split
    · rw [trimEnd_eq_nil_iff.2 h]
      rfl
    · exact ofMethodLine?_of_blank (h c List.mem_cons_self)
  rw [ofChars_eq_getD, hnone, Option.getD_none, trim_append_of_blank h]

/-- A request line with a colon in it is a header line behind blanks.

**Proof sketch.** The line starts with a letter, so that it is neither a separator nor a comment
when the rule for requests is left out, and it is cut at its first colon. That is not its first
character, which is the letter. -/
lemma ofIndented_header (h : (ofChars (before ++ ':' :: behind)).isMethod) (hcolon : ':' ∉ before) :
    ofIndented (trim (before ++ ':' :: behind)) =
      .header (String.ofList (trim before)) (String.ofList (trim behind)) := by
  obtain ⟨kind, hm⟩ := Option.isSome_iff_exists.1 (isMethod_ofChars_iff.1 h)
  obtain ⟨htrim, c, rest, hcs, hc⟩ := exists_trim_eq_cons hm
  have hend : trimEnd (before ++ ':' :: behind) = before ++ ':' :: trimEnd behind :=
    trimEnd_append_cons (by decide)
  have hcut : splitAt? ':' (c :: rest) = some (before, trimEnd behind) := by
    rw [← hcs, hend]
    exact splitAt?_append hcolon
  rw [htrim, hcs, ofIndented_of_isAlpha hc, ofTrimmed, not_comment_of_isAlpha hc, hcut]
  cases before with
  | nil =>
    obtain ⟨rfl, -⟩ := List.cons.inj (hend.symm.trans hcs)
    exact absurd hc (by decide)
  | cons d before =>
    exact congrArg (fun value => header (String.ofList (trim (d :: before))) (String.ofList value))
      (trim_trimEnd behind)

/-- A request line without a colon in it is other text behind blanks. -/
lemma ofIndented_text (h : (ofChars cs).isMethod) (hcolon : ':' ∉ cs) :
    ofIndented (trim cs) = .text := by
  obtain ⟨kind, hm⟩ := Option.isSome_iff_exists.1 (isMethod_ofChars_iff.1 h)
  obtain ⟨htrim, c, rest, hcs, hc⟩ := exists_trim_eq_cons hm
  have hcut : splitAt? ':' (c :: rest) = none := by
    rw [← hcs]
    exact splitAt?_eq_none fun hmem => hcolon ((trimEnd_prefix_self cs).subset hmem)
  rw [htrim, hcs, ofIndented_of_isAlpha hc, ofTrimmed, not_comment_of_isAlpha hc, hcut]
  rfl

end LineKind

/-- **Blanks around a line.** Blanks behind a line make no difference to its kind, nor to the
address, the name or the value in it. With blanks before it a line is no request: if it was none, its
kind stays what it was, and if it was one, it becomes a header, of the trimmed texts before and
behind its first colon, or other text if there is no colon in it.

**Proof sketch.** Behind blanks all rules but the one for request lines are left
(`LineKind.ofChars_indented`), and for a line that is no request they decide anyway
(`LineKind.ofChars_of_not_isMethod`). A request line starts with a letter, and so is neither blank
nor a separator nor a comment. -/
theorem ofLine_among_blanks (line blanks : String) (h : ∀ c ∈ blanks.toList, isBlank c) :
    LineKind.ofLine (line ++ blanks) = LineKind.ofLine line ∧
      (blanks ≠ "" →
        ¬ (LineKind.ofLine (blanks ++ line)).isMethod ∧
        (¬ (LineKind.ofLine line).isMethod →
          LineKind.ofLine (blanks ++ line) = LineKind.ofLine line) ∧
        ((LineKind.ofLine line).isMethod →
          (∀ before behind, line.toList = before ++ ':' :: behind → ':' ∉ before →
            LineKind.ofLine (blanks ++ line) =
              .header (String.ofList (trim before)) (String.ofList (trim behind))) ∧
          (':' ∉ line.toList → LineKind.ofLine (blanks ++ line) = .text))) := by
  refine ⟨?_, fun hne => ?_⟩
  · rw [LineKind.ofLine, String.toList_append]
    exact LineKind.ofChars_append_of_blank h
  have hindented : LineKind.ofLine (blanks ++ line) = LineKind.ofIndented (trim line.toList) := by
    rw [LineKind.ofLine, String.toList_append]
    exact LineKind.ofChars_indented h fun hnil => hne (String.toList_eq_nil_iff.1 hnil)
  rw [hindented]
  refine ⟨LineKind.not_isMethod_ofIndented, fun hline => ?_, fun hline => ⟨?_, ?_⟩⟩
  · exact (LineKind.ofChars_of_not_isMethod hline).symm
  · intro before behind hsplit hcolon
    rw [LineKind.ofLine, hsplit] at hline
    rw [hsplit]
    exact LineKind.ofIndented_header hline hcolon
  · exact LineKind.ofIndented_text hline

/-- A request behind a tab and an ideographic space is a header named by its verb and its scheme,
and without a scheme it is other text. -/
theorem ofLine_among_blanks_of_request :
    let blanks := "\t\u3000"
    (∀ c ∈ blanks.toList, isBlank c) ∧
      LineKind.ofLine ("GET http://a/b" ++ blanks) = .method .get "http://a/b" ∧
      LineKind.ofLine (blanks ++ "GET http://a/b") = .header "GET http" "//a/b" ∧
      LineKind.ofLine (blanks ++ "GET /b") = .text ∧
      LineKind.ofLine (blanks ++ "A : b") = LineKind.ofLine "A : b" := by
  intro blanks
  have hblank : ∀ c ∈ blanks.toList, isBlank c := List.all_eq_true.1 (by decide)
  have hne : blanks ≠ "" := by decide
  obtain ⟨hbehind, hbefore⟩ := ofLine_among_blanks "GET http://a/b" blanks hblank
  obtain ⟨-, -, hcolon⟩ := hbefore hne
  obtain ⟨-, -, hnone⟩ := (ofLine_among_blanks "GET /b" blanks hblank).2 hne
  obtain ⟨-, hkept, -⟩ := (ofLine_among_blanks "A : b" blanks hblank).2 hne
  refine ⟨hblank, ?_, ?_, ?_, hkept (by decide +kernel)⟩
  · rw [hbehind]
    decide +kernel
  · exact (hcolon (by decide +kernel)).1 "GET http".toList "//a/b".toList (by decide) (by decide)
  · exact (hnone (by decide +kernel)).2 (by decide)

end RequestRunner
