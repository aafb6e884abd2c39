import RequestRunner.Proofs.Json.Accepted
import RequestRunner.Proofs.Json.Depth
import RequestRunner.Proofs.Json.SameValue
import RequestRunner.Report.ResultText

/-!
# How bodies are shown

A body that is not accepted as JSON is shown as it is. If it is accepted and its numbers are whole
ones that are kept exactly, what is shown says the same: it is accepted too, as the same value, and
is shown like itself. Bodies that say the same are shown alike, so gaps, the order of members with
different names and the way characters are escaped make no difference.

## Main definitions

* `Json.IsWholeText` — the texts of a value with gaps around them.
* `Json.HasKeptNumbers` — the well-formed texts with numbers that are kept exactly.

## Main results

* `Json.isSome_parse?_iff` — which of these texts are accepted.
* `prettyBody_keeps_value` — how bodies are shown.
-/

namespace RequestRunner

namespace Json

variable {v : Json} {text : String} {gap : List Char}

/-- The text is one of the value, with gaps around it. -/
def IsWholeText (v : Json) (text : String) : Prop :=
  ∃ gap cs gap', Gap gap ∧ Gap gap' ∧ v.IsText cs ∧ text.toList = gap ++ (cs ++ gap')

/-- The text is well formed, however deep, with gaps around it, and all of its numbers are whole
ones that are kept exactly. -/
def HasKeptNumbers (text : List Char) : Prop :=
  ∃ depth gap mid gap', Gap gap ∧ Gap gap' ∧ Formed PairedString KeptNumber depth .value mid ∧
    text = gap ++ (mid ++ gap')

/-- A well-formed text with numbers that are kept exactly is a text of some value. -/
lemma HasKeptNumbers.exists_isWholeText (h : HasKeptNumbers text.toList) :
    ∃ v : Json, v.IsWholeText text := by
  obtain ⟨depth, gap, mid, gap', hgap, hgap', hmid, htext⟩ := h
  obtain ⟨v, hv, -⟩ := hmid.stands
  exact ⟨v, gap, mid, gap', hgap, hgap', hv, htext⟩

/-- A gap can stand behind a value. -/
lemma Gap.delimited (h : Gap gap) : Delimited gap := fun c hc =>
  .inl (h c (List.mem_of_mem_head? hc))

/-- A gap has no token in it. -/
lemma Gap.skipGap_eq (h : Gap gap) : skipGap gap = [] := by
  have hskip := skipGap_append h []
  rwa [List.append_nil] at hskip

/-- A text of a value that is not too deep is accepted as the value with its members in order. -/
lemma parse?_of_isWholeText (h : v.Kept depthLimit) (htext : v.IsWholeText text) :
    parse? text = some (v.arranged Sorted.ofList) := by
  obtain ⟨gap, cs, gap', hgap, hgap', hcs, htext⟩ := htext
  have hreads : Reads (readValue depthLimit) v (v.arranged Sorted.ofList) := reads_readArranged h
  have hread := hreads gap cs gap' hgap hcs hgap'.delimited
  simp only [parse?, readAll, htext, hread, hgap'.skipGap_eq, bind, Except.bind]
  rfl

/-- **A text of a value is accepted** if and only if the value is not too deep. What is too deep is
refused at each of its texts (`refuses_readArranged`). -/
theorem isSome_parse?_iff (htext : v.IsWholeText text) :
    (parse? text).isSome ↔ v.Kept depthLimit := by
  refine ⟨fun h => ?_, fun h => by rw [parse?_of_isWholeText h htext, Option.isSome_some]⟩
  by_contra hdeep
  obtain ⟨gap, cs, gap', hgap, hgap', hcs, htext⟩ := htext
  have hrefuses : Refuses (readValue depthLimit) v := refuses_readArranged hdeep
  obtain ⟨fault, hfault⟩ := hrefuses gap cs gap' hgap hcs hgap'.delimited
  simp only [parse?, readAll, htext, hfault, bind, Except.bind] at h
  cases h

/-- What is printed of a value is a text of it. -/
lemma isWholeText_pretty {depth : Nat} (h : v.Kept depth) : v.IsWholeText v.pretty :=
  ⟨[], v.pretty.toList, [], gap_nil, gap_nil, isText_pretty h, by simp⟩

end Json

variable {v w : Json} {body body' : String}

/-- A body that is accepted is shown as its value is printed. -/
lemma prettyBody_of_parse? (h : Json.parse? body = some v) : prettyBody body = v.pretty := by
  rw [prettyBody, h]

/-- **What is shown of a body is accepted as the same value.**

**Proof sketch.** What is shown is a text of the value with its members in order, which is no
deeper. To put members in order again changes nothing, as a value is the same as with its members in
order. -/
lemma parse?_prettyBody (hv : v.Kept Json.depthLimit) (htext : v.IsWholeText body) :
    Json.parse? (prettyBody body) = Json.parse? body := by
  have hparse := Json.parse?_of_isWholeText hv htext
  have hkept := Json.kept_arranged hv
  rw [hparse, prettyBody_of_parse? hparse,
    Json.parse?_of_isWholeText hkept (Json.isWholeText_pretty hkept),
    ← (Json.same_arranged v).arranged_eq]

/-- **Bodies are shown alike** if and only if their values are the same. What is shown determines
the value with its members in order, and is determined by it. -/
lemma prettyBody_eq_iff (hv : v.Kept Json.depthLimit) (htext : v.IsWholeText body)
    (hw : w.Kept Json.depthLimit) (htext' : w.IsWholeText body') :
    prettyBody body' = prettyBody body ↔ Json.Same v w := by
  rw [Json.same_iff_arranged_eq]
  have hparse := Json.parse?_of_isWholeText hv htext
  have hparse' := Json.parse?_of_isWholeText hw htext'
  constructor
  · intro h
    have hvalues := congrArg Json.parse? h
    rw [parse?_prettyBody hv htext, parse?_prettyBody hw htext', hparse, hparse'] at hvalues
    exact (Option.some.inj hvalues).symm
  · intro h
    rw [prettyBody_of_parse? hparse, prettyBody_of_parse? hparse', h]

/-- **How bodies are shown.** A body that is no well-formed value, with its surrogates in pairs and
not too deep, is not accepted, and one that is not accepted is shown as it is. A well-formed body
with numbers that are kept exactly is a text of a value, and it is accepted if that is not too deep.
Then what is shown is accepted as the same value, is a text of a value that is the same, and is
shown like itself. Another such body is shown alike if and only if its value is the same, so also if
that differs in the order of members with different names.

**Proof sketch.** A body that is accepted is well formed (`Json.wellFormed_of_parse?`), and a text
of a value is accepted if that is not too deep (`Json.isSome_parse?_iff`). What is shown is accepted
as the same value (`parse?_prettyBody`), so to show it again shows it as it is; and two bodies are
shown alike if their values are the same (`prettyBody_eq_iff`). -/
theorem prettyBody_keeps_value (body : String) :
    (¬ Json.WellFormed body.toList → Json.parse? body = none) ∧
    (Json.parse? body = none → prettyBody body = body) ∧
    (Json.HasKeptNumbers body.toList → ∃ v : Json, v.IsWholeText body) ∧
    ∀ v : Json, v.IsWholeText body →
      ((Json.parse? body).isSome ↔ v.Kept Json.depthLimit) ∧
      ((Json.parse? body).isSome →
        Json.parse? (prettyBody body) = Json.parse? body ∧
        (∃ w, Json.Same v w ∧ w.IsWholeText (prettyBody body)) ∧
        prettyBody (prettyBody body) = prettyBody body ∧
        ∀ (v' : Json) (body' : String), v'.IsWholeText body' → (Json.parse? body').isSome →
          (prettyBody body' = prettyBody body ↔ Json.Same v v') ∧
          (Json.Reordered v v' → prettyBody body' = prettyBody body)) := by
  refine ⟨fun h => ?_, fun h => ?_, Json.HasKeptNumbers.exists_isWholeText,
    fun v htext => ⟨Json.isSome_parse?_iff htext, fun haccepted => ?_⟩⟩
  · rw [Option.eq_none_iff_forall_ne_some]
    exact fun v hv => h (Json.wellFormed_of_parse? hv)
  · rw [prettyBody, h]
  have hv := (Json.isSome_parse?_iff htext).1 haccepted
  have hparse := Json.parse?_of_isWholeText hv htext
  have hparse' := parse?_prettyBody hv htext
  refine ⟨hparse', ⟨_, Json.same_arranged v, ?_⟩, ?_, fun v' body' htext' haccepted' => ?_⟩
  · rw [prettyBody_of_parse? hparse]
    exact Json.isWholeText_pretty (Json.kept_arranged hv)
  · rw [prettyBody_of_parse? (hparse'.trans hparse), prettyBody_of_parse? hparse]
  · have hv' := (Json.isSome_parse?_iff htext').1 haccepted'
    have hiff := prettyBody_eq_iff hv htext hv' htext'
    exact ⟨hiff, fun h => hiff.2 h.same⟩

/-- Two members the other way round, with a gap and an escape: the bodies are shown alike. -/
theorem prettyBody_keeps_value_of_two_members :
    let body := "\x7b\"b\":1,\"a\":[]\x7d"
    let body' := "\x7b\"\\u0061\": [],\"b\":1\x7d\n"
    prettyBody body' = prettyBody body ∧ prettyBody (prettyBody body) = prettyBody body ∧
      Json.parse? (prettyBody body) = Json.parse? body := by
  intro body body'
  have hlead : Json.Lead true [] := Json.gap_nil
  have hone : Json.IsText (.integer 1) ['1'] := .integer (by decide) (by decide)
  have hempty : Json.IsText (.array []) ['[', ']'] := .array (.close Json.gap_nil)
  have hb := Json.stringText_escape "b".toList
  have ha := Json.stringText_escape "a".toList
  have hescaped : Json.StringText "a".toList ('\\' :: ('u' :: ['0', '0', '6', '1'] ++ [])) := by
    have hletter : "a".toList = ['a'] := by decide
    rw [hletter]
    exact .escape (.unit (@Json.UnitText.digits '0' '0' '6' '1' 0 0 6 1 rfl rfl rfl rfl)) .nil
  have hmembers := Json.MembersText.member hlead hb Json.gap_nil Json.gap_nil hone
    (.member (Json.lead_comma Json.gap_nil) ha Json.gap_nil Json.gap_nil hempty
      (.close Json.gap_nil))
  have hmembers' := Json.MembersText.member hlead hescaped Json.gap_nil Json.gap_space hempty
    (.member (Json.lead_comma Json.gap_nil) hb Json.gap_nil Json.gap_nil hone
      (.close Json.gap_nil))
  have htext : Json.IsWholeText (.object [("b", .integer 1), ("a", .array [])]) body :=
    ⟨[], _, [], Json.gap_nil, Json.gap_nil, .object hmembers, by decide⟩
  have htext' : Json.IsWholeText (.object [("a", .array []), ("b", .integer 1)]) body' :=
    ⟨[], _, ['\n'], Json.gap_nil, Json.gap_newLine 0, .object hmembers', by decide⟩
  have hswap : Json.Reordered (.object [("b", .integer 1), ("a", .array [])])
      (.object [("a", .array []), ("b", .integer 1)]) := by
    have hne : ("b", Json.integer 1).1 ≠ ("a", Json.array []).1 := by decide
    exact @Json.Reordered.swap [] [] _ _ hne
  obtain ⟨-, -, -, hkeeps⟩ := prettyBody_keeps_value body
  obtain ⟨-, -, -, hkeeps'⟩ := prettyBody_keeps_value body'
  obtain ⟨haccepted, hshown⟩ := hkeeps _ htext
  obtain ⟨hsame, -, hagain, halike⟩ := hshown (haccepted.2 (by simp [Json.depthLimit, Json.Kept]))
  have haccepted' := (hkeeps' _ htext').1.2 (by simp [Json.depthLimit, Json.Kept])
  exact ⟨(halike _ body' htext' haccepted').2 hswap, hagain, hsame⟩

end RequestRunner
