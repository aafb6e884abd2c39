import RequestRunner.Proofs.Document.Contents
import RequestRunner.Proofs.Document.HeaderMaps
import RequestRunner.Proofs.Execution.Requests

/-!
# The types of bodies that are sent

Names of headers are told apart exactly, but the wire ignores the case of their letters. So what a
request says of its body is what the header lines of its block say, once for each spelling of
`Content-Type` among them, and if there is none, the one header that is added to bodies.

## Main definitions

* `isContentType`, `OutgoingRequest.contentTypes` — the headers that say what a body is.
* `Block.fields` — the names and values of the header lines of a block.

## Main results

* `filter_collapse` — the pairs of some names, each name once.
* `OutgoingRequest.contentTypes_ofBlock` — what is said of the body of a block.
* `executeBlock_content_types` — how many headers of a request say what its body is.
-/

namespace RequestRunner

/-- Whether a header says what a body is, whatever the case of the letters of its name. -/
def isContentType (header : String × String) : Bool := Text.sameIgnoringCase header.1 contentType

/-- The headers of a request that say what its body is. -/
def OutgoingRequest.contentTypes (request : OutgoingRequest) : List (String × String) :=
  request.headers.filter isContentType

/-- The names and values of the header lines of a block, in the order of the lines: those behind the
method line, up to the first blank line before the end of the block. -/
def Block.fields (document : String) (b : Block) : List (String × String) :=
  let gap := firstLine? (lineKinds document) LineKind.isBlank (b.methodLine + 1) b.endLine
  headerFields ((lineKinds document).extract (b.methodLine + 1) (gap.getD (b.endLine + 1)))

variable {document : String} {b : Block} {pairs : List (String × String)}

/-! ### The pairs of some names -/

/-- To take some names and then leave out repetitions is to do so the other way round.

**Proof sketch.** Induction on the names from the end. A name that is taken is new among those taken
exactly if it is new among all. -/
lemma eraseDups_filter (names : List String) (p : String → Bool) :
    (names.filter p).eraseDups = names.eraseDups.filter p := by
  induction names using List.reverseRecOn with
  | nil => rfl
  | append_singleton names name ih =>
    rw [List.filter_append, eraseDups_concat]
    by_cases hp : p name
    · rw [List.filter_singleton, hp, Bool.cond_true, eraseDups_concat, ih]
      by_cases hmem : name ∈ names
      · rw [if_pos (List.mem_filter.2 ⟨hmem, hp⟩), if_pos hmem]
      · rw [if_neg fun h => hmem (List.mem_filter.1 h).1, if_neg hmem, List.filter_append,
          List.filter_singleton, hp, Bool.cond_true]
    · rw [List.filter_singleton, Bool.eq_false_iff.2 hp, Bool.cond_false, List.append_nil, ih]
      split
      · rfl
      · rw [List.filter_append, List.filter_singleton, Bool.eq_false_iff.2 hp, Bool.cond_false,
          List.append_nil]

/-- The last value of a name is that among the pairs of some names, if the name is one of them. -/
lemma lastValue?_filter {p : String → Bool} {name : String} (hp : p name)
    (pairs : List (String × String)) :
    lastValue? (pairs.filter fun f => p f.1) name = lastValue? pairs name := by
  rw [lastValue?, lastValue?, ← List.filter_reverse, List.find?_filter]
  congr 2
  funext f
  by_cases hf : f.1 = name <;> simp [hf, hp]

/-- **The pairs of some names, each name once**, are those among all pairs with each name once. The
names in order are the same either way (`eraseDups_filter`), and so is the last value of each
(`lastValue?_filter`). -/
theorem filter_collapse (pairs : List (String × String)) (p : String → Bool) :
    (collapse pairs).filter (fun f => p f.1) = collapse (pairs.filter fun f => p f.1) := by
  have hnames : (pairs.filter fun f => p f.1).map Prod.fst = (pairs.map Prod.fst).filter p :=
    List.filter_map.symm
  rw [collapse, collapse, hnames, eraseDups_filter, List.filter_filterMap, List.filterMap_filter]
  refine List.filterMap_congr fun name _ => ?_
  by_cases hp : p name
  · rw [if_pos hp, lastValue?_filter hp]
    cases lastValue? pairs name <;> simp [hp]
  · rw [if_neg hp]
    cases lastValue? pairs name <;> simp [hp]

/-- With each name once there are as many pairs as different names. -/
lemma length_collapse (pairs : List (String × String)) :
    (collapse pairs).length = (pairs.map Prod.fst).toFinset.card := by
  rw [← Headers.toPairs_ofPairs, Headers.toPairs, List.length_map, ← Headers.size_ofPairs]
  rfl

/-- There is one pair at most if and only if all names are the same. -/
lemma length_collapse_le_one_iff :
    (collapse pairs).length ≤ 1 ↔ ∀ f ∈ pairs, ∀ f' ∈ pairs, f.1 = f'.1 := by
  rw [length_collapse, Finset.card_le_one]
  simp only [List.mem_toFinset, List.mem_map, forall_exists_index, and_imp,
    forall_apply_eq_imp_iff₂]

/-- Where there is a pair, one is left. -/
lemma collapse_ne_nil (h : pairs ≠ []) : collapse pairs ≠ [] := by
  obtain ⟨f, rest, rfl⟩ := List.exists_cons_of_ne_nil h
  intro hnil
  have hcard := length_collapse (f :: rest)
  rw [hnil, List.length_nil, eq_comm, Finset.card_eq_zero] at hcard
  simp at hcard

/-! ### What is said of a body -/

/-- The headers of a block of a document are those of its fields. -/
lemma headers_eq_ofPairs_fields (hb : b ∈ blocks document) :
    b.headers = .ofPairs (b.fields document) := by
  have hfits := fits_of_mem_blocks hb
  obtain ⟨-, -, hfilled, -⟩ := hfits.endLine_spec
  rw [hfits.headers_eq, Block.headersIn_eq (lineIs_isFilled_iff.1 hfilled).2]
  rfl

/-- To look for the type of the body, whatever the case of the letters, is to ask whether any header
tells it. -/
lemma getIgnoringCase?_contentType_eq_none_iff {headers : Headers} :
    headers.getIgnoringCase? contentType = none ↔ headers.toPairs.filter isContentType = [] := by
  rw [Headers.getIgnoringCase?_eq_none_iff, List.filter_eq_nil_iff, Headers.toPairs,
    List.forall_mem_map]
  rfl

/-- **What is said of the body of a block** is what its headers say, and if they say nothing and
there is a body, that it is JSON.

**Proof sketch.** By whether the header that a body is JSON is added in front. It is added exactly
if there is a body and no header tells its type; then it is the only one that does. -/
theorem OutgoingRequest.contentTypes_ofBlock (b : Block) :
    (ofBlock b).contentTypes =
      if b.headers.toPairs.filter isContentType = [] ∧ b.body ≠ "" then [jsonContentType]
      else b.headers.toPairs.filter isContentType := by
  have hjson : isContentType jsonContentType = true := by decide
  have hof := isOf_ofBlock b
  by_cases hown : b.headers.toPairs.filter isContentType = []
  · have hnames := Headers.getIgnoringCase?_eq_none_iff.1
      (getIgnoringCase?_contentType_eq_none_iff.2 hown)
    by_cases hbody : b.body = ""
    · rw [if_neg fun h => h.2 hbody, contentTypes, hof.headers_of_own (.inl hbody)]
      rfl
    · rw [if_pos ⟨hown, hbody⟩, contentTypes, hof.headers_of_default hbody hnames]
      exact (List.filter_cons_of_pos hjson).trans (congrArg _ hown)
  · have hfound : ∃ h ∈ b.headers.entries, Text.sameIgnoringCase h.name "Content-Type" := by
      by_contra hnone
      refine hown (getIgnoringCase?_contentType_eq_none_iff.1
        (Headers.getIgnoringCase?_eq_none_iff.2 fun h hh hsame => hnone ⟨h, hh, hsame⟩))
    rw [if_neg fun h => hown h.1, contentTypes, hof.headers_of_own (.inr hfound)]
    rfl

/-- **How many headers say what a body is.** The request that is sent for a block of a document has a
header for each spelling of `Content-Type` among the header lines of the block, with the value that
came last for it, in the order in which the spellings came first. If there is no such line, it has
one if and only if there is a body. So with a body there is at least one; and that there is never
more than one, and exactly one with a body, is to say that all such lines spell the name alike.

**Proof sketch.** The headers of the block are its fields with each name once
(`headers_eq_ofPairs_fields`), and to take those of some names is to do so before repetitions are
left out (`filter_collapse`). -/
theorem executeBlock_content_types {m : Type → Type} [Monad m] [LawfulMonad m]
    (transport : Transport m) {document : String} {b : Block} (hb : b ∈ blocks document) :
    ∃ request : OutgoingRequest,
      (∀ log, (executeBlock transport.logged b).run log =
        (fun reply => (ExecutionResult.ofReply reply, log ++ [(request, reply)])) <$>
          transport request) ∧
      let own := (b.fields document).filter isContentType
      request.contentTypes =
          (if own = [] ∧ b.body ≠ "" then [("Content-Type", "application/json")]
            else collapse own) ∧
        (b.body ≠ "" → request.contentTypes ≠ []) ∧
        ((request.contentTypes.length ≤ 1 ∧ (b.body ≠ "" → request.contentTypes.length = 1)) ↔
          ∀ f ∈ own, ∀ f' ∈ own, f.1 = f'.1) := by
  refine ⟨.ofBlock b, run_dispatch_logged transport (.ofBlock b), ?_⟩
  intro own
  have hown : b.headers.toPairs.filter isContentType = collapse own := by
    rw [headers_eq_ofPairs_fields hb, Headers.toPairs_ofPairs]
    exact filter_collapse _ fun name => Text.sameIgnoringCase name contentType
  have hnil : collapse own = [] ↔ own = [] :=
    ⟨fun h => by_contra fun hne => collapse_ne_nil hne h, fun h => by rw [h]; rfl⟩
  have htypes := OutgoingRequest.contentTypes_ofBlock b
  simp only [hown, hnil] at htypes
  have hsome : b.body ≠ "" → (OutgoingRequest.ofBlock b).contentTypes ≠ [] := by
    intro hbody
    rw [htypes]
    split
    · exact List.cons_ne_nil _ _
    · rename_i hnot
      exact collapse_ne_nil fun h => hnot ⟨h, hbody⟩
  have hone : (OutgoingRequest.ofBlock b).contentTypes.length ≤ 1 ↔
      ∀ f ∈ own, ∀ f' ∈ own, f.1 = f'.1 := by
    rw [htypes]
    split
    · rename_i h
      simp [h.1]
    · exact length_collapse_le_one_iff
  refine ⟨htypes, hsome, ⟨fun h => hone.1 h.1, fun h => ⟨hone.2 h, fun hbody => ?_⟩⟩⟩
  exact Nat.le_antisymm (hone.2 h) (List.length_pos_iff.2 (hsome hbody))

/-- A type that is given twice in one spelling is sent once, with the value that came last. -/
theorem executeBlock_content_types_of_one_spelling :
    let document := "PUT http://h/\ncontent-TYPE: text/csv\nA: 1\ncontent-TYPE: text/plain\n\nx"
    let b : Block := ⟨.put, "http://h/", ⟨[⟨"content-TYPE", "text/plain"⟩, ⟨"A", "1"⟩]⟩, "x", 0, 5, 0⟩
    let reply : Reply := ⟨.error (.failed "no"), 7⟩
    let transport : Transport Id := fun _ => reply
    b ∈ blocks document ∧ ∃ request : OutgoingRequest,
      (executeBlock transport.logged b).run [] = (.failure "no" 7, [(request, reply)]) ∧
      request.contentTypes = [("content-TYPE", "text/plain")] := by
  intro document b reply transport
  have hb : b ∈ blocks document := by decide +kernel
  obtain ⟨request, hrun, htypes, -⟩ := executeBlock_content_types transport hb
  refine ⟨hb, request, hrun [], ?_⟩
  rw [htypes]
  decide +kernel

/-- **Two spellings are sent as two headers.** -/
theorem two_content_types_are_sent :
    let document := "POST http://h/\nContent-Type: text/csv\ncontent-type: text/plain\n\nx"
    ∃ b ∈ blocks document, b.body ≠ "" ∧ ∀ reply, ∃ request : OutgoingRequest,
      ((executeBlock (Transport.recording reply) b).run []).2 = [request] ∧
        request.contentTypes = [("Content-Type", "text/csv"), ("content-type", "text/plain")] ∧
        ¬ request.contentTypes.length ≤ 1 := by
  intro document
  let b : Block := ⟨.post, "http://h/",
    ⟨[⟨"Content-Type", "text/csv"⟩, ⟨"content-type", "text/plain"⟩]⟩, "x", 0, 4, 0⟩
  have hb : b ∈ blocks document := by decide +kernel
  exact ⟨b, hb, by decide, fun reply => ⟨.ofBlock b, rfl, by decide, by decide⟩⟩

end RequestRunner
