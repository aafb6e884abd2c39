import RequestRunner.Proofs.Execution.ResultTexts
import RequestRunner.Proofs.Json.CompactLine
import RequestRunner.Proofs.Program.BatchReports

/-!
# The lines of reports

A run of all requests can print each report as one line of JSON. Whoever splits the output into
lines has a line for each block, from which the report is recovered: its number, its block with the
headers in order, and its result.

## Main definitions

* `Json.member?`, `Json.text?`, `Json.natural?` — parts of a value.
* `Headers.ofJson?`, `Block.ofJson?`, `Report.ofJson?` — what a value was written for.
* `Report.ofLine?` — the report of a line.
* `Block.InWords` — the line numbers of a block are machine words.

## Main results

* `Report.ofJson?_toJson`, `Report.ofLine?_toJson` — a report is recovered.
* `Report.json_lines` — the lines of a run.
-/

namespace RequestRunner

/-! ### Parts of a value -/

namespace Json

/-- The value of the first member with the name. -/
def member? (v : Json) (name : String) : Option Json :=
  match v with
  | .object members => (members.find? (·.1 == name)).map (·.2)
  | _ => none

/-- The text that a value is. -/
def text? : Json → Option String
  | .string s => some s
  | _ => none

/-- The natural number that a value is. -/
def natural? : Json → Option Nat
  | .integer (.ofNat n) => some n
  | _ => none

end Json

/-- The headers that a value was written for, in the order of its members. -/
def Headers.ofJson? (v : Json) : Option Headers :=
  match v with
  | .object members => Headers.mk <$> members.mapM fun m => Header.mk m.1 <$> m.2.text?
  | _ => none

/-- The block that a value was written for. -/
def Block.ofJson? (v : Json) : Option Block := do
  let verb ← (v.member? "method").bind Json.text?
  let method ← Method.ofVerb? verb
  let url ← (v.member? "url").bind Json.text?
  let headers ← (v.member? "headers").bind Headers.ofJson?
  let body ← (v.member? "body").bind Json.text?
  let startLine ← (v.member? "startLine").bind Json.natural?
  let endLine ← (v.member? "endLine").bind Json.natural?
  let methodLine ← (v.member? "methodLine").bind Json.natural?
  return ⟨method, url, headers, body, startLine, endLine, methodLine⟩

namespace Report

/-- The report that a value was written for. -/
def ofJson? (v : Json) : Option Report := do
  let id ← (v.member? "id").bind Json.natural?
  let block ← (v.member? "block").bind Block.ofJson?
  let written ← v.member? "result"
  let result ← (ExecutionResult.ofText written.compact).toOption
  return ⟨.ofNat id, block, result⟩

/-- The report that a line was written for. -/
def ofLine? (line : String) : Option Report := (Json.parseInOrder? line).bind ofJson?

/-- The members of the headers of the block of a line. -/
def headersOfLine? (line : String) : Option Json := do
  let v ← Json.parseInOrder? line
  let block ← v.member? "block"
  block.member? "headers"

end Report

/-- The line numbers of the block are machine words. -/
def Block.InWords (b : Block) : Prop :=
  b.startLine < UInt64.size ∧ b.methodLine < UInt64.size ∧ b.endLine < UInt64.size

variable {b : Block} {r : Report} {completed completed' : Instant} {document : String}

/-! ### What is written is recovered -/

/-- Headers are recovered from their object, in order, with names that stand twice. -/
lemma Headers.ofJson?_headersToJson (headers : Headers) :
    ofJson? (Block.headersToJson headers) = some headers := by
  have hentries : ∀ entries : List Header,
      (entries.map fun h => (h.name, Json.string h.value)).mapM
        (fun m => Header.mk m.1 <$> m.2.text?) = some entries := by
    intro entries
    induction entries with
    | nil => rfl
    | cons h entries ih =>
      rw [List.map_cons, List.mapM_cons, ih]
      rfl
  rw [Block.headersToJson, ofJson?, hentries]
  rfl

/-- **A block is recovered** from its object. -/
theorem Block.ofJson?_toJson (b : Block) : ofJson? b.toJson = some b := by
  have hverb : Method.ofVerb? b.method.name = some b.method := b.method.name_spec.2.2
  simp [ofJson?, toJson, Json.member?, Json.text?, Json.natural?, hverb,
    Headers.ofJson?_headersToJson]

/-- **A report is recovered** from its object, whenever it was written. Its result is written as a
value and recovered from the compact text of it. -/
theorem Report.ofJson?_toJson (completed : Instant) (r : Report) :
    ofJson? (r.toJson completed) = some r := by
  have hresult : ExecutionResult.ofText r.result.toJson.compact = .ok r.result :=
    ExecutionResult.ofText_of_isText (Json.isText_compact (r.result.kept_toJson 0))
  simp [ofJson?, toJson, Json.member?, Json.natural?, Block.ofJson?_toJson, hresult,
    Except.toOption]

/-! ### What a line holds -/

/-- Headers are an object with strings in it. -/
lemma kept_headersToJson (headers : Headers) (depth : Nat) :
    (Block.headersToJson headers).Kept (depth + 1) := by
  intro m hm
  obtain ⟨h, -, rfl⟩ := List.mem_map.1 hm
  exact Json.Kept.of_zero trivial

/-- A block is an object with strings, whole numbers and the headers in it.

**Proof sketch.** One case for each member. Only the headers are an object themselves, and they have
strings in them. -/
lemma Block.kept_toJson (h : b.InWords) (depth : Nat) : b.toJson.Kept (depth + 2) := by
  have hword : ∀ n : Nat, n < UInt64.size → (Json.integer n).Kept (depth + 1) := by
    intro n hn
    have hrange : (-2 ^ 63 : Int) ≤ n ∧ (n : Int) < 2 ^ 64 := by
      rw [UInt64.size] at hn
      omega
    exact hrange
  obtain ⟨hstart, hmethod, hend⟩ := h
  intro m hm
  simp only [List.mem_cons, List.not_mem_nil, or_false] at hm
  rcases hm with rfl | rfl | rfl | rfl | rfl | rfl | rfl
  · exact trivial
  · exact trivial
  · exact kept_headersToJson b.headers depth
  · exact trivial
  · exact hword _ hstart
  · exact hword _ hend
  · exact hword _ hmethod

namespace Report

/-- A report is an object with a whole number, a string, the block and the result in it. -/
lemma kept_toJson (completed : Instant) (h : r.block.InWords) (depth : Nat) :
    (r.toJson completed).Kept (depth + 3) := by
  have hid : (-2 ^ 63 : Int) ≤ r.id.toNat ∧ (r.id.toNat : Int) < 2 ^ 64 := by
    have hlt := r.id.toNat_lt
    omega
  intro m hm
  simp only [List.mem_cons, List.not_mem_nil, or_false] at hm
  rcases hm with rfl | rfl | rfl | rfl
  · exact hid
  · exact r.block.kept_toJson h depth
  · exact r.result.kept_toJson depth
  · exact trivial

/-- The object of a report is the value of its line, with all members in order. -/
lemma parseInOrder?_compact (completed : Instant) (h : r.block.InWords) :
    Json.parseInOrder? (r.toJson completed).compact = some (r.toJson completed) := by
  have hkept : (r.toJson completed).Kept Json.depthLimit := kept_toJson completed h 124
  exact Json.parseInOrder?_of_isText hkept (Json.isText_compact hkept)

/-- **A report is recovered from its line.** -/
theorem ofLine?_toJson (completed : Instant) (h : r.block.InWords) :
    ofLine? (r.toJson completed).compact = some r := by
  rw [ofLine?, parseInOrder?_compact completed h, Option.bind_some, ofJson?_toJson]

/-- The members of the headers are found in the line of a report. -/
lemma headersOfLine?_toJson (completed : Instant) (h : r.block.InWords) :
    headersOfLine? (r.toJson completed).compact =
      some (Block.headersToJson r.block.headers) := by
  rw [headersOfLine?, parseInOrder?_compact completed h]
  simp [toJson, Block.toJson, Json.member?]

/-- A line of a report holds no end of a line. -/
lemma not_mem_compact (completed : Instant) (r : Report) :
    '\n' ∉ (r.toJson completed).compact.toList ∧ '\r' ∉ (r.toJson completed).compact.toList := by
  rw [Json.compact, String.toList_ofList]
  exact (Json.inline_compactChars (r.toJson completed)).not_mem

end Report

/-! ### Blocks of a document -/

/-- The line numbers of a block are below the number of characters of its document. -/
lemma inWords_of_mem_blocks (hb : b ∈ blocks document) (hsize : document.length ≤ UInt64.size) :
    b.InWords := by
  have hfits := fits_of_mem_blocks hb
  obtain ⟨hle, -, hfilled, -⟩ := hfits.endLine_spec
  have hend : b.endLine < (Text.lines document).length :=
    lines_length_eq document ▸ lt_length_of_lineIs hfilled
  have hstart := hfits.startLine_le
  have hlines := Text.length_lines_le document
  exact ⟨by omega, by omega, by omega⟩

/-- No name stands twice among the headers of a block. -/
lemma nodup_names_of_mem_blocks (hb : b ∈ blocks document) :
    b.headers.names.Nodup := by
  rw [(fits_of_mem_blocks hb).headers_eq, Block.headersIn, Headers.ofKinds_eq_ofPairs]
  exact Headers.nodup_names_ofPairs _

/-! ### The lines of a run -/

variable {reply : UInt64 → Reply} {showHeaders : Bool} {sent : List OutgoingRequest}
  {reports : List (Instant × Report)} {ending : Ending}

/-- A run that prints JSON prints the compact text of each report, with a line end behind it. -/
lemma Batch.Ends.stdout_eq_join (h : Ends reply document true showHeaders sent reports ending)
    (hbs : blocks document ≠ []) : ending.output.stdout =
      String.join ((reports.map fun r => (r.2.toJson r.1).compact).map (· ++ "\n")) := by
  rw [h.stdout_eq hbs, List.map_map]
  rfl

/-- The lines of the output of a run are those of its reports: no line of a report holds the end of
one. -/
lemma Batch.Ends.lines_stdout (h : Ends reply document true showHeaders sent reports ending)
    (hbs : blocks document ≠ []) :
    Text.lines ending.output.stdout = reports.map fun r => (r.2.toJson r.1).compact := by
  have hline : ∀ l ∈ reports.map fun r => (r.2.toJson r.1).compact,
      '\n' ∉ l.toList ∧ '\r' ∉ l.toList := by
    intro l hl
    obtain ⟨r, -, rfl⟩ := List.mem_map.1 hl
    exact Report.not_mem_compact r.1 r.2
  rw [h.stdout_eq_join hbs]
  refine Text.lines_join_lf (fun l hl => (hline l hl).1) fun l hl hlast => ?_
  exact (hline l hl).2 (List.mem_of_getLast? hlast)

/-- A run has a report for each block. -/
lemma Batch.Ends.length_reports (h : Ends reply document true showHeaders sent reports ending) :
    reports.length = (blocks document).length := by
  have hlength := h.reports_perm.length_eq
  rwa [List.length_map, List.length_map, blockJobs, List.length_mapIdx] at hlength

/-- **The lines of a run.** The line of a report holds no end of a line, whatever its block and its
result contain, and the report is recovered from it, so that different reports have different lines.
A run of all requests of a document with blocks prints a line for each block, in the order in which
the reports came. From each line the report is recovered, and the object with the headers of its
block has no name twice. The document has at most as many characters as there are machine words,
which its line numbers are then.

**Proof sketch.** No compact text has a control character (`Json.inline_compactChars`), so splitting
the output gives the texts back. A text is read as the value that it was written for with the
members in their order (`Json.parseInOrder?_of_isText`), and the parts of that value are those of
the report (`ofJson?_toJson`). -/
theorem Report.json_lines :
    (∀ completed r, '\n' ∉ (toJson completed r).compact.toList ∧
      '\r' ∉ (toJson completed r).compact.toList) ∧
    (∀ completed r, r.block.InWords → ofLine? (toJson completed r).compact = some r) ∧
    (∀ completed completed' r r', r.block.InWords → r'.block.InWords → r ≠ r' →
      (toJson completed r).compact ≠ (toJson completed' r').compact) ∧
    ∀ document reply showHeaders sent reports ending,
      Batch.Ends reply document true showHeaders sent reports ending → blocks document ≠ [] →
      Text.lines ending.output.stdout = reports.map (fun r => (toJson r.1 r.2).compact) ∧
      ending.output.stdout = String.join ((Text.lines ending.output.stdout).map (· ++ "\n")) ∧
      (Text.lines ending.output.stdout).length = (blocks document).length ∧
      (document.length ≤ UInt64.size →
        (Text.lines ending.output.stdout).map ofLine? = reports.map (fun r => some r.2) ∧
        ∀ line ∈ Text.lines ending.output.stdout, ∃ members,
          headersOfLine? line = some (.object members) ∧ (members.map Prod.fst).Nodup) := by
  refine ⟨not_mem_compact, fun completed r h => ofLine?_toJson completed h, ?_, ?_⟩
  · intro completed completed' r r' h h' hne heq
    have hr := ofLine?_toJson completed h
    rw [heq, ofLine?_toJson completed' h'] at hr
    exact hne (Option.some.inj hr).symm
  · intro document reply showHeaders sent reports ending hends hbs
    have hlines := hends.lines_stdout hbs
    refine ⟨hlines, ?_, ?_, fun hsize => ?_⟩
    · rw [hlines]
      exact hends.stdout_eq_join hbs
    · rw [hlines, List.length_map, hends.length_reports]
    · have hwords : ∀ r ∈ reports, r.2.block.InWords := fun r hr =>
        inWords_of_mem_blocks (hends.block_mem r hr) hsize
      rw [hlines]
      refine ⟨?_, fun line hline => ?_⟩
      · rw [List.map_map]
        refine List.map_congr_left fun r hr => ?_
        rw [Function.comp_apply, ofLine?_toJson r.1 (hwords r hr)]
      · obtain ⟨r, hr, rfl⟩ := List.mem_map.1 hline
        refine ⟨_, headersOfLine?_toJson r.1 (hwords r hr), ?_⟩
        have hnames := nodup_names_of_mem_blocks (hends.block_mem r hr)
        rwa [List.map_map]

/-- A body and a response of several lines are printed on one line and recovered from it. -/
theorem Report.json_lines_of_long_texts :
    let document := "POST /a\nX: \"1\"\n\none\n\ntwo\n"
    let b : Block := ⟨.post, "/a", ⟨[⟨"X", "\"1\""⟩]⟩, "one\n\ntwo", 0, 5, 0⟩
    let reply : Reply := ⟨.ok ⟨200, ∅, "three\r\nfour"⟩, 7⟩
    ∃ sent reports ending,
      Batch.Ends (fun _ => reply) document true false sent reports ending ∧
      (Text.lines ending.output.stdout).map ofLine? = [some ⟨0, b, .ofReply reply⟩] := by
  intro document b reply
  have hbs : blocks document = [b] := by decide +kernel
  have hran : ∃ reports, Batch.Ends (fun _ => reply) document true false
      (ranAll (fun _ => reply) (fun _ => ⟨0, 0⟩) document true false).2 reports
      (ranAll (fun _ => reply) (fun _ => ⟨0, 0⟩) document true false).1 :=
    ends_ranAll (fun _ _ _ => rfl) fun _ => ⟨0, 0⟩
  obtain ⟨reports, hends⟩ := hran
  have hreports : reports.map Prod.snd = [⟨0, b, .ofReply reply⟩] := by
    have hperm := hends.reports_perm
    rw [hbs] at hperm
    exact List.perm_singleton.1 hperm
  refine ⟨_, reports, _, hends, ?_⟩
  have hne : blocks document ≠ [] := by simp [hbs]
  have hsize : document.length ≤ UInt64.size := by decide +kernel
  have hlines := ((json_lines.2.2.2 document _ false _ reports _ hends hne).2.2.2 hsize).1
  rw [hlines]
  calc reports.map (fun r => some r.2) = (reports.map Prod.snd).map some := by
        rw [List.map_map]
        rfl
    _ = [some ⟨0, b, .ofReply reply⟩] := by rw [hreports]; rfl

end RequestRunner
