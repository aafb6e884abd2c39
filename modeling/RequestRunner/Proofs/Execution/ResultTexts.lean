import RequestRunner.Execution.Result
import RequestRunner.Proofs.Json.Reading

/-!
# Results and their texts

A result is written as an object whose members the reader takes one after the other, each once, so
that it has the whole result at the closing brace. This holds for each text of the object and hence
for the compact and the pretty one.

## Main definitions

* `ExecutionResult.Partial.ofResult` — all members of a result read.

## Main results

* `ExecutionResult.reads_read` — a result is read from each text of its object.
* `ExecutionResult.texts_round_trip` — both texts of a result are read as it.
-/

namespace RequestRunner

namespace ExecutionResult

open Json

variable {r : ExecutionResult}

/-! ### What a result is written as -/

/-- Fields are an object with strings in it. -/
lemma kept_fieldsToJson (headers : FieldMap) (depth : Nat) :
    (fieldsToJson headers).Kept (depth + 1) := by
  intro m hm
  obtain ⟨e, -, rfl⟩ := List.mem_map.1 hm
  exact Kept.of_zero trivial

/-- A result is an object with strings, whole numbers and the fields in it. The numbers are machine
words, which JSON numbers keep as they are.

**Proof sketch.** One case for each member. Only the fields are an object themselves, and they have
strings in them. -/
lemma kept_toJson (r : ExecutionResult) (depth : Nat) : r.toJson.Kept (depth + 2) := by
  have hstatus : (-2 ^ 63 : Int) ≤ r.status.toNat ∧ (r.status.toNat : Int) < 2 ^ 64 := by
    have hlt := r.status.toNat_lt
    omega
  have hduration : (-2 ^ 63 : Int) ≤ r.durationMillis.toNat ∧
      (r.durationMillis.toNat : Int) < 2 ^ 64 := by
    have hlt := r.durationMillis.toNat_lt
    omega
  intro m hm
  rcases List.mem_append.1 hm with hm | hm
  · simp only [List.mem_cons, List.not_mem_nil, or_false] at hm
    rcases hm with rfl | rfl | rfl | rfl
    · exact hstatus
    · exact kept_fieldsToJson r.headers depth
    · exact trivial
    · exact hduration
  · cases herror : r.error with
    | none =>
      rw [herror] at hm
      exact absurd hm List.not_mem_nil
    | some e =>
      rw [herror] at hm
      rw [List.mem_singleton.1 hm]
      exact trivial

/-! ### Reading it -/

/-- All members of a result read. -/
def Partial.ofResult (r : ExecutionResult) : Partial :=
  ⟨some r.status.toNat, some r.headers, some r.body, some r.durationMillis.toNat,
    r.error.map some⟩

/-- A member that was not read before goes to its place. Each member of a result is a case of this:
a name, a reader for the value, and where the value is put. -/
lemma readsMember_readMember {α : Type} {value : Reader α} {v : Json} {a : α} {p : Partial}
    {name : String} (put : α → Partial)
    (hmember : ∀ cs, readMember p name cs = (do
      let (a, rest) ← readField name none value cs
      .ok (put a, rest)))
    (h : Reads value v a) : ReadsMember (readMember p name) v (put a) := by
  have hsame : readMember p name = _ := funext hmember
  rw [hsame]
  exact (readsMember_readField h name).map put

/-- The members of a result are read one after the other.

**Proof sketch.** Each member finds its own place empty, the ones before it being full. -/
lemma foldReads_readMember (r : ExecutionResult) :
    FoldReads readMember .empty
      ([("status", .integer r.status.toNat), ("headers", fieldsToJson r.headers),
        ("body", .string r.body), ("duration", .integer r.durationMillis.toNat)] ++
      (r.error.map fun e => ("error", Json.string e)).toList) (.ofResult r) := by
  have hstatus : ReadsMember (readMember .empty "status") (.integer r.status.toNat)
      ⟨some r.status.toNat, none, none, none, none⟩ :=
    readsMember_readMember (fun n => ⟨some n, none, none, none, none⟩)
      (fun cs => by simp [readMember, Partial.empty]) (reads_readUnsigned r.status.toNat_lt)
  have hheaders : ReadsMember (readMember ⟨some r.status.toNat, none, none, none, none⟩ "headers")
      (fieldsToJson r.headers) ⟨some r.status.toNat, some r.headers, none, none, none⟩ :=
    readsMember_readMember (fun m => ⟨some r.status.toNat, some m, none, none, none⟩)
      (fun cs => by simp [readMember]) (reads_readStringMap r.headers)
  have hbody : ReadsMember
      (readMember ⟨some r.status.toNat, some r.headers, none, none, none⟩ "body") (.string r.body)
      ⟨some r.status.toNat, some r.headers, some r.body, none, none⟩ :=
    readsMember_readMember (fun s => ⟨some r.status.toNat, some r.headers, some s, none, none⟩)
      (fun cs => by simp [readMember]) (reads_readString r.body)
  have hduration : ReadsMember
      (readMember ⟨some r.status.toNat, some r.headers, some r.body, none, none⟩ "duration")
      (.integer r.durationMillis.toNat)
      ⟨some r.status.toNat, some r.headers, some r.body, some r.durationMillis.toNat, none⟩ :=
    readsMember_readMember
      (fun n => ⟨some r.status.toNat, some r.headers, some r.body, some n, none⟩)
      (fun cs => by simp [readMember]) (reads_readUnsigned r.durationMillis.toNat_lt)
  have herror : ∀ e, ReadsMember
      (readMember ⟨some r.status.toNat, some r.headers, some r.body,
        some r.durationMillis.toNat, none⟩ "error") (.string e)
      ⟨some r.status.toNat, some r.headers, some r.body, some r.durationMillis.toNat,
        some (some e)⟩ := fun e =>
    readsMember_readMember
      (fun e => ⟨some r.status.toNat, some r.headers, some r.body, some r.durationMillis.toNat,
        some e⟩) (fun cs => by simp [readMember]) (reads_readOptionalString e)
  refine .cons hstatus (.cons hheaders (.cons hbody (.cons hduration ?_)))
  cases hr : r.error with
  | none =>
    have hdone : Partial.ofResult r = ⟨some r.status.toNat, some r.headers, some r.body,
        some r.durationMillis.toNat, none⟩ := by rw [Partial.ofResult, hr]; rfl
    rw [hdone]
    exact .nil
  | some e =>
    have hdone : Partial.ofResult r = ⟨some r.status.toNat, some r.headers, some r.body,
        some r.durationMillis.toNat, some (some e)⟩ := by rw [Partial.ofResult, hr]; rfl
    rw [hdone]
    exact .cons (herror e) .nil

/-- **A result is read from each text of its object.** The members that have to be there are, and
without a member for the error there is none. -/
theorem reads_read (r : ExecutionResult) : Reads read r.toJson r := by
  intro gap cs rest hgap htext _
  cases htext with
  | @object _ cs htext =>
    have hmembers := foldReads_readMember r
    have hread := foldMembers_append hmembers htext (htext.length_lt_fuel rest) rest
    have hskip := skipGap_append_cons (c := '{') hgap rfl (cs ++ rest)
    have herror : (r.error.map some).getD none = r.error := by cases r.error <;> rfl
    rw [List.cons_append, read, hskip]
    show readObject (cs ++ rest) = .ok (r, rest)
    simp only [readObject, hread, Partial.ofResult, require, closeObject_cons, bind, Except.bind,
      UInt16.ofNat_toNat, UInt64.ofNat_toNat, herror]

/-! ### Whole texts -/

/-- A text of the object of a result is read as the result, whatever blanks stand between its parts.
-/
lemma ofText_of_isText {text : String} (h : r.toJson.IsText text.toList) : ofText text = .ok r :=
  readAll_of_isText (reads_read r) h

/-- A text of the object of a result has a member for the error if there is one. -/
lemma error_of_isText {text : String} (h : r.toJson.IsText text.toList) :
    ∃ members, parse? text = some (.object members) ∧
      ("error" ∈ members.map Prod.fst ↔ r.error.isSome) := by
  have hparse := parse?_of_isText (kept_toJson r 125) h
  refine ⟨_, hparse, ?_⟩
  rw [Sorted.mem_names_ofList, names_arrangedMembers]
  cases r.error <;> simp

/-- **Both texts of a result are read as it**, and have a member for the error if there is one. So
whatever text a result was read from, the texts that are written of it are read as it again.

**Proof sketch.** Each text is one of the object of the result, in which numbers, strings and fields
are kept (`kept_toJson`). What is read from such a text is the result (`ofText_of_isText`), and its
members are those of the object (`error_of_isText`). -/
theorem texts_round_trip :
    (∀ r : ExecutionResult, ∀ text ∈ [r.toJson.compact, r.toJson.pretty],
      ofText text = .ok r ∧
        ∃ members, parse? text = some (.object members) ∧
          ("error" ∈ members.map Prod.fst ↔ r.error.isSome)) ∧
      ∀ text r, ofText text = .ok r →
        ofText r.toJson.compact = .ok r ∧ ofText r.toJson.pretty = .ok r := by
  refine ⟨fun r text htext => ?_, fun text r _ => ⟨?_, ?_⟩⟩
  · have hisText : r.toJson.IsText text.toList := by
      simp only [List.mem_cons, List.not_mem_nil, or_false] at htext
      rcases htext with rfl | rfl
      · exact isText_compact (kept_toJson r 0)
      · exact isText_pretty (kept_toJson r 0)
    exact ⟨ofText_of_isText hisText, error_of_isText hisText⟩
  · exact ofText_of_isText (isText_compact (kept_toJson r 0))
  · exact ofText_of_isText (isText_pretty (kept_toJson r 0))

/-- A result that was read from an array of its values, with an empty error, is written as an object
and read from that again. -/
theorem texts_round_trip_of_array :
    let r : ExecutionResult := ⟨204, .ofList [("b", "\n")], "", 7, some ""⟩
    ofText "[204,\x7b\"b\":\"\\n\"\x7d,\"\",7,\"\"]" = .ok r ∧
      ofText r.toJson.compact = .ok r ∧ ofText r.toJson.pretty = .ok r := by
  intro r
  have hread : ofText "[204,\x7b\"b\":\"\\n\"\x7d,\"\",7,\"\"]" = .ok r := by rfl
  exact ⟨hread, texts_round_trip.2 _ r hread⟩

end ExecutionResult

end RequestRunner
