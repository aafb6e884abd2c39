import Mathlib.Data.List.Basic
import Mathlib.Data.List.Perm.Basic
import RequestRunner.Http.Fields
import RequestRunner.Proofs.Data.SortedMaps
import RequestRunner.Proofs.Text.Replacement

/-!
# The text of each name

The fields of a message are flattened to one text for each name: the texts of its values with commas
between them, in the order in which they came. Every field goes into the text of its name and into
no other, and how the fields of different names lie among each other makes no difference.

## Main definitions

* `Http.under` — the fields under a name.
* `Http.IsTextOf` — what a value is read as.

## Main results

* `Http.flatten_joins_values` — the names, their texts, and what they do not depend on.
-/

namespace RequestRunner.Http

variable {fields fields' : List Field} {f : Field} {name text : String} {keys : List String}

/-- The fields under a name in lower case, in the order in which they came. -/
def under (fields : List Field) (name : String) : List Field :=
  fields.filter fun f => Text.lower f.name == name

/-- The text is what the value is read as: a replacement character stands in it for each fault, and
the bytes of a value without a fault are those of its text. -/
structure IsTextOf (f : Field) (text : String) : Prop where
  decodes : Text.Decodes f.value text.toList
  of_valid : (∃ cs, Text.encode cs = f.value) → Text.encode text.toList = f.value

/-- The values of a name are its fields' values, each read as a text. -/
lemma valuesOf_eq (fields : List Field) (name : String) :
    valuesOf fields name =
      (under fields name).map fun f => String.ofList (Text.decodeLossy f.value) :=
  rfl

/-- What a value is read as is a text of it. Reading leaves a text alone, so a value without a fault
is read as what it encodes. -/
lemma isTextOf_decodeLossy (f : Field) : IsTextOf f (String.ofList (Text.decodeLossy f.value)) := by
  refine ⟨?_, ?_⟩
  · rw [String.toList_ofList]
    exact Text.decodes_decodeLossy f.value
  · rintro ⟨cs, hcs⟩
    rw [String.toList_ofList, ← hcs, Text.decodeLossy_encode]

/-- The values under a name are the texts of its fields, one for each. -/
lemma forall₂_valuesOf (fields : List Field) (name : String) :
    List.Forall₂ IsTextOf (under fields name) (valuesOf fields name) := by
  rw [valuesOf_eq, List.forall₂_map_right_iff, List.forall₂_same]
  exact fun f _ => isTextOf_decodeLossy f

/-! ### The names -/

/-- The entries of the flattened fields: one is set for each field, and its text depends only on its
name. So it does no harm that the same name is set again and again. -/
lemma flatten_entries (fields : List Field) : (flatten fields).entries =
    Sorted.ofList ((fields.map fun f => Text.lower f.name).map fun name =>
      (name, ", ".intercalate (valuesOf fields name))) := by
  rw [flatten, FieldMap.ofList, List.map_map]
  rfl

/-- The names of the texts are those of the fields in lower case. -/
lemma mem_names_flatten : name ∈ (flatten fields).entries.map Prod.fst ↔
    ∃ f ∈ fields, Text.lower f.name = name := by
  rw [flatten, FieldMap.ofList, Sorted.mem_names_ofList, List.map_map, List.mem_map]
  rfl

/-- The text of a name joins its values.

**Proof sketch.** The names of the entries increase, so an entry is what a search for its name
finds; and what was set for a name goes by the name. -/
lemma text_of_mem_flatten (h : (name, text) ∈ (flatten fields).entries) :
    text = ", ".intercalate (valuesOf fields name) := by
  have hfind := (Sorted.find?_eq_some_iff (flatten fields).increasing name).2 ⟨h, rfl⟩
  rw [flatten_entries, Sorted.find?_ofList_map] at hfind
  split at hfind
  · exact (congrArg Prod.snd (Option.some.inj hfind)).symm
  · cases hfind

/-! ### Where a field goes -/

/-- What is collected by its key, for one key after the other, is what has one of the keys.

**Proof sketch.** By induction on the keys. What has one of the keys is split into what has the
first one and what has not, which is what has one of the others, as no key comes twice. -/
lemma flatMap_filter_perm {α : Type} (key : α → String) (xs : List α) (h : keys.Nodup) :
    (keys.flatMap fun k => xs.filter (key · == k)).Perm (xs.filter (key · ∈ keys)) := by
  induction keys with
  | nil => simp
  | cons k keys ih =>
    obtain ⟨hk, hkeys⟩ := List.nodup_cons.1 h
    -- what has one of the keys has the first one or not
    have hsplit := List.filter_append_perm (key · == k) (xs.filter (key · ∈ k :: keys))
    rw [List.filter_filter, List.filter_filter] at hsplit
    have hfirst : xs.filter (fun x => key x == k && decide (key x ∈ k :: keys)) =
        xs.filter (key · == k) := by
      refine List.filter_congr fun x _ => ?_
      by_cases hx : key x = k <;> simp [hx]
    have hothers : xs.filter (fun x => !(key x == k) && decide (key x ∈ k :: keys)) =
        xs.filter (key · ∈ keys) := by
      refine List.filter_congr fun x _ => ?_
      by_cases hx : key x = k <;> simp [hx, hk]
    rw [hfirst, hothers] at hsplit
    rw [List.flatMap_cons]
    exact ((ih hkeys).append_left _).trans hsplit

/-- **Every field is under one of the names**, once. The names are different, and each field has one
of them for its key. -/
theorem flatMap_under_perm (fields : List Field) :
    ((flatten fields).entries.flatMap fun e => under fields e.1).Perm fields := by
  have hnodup := Sorted.nodup_names (flatten fields).increasing
  have hperm := flatMap_filter_perm (fun f : Field => Text.lower f.name) fields hnodup
  have hall : fields.filter (fun f => Text.lower f.name ∈ (flatten fields).entries.map Prod.fst) =
      fields :=
    List.filter_eq_self.2 fun f hf => decide_eq_true (mem_names_flatten.2 ⟨f, hf, rfl⟩)
  rwa [hall, List.flatMap_map] at hperm

/-! ### What the texts depend on -/

/-- Whatever list the names are taken from, it is the same map: entries that go by their names are
the same in any order and how often they are set. -/
lemma ofList_keys (hkeys : ∀ name, name ∈ keys ↔ ∃ f ∈ fields, Text.lower f.name = name) :
    FieldMap.ofList (keys.map fun name => (name, ", ".intercalate (valuesOf fields name))) =
      flatten fields := by
  have hentries : (FieldMap.ofList (keys.map fun name =>
      (name, ", ".intercalate (valuesOf fields name)))).entries = (flatten fields).entries := by
    rw [flatten_entries]
    refine Sorted.ofList_map_congr (fun name => (hkeys name).trans ?_) fun name _ => rfl
    rw [List.mem_map]
  exact FieldMap.ext hentries

/-- The values of a name go by the bytes under it. -/
lemma valuesOf_congr
    (h : (under fields' name).map Field.value = (under fields name).map Field.value) :
    valuesOf fields' name = valuesOf fields name := by
  have htexts := congrArg (List.map fun bytes => String.ofList (Text.decodeLossy bytes)) h
  rwa [List.map_map, List.map_map] at htexts

/-- A name is one of the fields' names if and only if there are values under it. -/
lemma exists_name_iff :
    (∃ f ∈ fields, Text.lower f.name = name) ↔ (under fields name).map Field.value ≠ [] := by
  simp [under]

/-- **Fields that are the same under every name give the same texts.** The names can be told from
the values under them, so both flattened maps can be made from one list of names. -/
theorem flatten_congr
    (h : ∀ name, (under fields' name).map Field.value = (under fields name).map Field.value) :
    flatten fields' = flatten fields := by
  have hkeys : ∀ name, name ∈ (fields.map fun f => Text.lower f.name) ↔
      ∃ f ∈ fields, Text.lower f.name = name := fun name => List.mem_map
  have hkeys' : ∀ name, name ∈ (fields.map fun f => Text.lower f.name) ↔
      ∃ f ∈ fields', Text.lower f.name = name := by
    intro name
    rw [hkeys, exists_name_iff, exists_name_iff, h]
  rw [← ofList_keys hkeys, ← ofList_keys hkeys']
  simp only [valuesOf_congr (h _)]

/-- **The texts of the names.** Flattened fields have one text for each name in lower case. It joins
what the values under the name are read as, in the order in which they came; every field is under
one name, once. Fields whose values under each name are the same, however those of different names
lie among each other, give the same texts, and so does every list of the names, in any order.

**Proof sketch.** The entries are set by names, so they are those of the different names, with what
joins the values of each (`text_of_mem_flatten`). To collect the fields name by name loses none and
takes none twice (`flatMap_under_perm`). The values under the names determine the names and their
texts (`flatten_congr`). -/
theorem flatten_joins_values (fields : List Field) :
    ((flatten fields).entries.map Prod.fst).Nodup ∧
    (∀ name, name ∈ (flatten fields).entries.map Prod.fst ↔
      ∃ f ∈ fields, Text.lower f.name = name) ∧
    (∀ name text, (name, text) ∈ (flatten fields).entries →
      ∃ values, List.Forall₂ IsTextOf (under fields name) values ∧ text = ", ".intercalate values) ∧
    ((flatten fields).entries.flatMap fun e => under fields e.1).Perm fields ∧
    (∀ fields', (∀ name,
        (under fields' name).map Field.value = (under fields name).map Field.value) →
      flatten fields' = flatten fields) ∧
    ∀ keys : List String, (∀ name, name ∈ keys ↔ ∃ f ∈ fields, Text.lower f.name = name) →
      FieldMap.ofList (keys.map fun name => (name, ", ".intercalate (valuesOf fields name))) =
        flatten fields := by
  refine ⟨Sorted.nodup_names (flatten fields).increasing, fun name => mem_names_flatten,
    fun name text h => ?_, flatMap_under_perm fields, fun fields' => flatten_congr,
    fun keys => ofList_keys⟩
  exact ⟨valuesOf fields name, forall₂_valuesOf fields name, text_of_mem_flatten h⟩

/-- A cookie, the type of the content and another cookie that is no text: the cookies are under one
name, with the type of the content between them or behind them. -/
theorem flatten_joins_values_of_cookies :
    (flatten [⟨"Set-Cookie", [97]⟩, ⟨"content-type", [98]⟩, ⟨"set-cookie", [0xC3]⟩]).entries =
        [("content-type", "b"), ("set-cookie", "a, \uFFFD")] ∧
      flatten [⟨"set-cookie", [97]⟩, ⟨"set-cookie", [0xC3]⟩, ⟨"content-type", [98]⟩] =
        flatten [⟨"Set-Cookie", [97]⟩, ⟨"content-type", [98]⟩, ⟨"set-cookie", [0xC3]⟩] := by
  refine ⟨by decide +kernel, (flatten_joins_values _).2.2.2.2.1 _ fun name => ?_⟩
  have hlower : Text.lower "Set-Cookie" = "set-cookie" ∧ Text.lower "set-cookie" = "set-cookie" ∧
      Text.lower "content-type" = "content-type" := by decide
  simp only [under, List.filter_cons, List.filter_nil, hlower]
  by_cases hcookie : name = "set-cookie"
  · subst hcookie
    rfl
  · have hne : ("set-cookie" == name) = false := beq_false_of_ne (Ne.symm hcookie)
    simp only [hne]
    rfl

end RequestRunner.Http
