import Mathlib.Data.List.Induction
import RequestRunner.Proofs.Document.LineSearch

/-!
# Header lists as ordered maps

A header list is read through two views: the list of its names and the value of each name.
Inserting a header changes each view in the plainest way, and from this follows what a sequence of
insertions leaves: each name once, where it first came, with the value that came last.

## Main definitions

* `Headers.names` — the names in order.
* `lastValue?` — the value of the last pair with a name.
* `collapse` — a list of pairs with each name once.
* `LineKind.field?`, `headerFields` — the names and values of header lines.

## Main results

* `Headers.names_insert`, `Headers.get?_insert` — one insertion, through both views.
* `Headers.toPairs_ofPairs` — a sequence of insertions into the empty list.
* `Headers.ofPairs_toPairs` — inserting the entries of a list with distinct names gives it back.
* `Headers.ofKinds_eq_ofPairs` — the headers of some lines are those of their fields.
-/

namespace RequestRunner

/-- The value of the last pair with the name. -/
def lastValue? (pairs : List (String × String)) (name : String) : Option String :=
  (pairs.reverse.find? (·.1 == name)).map (·.2)

/-- One pair for each name, in the order of the names' first occurrences, with the value of the
name's last occurrence. -/
def collapse (pairs : List (String × String)) : List (String × String) :=
  (pairs.map Prod.fst).eraseDups.filterMap fun name => (lastValue? pairs name).map (name, ·)

/-- A pair at the end has the say for its name. -/
lemma lastValue?_concat (pairs : List (String × String)) (p : String × String) (name : String) :
    lastValue? (pairs ++ [p]) name = if p.1 = name then some p.2 else lastValue? pairs name := by
  by_cases h : p.1 = name <;> simp [lastValue?, h]

/-- Without repetitions a name at the end counts only if it is new. -/
lemma eraseDups_concat (names : List String) (name : String) :
    (names ++ [name]).eraseDups =
      if name ∈ names then names.eraseDups else names.eraseDups ++ [name] := by
  rw [List.eraseDups_append]
  by_cases h : name ∈ names <;> simp [List.removeAll, h, List.eraseDups_cons]

namespace Headers

/-- The names in order. -/
def names (headers : Headers) : List String := headers.entries.map (·.name)

/-! ### One insertion -/

/-- Setting a value leaves the names as they are, or adds the name at the end if it is new. -/
lemma map_name_set (name value : String) (entries : List Header) :
    (set name value entries).map (·.name) =
      if name ∈ entries.map (·.name) then entries.map (·.name)
      else entries.map (·.name) ++ [name] := by
  induction entries with
  | nil => simp [set]
  | cons h rest ih =>
    by_cases hn : h.name = name
    · simp [set, hn]
    · have hn' : ¬ name = h.name := fun he => hn he.symm
      by_cases hr : name ∈ rest.map (·.name)
      · simp only [set, if_neg hn, List.map_cons, ih, List.mem_cons, hr, or_true, if_true]
      · simp only [set, if_neg hn, List.map_cons, ih, List.mem_cons, hr, hn', or_self, if_false,
          List.cons_append]

/-- **Inserting a header adds its name at the end if it is new**, and moves no name. -/
theorem names_insert (headers : Headers) (name value : String) :
    (headers.insert name value).names =
      if name ∈ headers.names then headers.names else headers.names ++ [name] :=
  map_name_set name value headers.entries

/-- Setting a value changes what is found under its name, and under no other.

**Proof sketch.** Induction on the entries. The first entry with the name is replaced, and a search
for another name passes over it before and after; without such an entry a new one stands last,
behind all that is found before. -/
lemma find?_set (name value other : String) (entries : List Header) :
    (set name value entries).find? (·.name == other) =
      if name = other then some ⟨name, value⟩ else entries.find? (·.name == other) := by
  induction entries with
  | nil => by_cases h : name = other <;> simp [set, h]
  | cons h rest ih =>
    by_cases hn : h.name = name
    · by_cases ho : name = other
      · simp [set, hn, ho]
      · have hho : ¬ h.name = other := fun he => ho (hn ▸ he)
        simp [set, hn, ho]
    · rw [set, if_neg hn]
      by_cases ho : h.name = other
      · have hno : ¬ name = other := fun he => hn (ho.trans he.symm)
        rw [List.find?_cons_of_pos (by simpa using ho), List.find?_cons_of_pos (by simpa using ho),
          if_neg hno]
      · rw [List.find?_cons_of_neg (by simpa using ho), List.find?_cons_of_neg (by simpa using ho),
          ih]

/-- **Inserting a header sets the value of its name and of no other.** -/
theorem get?_insert (headers : Headers) (name value other : String) :
    (headers.insert name value).get? other =
      if name = other then some value else headers.get? other := by
  rw [get?, insert, find?_set]
  split
  · rfl
  · rfl

/-! ### Sequences of insertions -/

/-- The last pair is inserted last. -/
lemma ofPairs_concat (pairs : List (String × String)) (p : String × String) :
    ofPairs (pairs ++ [p]) = (ofPairs pairs).insert p.1 p.2 := by
  simp [ofPairs]

/-- The names that a sequence of insertions leaves: each one where it first came.

**Proof sketch.** By induction from the end of the pairs: the last insertion adds its name behind
the others if it is new, and leaves the names alone otherwise. -/
theorem names_ofPairs (pairs : List (String × String)) :
    (ofPairs pairs).names = (pairs.map Prod.fst).eraseDups := by
  induction pairs using List.reverseRecOn with
  | nil => rfl
  | append_singleton pairs p ih =>
    rw [ofPairs_concat, names_insert, ih, List.map_append, List.map_singleton,
      eraseDups_concat]
    simp only [List.mem_eraseDups]

/-- The value that a sequence of insertions leaves for a name: the one that came last. -/
theorem get?_ofPairs (pairs : List (String × String)) (name : String) :
    (ofPairs pairs).get? name = lastValue? pairs name := by
  induction pairs using List.reverseRecOn with
  | nil => rfl
  | append_singleton pairs p ih => rw [ofPairs_concat, get?_insert, ih, lastValue?_concat]

/-- A header list that sequences of insertions give has distinct names.

**Proof sketch.** By induction from the end of the pairs. A name is only added if it is not there.
-/
theorem nodup_names_ofPairs (pairs : List (String × String)) : (ofPairs pairs).names.Nodup := by
  induction pairs using List.reverseRecOn with
  | nil => exact List.nodup_nil
  | append_singleton pairs p ih =>
    rw [ofPairs_concat, names_insert]
    split
    · exact ih
    · rename_i hp
      exact List.nodup_append.2 ⟨ih, by simp, fun a ha b hb he =>
        hp (List.mem_singleton.1 hb ▸ he ▸ ha)⟩

/-- Setting a value makes up no entry but that one. -/
lemma mem_of_mem_set {name value : String} {entries : List Header} {h : Header}
    (hmem : h ∈ set name value entries) : h = ⟨name, value⟩ ∨ h ∈ entries := by
  induction entries with
  | nil => exact .inl (List.mem_singleton.1 hmem)
  | cons e rest ih =>
    rw [set] at hmem
    split at hmem
    · exact (List.mem_cons.1 hmem).imp_right (List.mem_cons_of_mem e)
    · rcases List.mem_cons.1 hmem with rfl | hmem
      · exact .inr List.mem_cons_self
      · exact (ih hmem).imp_right (List.mem_cons_of_mem e)

/-- Sequences of insertions make up no entry: its name and its value came together. -/
theorem mem_of_mem_ofPairs {pairs : List (String × String)} {h : Header}
    (hmem : h ∈ (ofPairs pairs).entries) : (h.name, h.value) ∈ pairs := by
  induction pairs using List.reverseRecOn with
  | nil => exact absurd hmem List.not_mem_nil
  | append_singleton pairs p ih =>
    rw [ofPairs_concat] at hmem
    rw [List.mem_append, List.mem_singleton]
    rcases mem_of_mem_set hmem with rfl | hmem
    · exact .inr rfl
    · exact .inl (ih hmem)

/-- A list with distinct names is its names with their values.

**Proof sketch.** Induction on the entries. A lookup of the first name finds the first entry, and
lookups of the other names pass over it, since they are different. -/
lemma toPairs_eq_filterMap {headers : Headers} (h : headers.names.Nodup) :
    headers.toPairs = headers.names.filterMap fun name => (headers.get? name).map (name, ·) := by
  obtain ⟨entries⟩ := headers
  simp only [toPairs, names, get?] at h ⊢
  induction entries with
  | nil => rfl
  | cons e rest ih =>
    rw [List.map_cons, List.nodup_cons] at h
    obtain ⟨hnew, hrest⟩ := h
    have htail : ∀ name ∈ rest.map (·.name),
        (((e :: rest).find? (·.name == name)).map (·.value)).map (name, ·) =
          ((rest.find? (·.name == name)).map (·.value)).map (name, ·) := by
      intro name hname
      have hne : ¬ e.name = name := fun he => hnew (he ▸ hname)
      simp [hne]
    rw [List.map_cons, List.map_cons, List.filterMap_cons, List.filterMap_congr htail, ← ih hrest]
    simp

/-- **Insertions, first position and last value**: a sequence of insertions into the empty list
leaves each name once, in the order of first occurrences, with the value of the last one. -/
theorem toPairs_ofPairs (pairs : List (String × String)) :
    (ofPairs pairs).toPairs = collapse pairs := by
  rw [toPairs_eq_filterMap (nodup_names_ofPairs pairs), names_ofPairs]
  simp only [get?_ofPairs]
  rfl

/-- A header with a new name goes to the end. -/
lemma set_of_not_mem {name value : String} {entries : List Header}
    (h : name ∉ entries.map (·.name)) : set name value entries = entries ++ [⟨name, value⟩] := by
  induction entries with
  | nil => rfl
  | cons e rest ih =>
    rw [List.map_cons, List.mem_cons, not_or] at h
    rw [set, if_neg fun he => h.1 he.symm, ih h.2, List.cons_append]

/-- **Inserting the entries of a list with distinct names**, in order, gives the list back.

**Proof sketch.** Induction on the entries from the end: the last name is new to the list of the
others, so that its entry goes to the end. -/
theorem ofPairs_toPairs {headers : Headers} (h : headers.names.Nodup) :
    ofPairs headers.toPairs = headers := by
  obtain ⟨entries⟩ := headers
  induction entries using List.reverseRecOn with
  | nil => rfl
  | append_singleton entries e ih =>
    simp only [names, List.map_append, List.map_singleton] at h
    obtain ⟨hinit, -, hnew⟩ := List.nodup_append.1 h
    have ih := ih hinit
    have hmem : e.name ∉ entries.map (·.name) := fun hm => hnew _ hm _ List.mem_cons_self rfl
    simp only [toPairs, List.map_append, List.map_singleton] at ih ⊢
    rw [ofPairs_concat, ih, insert, set_of_not_mem hmem]

end Headers

/-! ### Header lines -/

/-- The name and the value of a header line. -/
def LineKind.field? : LineKind → Option (String × String)
  | .header name value => some (name, value)
  | _ => none

/-- The names and values of the header lines among some lines. -/
def headerFields (kinds : List LineKind) : List (String × String) := kinds.filterMap LineKind.field?

/-- The headers that lines give are those of their fields, inserted one after the other; lines of
other kinds give none. -/
theorem Headers.ofKinds_eq_ofPairs (kinds : List LineKind) :
    Headers.ofKinds kinds = Headers.ofPairs (headerFields kinds) := by
  rw [Headers.ofKinds, Headers.ofPairs, headerFields, List.foldl_filterMap]
  congr 1
  funext headers kind
  cases kind <;> rfl

/-- The fields of header lines are those of some header line. -/
lemma mem_of_mem_headerFields {kinds : List LineKind} {name value : String}
    (h : (name, value) ∈ headerFields kinds) : .header name value ∈ kinds := by
  obtain ⟨kind, hkind, hfield⟩ := List.mem_filterMap.1 h
  cases kind with
  | header name' value' =>
    obtain ⟨rfl, rfl⟩ := Prod.mk.inj (Option.some.inj hfield)
    exact hkind
  | separator | method | comment | blank | text => exact absurd hfield (Option.some_ne_none _).symm

/-- Header lines that were made of entries have these entries for fields. -/
lemma headerFields_map_header (entries : List Header) :
    headerFields (entries.map fun h => .header h.name h.value) =
      (Headers.mk entries).toPairs := by
  rw [headerFields, List.filterMap_map, Headers.toPairs, ← List.filterMap_eq_map]
  rfl

end RequestRunner
