import Mathlib.Data.Finset.Card
import RequestRunner.Proofs.Document.HeaderLists

/-!
# What header lists hold after insertions

Two header lists with distinct names are the same if their names stand in the same order and have the
same values. So whatever was inserted, and in whatever order, can be read off the two views: a name
keeps the place at which it came first, its value is the one that came last, and a lookup that ignores
the case of letters finds the first of all names that are equal in this way.

## Main definitions

* `IsLast` — a pair is the last one with its name.

## Main results

* `lastValue?_eq_some_iff`, `lastValue?_eq_none_iff` — the value that came last.
* `Headers.eq_of_names_of_get?` — names and values determine a list.
* `Headers.getIgnoringCase?_eq` — lookups that ignore the case of letters.
* `Headers.exists_entries_insert` — to set the value of a name that is there.
* `Headers.ofPairs_keep_first_place_last_value` — header lists as ordered maps.
-/

namespace RequestRunner

variable {pairs : List (String × String)} {name other value : String}

/-! ### The last value -/

/-- The pair of `name` and `value` stands among the pairs, and none behind it has its name. -/
def IsLast (pairs : List (String × String)) (name value : String) : Prop :=
  ∃ before after, pairs = before ++ (name, value) :: after ∧ name ∉ after.map Prod.fst

/-- The value that is found from the end is the one of the last pair with the name.

**Proof sketch.** What stands before the first hit from the end is, turned round, what stands behind
the last pair; none of it has the name. -/
lemma lastValue?_eq_some_iff : lastValue? pairs name = some value ↔ IsLast pairs name value := by
  rw [lastValue?, Option.map_eq_some_iff]
  constructor
  · rintro ⟨⟨name', value'⟩, hfound, rfl⟩
    obtain ⟨hname, after, before, hpairs, hafter⟩ := List.find?_eq_some_iff_append.1 hfound
    obtain rfl : name' = name := by simpa using hname
    refine ⟨before.reverse, after.reverse, ?_, fun hmem => ?_⟩
    · rw [← List.reverse_reverse pairs, hpairs]
      simp
    · obtain ⟨p, hp, hsame⟩ := List.mem_map.1 hmem
      have hne := hafter p (List.mem_reverse.1 hp)
      simp [hsame] at hne
  · rintro ⟨before, after, rfl, hafter⟩
    refine ⟨(name, value), List.find?_eq_some_iff_append.2 ⟨by simp, after.reverse, before.reverse,
      by simp, fun p hp => ?_⟩, rfl⟩
    have hne : ¬ p.1 = name := fun he => hafter (List.mem_map.2 ⟨p, List.mem_reverse.1 hp, he⟩)
    simpa using hne

/-- Nothing is found exactly for a name that no pair has. -/
lemma lastValue?_eq_none_iff : lastValue? pairs name = none ↔ name ∉ pairs.map Prod.fst := by
  rw [lastValue?, Option.map_eq_none_iff, List.find?_eq_none]
  simp only [List.mem_reverse, beq_iff_eq, List.mem_map, not_exists, not_and]

/-- The first of some names with a property is the first of the names without repetitions.

**Proof sketch.** Induction on the names from the end. A name that came before makes no difference
to either search, since whatever finds it has found the one before. -/
lemma find?_eraseDups (names : List String) (p : String → Bool) :
    names.eraseDups.find? p = names.find? p := by
  induction names using List.reverseRecOn with
  | nil => rfl
  | append_singleton names name ih =>
    rw [eraseDups_concat, List.find?_append, ← ih]
    split
    · rename_i hmem
      cases hfound : names.eraseDups.find? p with
      | some => rfl
      | none =>
        have hnot : ¬ p name = true := List.find?_eq_none.1 hfound name (List.mem_eraseDups.2 hmem)
        rw [List.find?_singleton, if_neg hnot]
        rfl
    · rw [List.find?_append]

namespace Headers

variable {headers headers' : Headers}

/-! ### Lists with distinct names -/

/-- A header list is determined by its names and values in order. -/
lemma toPairs_injective (h : headers.toPairs = headers'.toPairs) : headers = headers' := by
  obtain ⟨entries⟩ := headers
  obtain ⟨entries'⟩ := headers'
  have hinjective : Function.Injective fun e : Header => (e.name, e.value) := by
    rintro ⟨name, value⟩ ⟨name', value'⟩ he
    obtain ⟨rfl, rfl⟩ := Prod.mk.inj he
    rfl
  exact congrArg Headers.mk (hinjective.list_map h)

/-- **Names and values determine a list** with distinct names. -/
theorem eq_of_names_of_get? (h : headers.names.Nodup) (hnames : headers.names = headers'.names)
    (hget : ∀ name, headers.get? name = headers'.get? name) : headers = headers' := by
  refine toPairs_injective ?_
  rw [toPairs_eq_filterMap h, toPairs_eq_filterMap (hnames ▸ h), hnames, funext hget]

/-- A list has as many headers as names. -/
lemma size_eq (headers : Headers) : headers.size = headers.names.length :=
  (List.length_map _).symm

/-! ### Lookups that ignore the case of letters -/

/-- A lookup looks at the first entry first. -/
lemma get?_cons (e : Header) (rest : List Header) (name : String) :
    (mk (e :: rest)).get? name = if e.name = name then some e.value else (mk rest).get? name := by
  by_cases h : e.name = name <;> simp [get?, h]

/-- The first entry whose name has a property holds the value of the first name that has it.

**Proof sketch.** Induction on the entries. If the first name has the property, both are the first
entry. If not, a name with the property is another one, so that looking it up passes over the first
entry. -/
lemma value_find?_name (p : String → Bool) (entries : List Header) :
    (entries.find? fun e => p e.name).map (·.value) =
      ((entries.map (·.name)).find? p).bind (mk entries).get? := by
  induction entries with
  | nil => rfl
  | cons e rest ih =>
    rw [List.map_cons]
    cases he : p e.name with
    | true => simp only [List.find?_cons, he, Option.map_some, Option.bind_some, get?_cons, if_true]
    | false =>
      simp only [List.find?_cons, he, ih]
      -- a name that is found behind `e` is another one than that of `e`
      refine Option.bind_congr fun found hfound => ?_
      have hne : ¬ e.name = found := fun heq => by simp [heq, List.find?_some hfound] at he
      rw [get?_cons, if_neg hne]

/-- **To ignore the case of letters** is to look up the first of the names that are equal in this
way. -/
theorem getIgnoringCase?_eq (headers : Headers) (name : String) :
    headers.getIgnoringCase? name =
      (headers.names.find? (Text.sameIgnoringCase · name)).bind headers.get? :=
  value_find?_name (Text.sameIgnoringCase · name) headers.entries

/-- A name is equal to itself, also if the case of letters is ignored. -/
lemma sameIgnoringCase_self (s : String) : Text.sameIgnoringCase s s = true := beq_self_eq_true _

/-- Nothing is found exactly for a name that is not there. -/
lemma get?_eq_none_iff : headers.get? name = none ↔ name ∉ headers.names := by
  rw [get?, Option.map_eq_none_iff, List.find?_eq_none, names]
  simp only [beq_iff_eq, List.mem_map, not_exists, not_and]

/-- Something is found exactly for a name that is there. -/
lemma isSome_get?_iff : (headers.get? name).isSome ↔ name ∈ headers.names := by
  rw [← Option.ne_none_iff_isSome, ne_eq, get?_eq_none_iff, not_not]

/-- What is found exactly is found when the case of letters is ignored, though perhaps under another
name. -/
lemma isSome_getIgnoringCase? (h : (headers.get? name).isSome) :
    (headers.getIgnoringCase? name).isSome := by
  rw [getIgnoringCase?_eq]
  have hsome : (headers.names.find? (Text.sameIgnoringCase · name)).isSome :=
    List.find?_isSome.2 ⟨name, isSome_get?_iff.1 h, sameIgnoringCase_self name⟩
  obtain ⟨found, hfound⟩ := Option.isSome_iff_exists.1 hsome
  rw [hfound, Option.bind_some, isSome_get?_iff]
  exact List.mem_of_find?_eq_some hfound

/-! ### Names that are there -/

/-- **To set the value of a name that is there** changes the first entry with this name, and neither
what stands before it nor what stands behind.

**Proof sketch.** By induction on the entries, along the search for the name that setting a value
makes. -/
theorem exists_entries_insert (h : name ∈ headers.names) (value : String) :
    ∃ before old after, headers.entries = before ++ ⟨name, old⟩ :: after ∧
      (headers.insert name value).entries = before ++ ⟨name, value⟩ :: after := by
  obtain ⟨entries⟩ := headers
  simp only [names, insert] at h ⊢
  induction entries with
  | nil => exact absurd h List.not_mem_nil
  | cons e rest ih =>
    by_cases he : e.name = name
    · subst he
      exact ⟨[], e.value, rest, rfl, by rw [set, if_pos rfl]; rfl⟩
    · have hrest : name ∈ rest.map (·.name) := (List.mem_cons.1 h).resolve_left fun heq => he heq.symm
      obtain ⟨before, old, after, hentries, hset⟩ := ih hrest
      refine ⟨e :: before, old, after, by rw [hentries]; rfl, ?_⟩
      rw [set, if_neg he, hset]
      rfl

/-- **Two names that are there** may be set in either order: both orders leave the names as they are
and the same value for each, and that determines the list (`eq_of_names_of_get?`). -/
theorem insert_insert_comm {value' : String} (hnodup : headers.names.Nodup) (hne : name ≠ other)
    (hname : name ∈ headers.names) (hother : other ∈ headers.names) :
    (headers.insert name value).insert other value' =
      (headers.insert other value').insert name value := by
  have hleft : ((headers.insert name value).insert other value').names = headers.names := by
    rw [names_insert, names_insert, if_pos hname, if_pos hother]
  have hright : ((headers.insert other value').insert name value).names = headers.names := by
    rw [names_insert, names_insert, if_pos hother, if_pos hname]
  refine eq_of_names_of_get? (hleft ▸ hnodup) (hleft.trans hright.symm) fun found => ?_
  simp only [get?_insert]
  by_cases hfound : other = found
  · rw [if_pos hfound, if_neg fun he => hne (he.trans hfound.symm), if_pos hfound]
  · rw [if_neg hfound, if_neg hfound]

/-! ### Sequences of insertions -/

/-- Insertions go on from what those before them have left. -/
lemma ofPairs_append (pairs more : List (String × String)) :
    ofPairs (pairs ++ more) = more.foldl (fun hs p => hs.insert p.1 p.2) (ofPairs pairs) :=
  List.foldl_append

/-- Insertions leave as many entries as there are different names. -/
lemma size_ofPairs (pairs : List (String × String)) :
    (ofPairs pairs).size = (pairs.map Prod.fst).toFinset.card := by
  rw [size_eq, ← List.toFinset_card_of_nodup (nodup_names_ofPairs pairs), names_ofPairs]
  congr 1
  ext name
  rw [List.mem_toFinset, List.mem_toFinset, List.mem_eraseDups]

/-- **Header lists are ordered maps.** Let any pairs be inserted into the empty list, one after the
other. The names that are left are distinct, stand in the order in which they came first, and are as
many as different names were inserted. A name has the value that came last with exactly this name,
and none if it never came. If the case of letters is ignored, what counts is the first of all
inserted names that are equal in this way, and there is one if there is an exact one.

To insert a name that is there changes its value and nothing else, so that two such insertions one
behind the other, of different names, may change places.

**Proof sketch.** Each part is a lemma about one insertion carried through all of them: names are
only ever added behind (`names_ofPairs`), a value is replaced where its name stands
(`exists_entries_insert`), and both lookups go by these (`get?_ofPairs`, `getIgnoringCase?_eq`). -/
theorem ofPairs_keep_first_place_last_value (pairs : List (String × String)) :
    let headers : Headers := ofPairs pairs
    let inserted := pairs.map Prod.fst
    headers.names.Nodup ∧
      headers.names = inserted.eraseDups ∧
      headers.size = inserted.toFinset.card ∧
      (∀ name value, headers.get? name = some value ↔ IsLast pairs name value) ∧
      (∀ name, headers.get? name = none ↔ name ∉ inserted) ∧
      (∀ name, headers.getIgnoringCase? name =
        (inserted.find? (Text.sameIgnoringCase · name)).bind headers.get?) ∧
      (∀ name, (headers.get? name).isSome → (headers.getIgnoringCase? name).isSome) ∧
      (∀ name value, name ∈ inserted →
        ∃ before old after, headers.entries = before ++ ⟨name, old⟩ :: after ∧
          (ofPairs (pairs ++ [(name, value)])).entries = before ++ ⟨name, value⟩ :: after) ∧
      ∀ name value name' value' more, name ∈ inserted → name' ∈ inserted → name ≠ name' →
        ofPairs (pairs ++ (name, value) :: (name', value') :: more) =
          ofPairs (pairs ++ (name', value') :: (name, value) :: more) := by
  intro headers inserted
  have hnodup : headers.names.Nodup := nodup_names_ofPairs pairs
  have hnames : headers.names = inserted.eraseDups := names_ofPairs pairs
  have hmem : ∀ name, name ∈ inserted → name ∈ headers.names := fun name h => by
    rw [hnames]
    exact List.mem_eraseDups.2 h
  refine ⟨hnodup, hnames, size_ofPairs pairs, fun name value => ?_, fun name => ?_, fun name => ?_,
    fun name => isSome_getIgnoringCase?, fun name value h => ?_, ?_⟩
  · rw [get?_ofPairs, lastValue?_eq_some_iff]
  · rw [get?_ofPairs, lastValue?_eq_none_iff]
  · rw [getIgnoringCase?_eq, hnames, find?_eraseDups]
  · rw [ofPairs_concat]
    exact exists_entries_insert (hmem name h) value
  · intro name value name' value' more h h' hne
    rw [ofPairs_append, ofPairs_append, List.foldl_cons, List.foldl_cons, List.foldl_cons,
      List.foldl_cons, insert_insert_comm hnodup hne (hmem name h) (hmem name' h')]

/-- Two names that differ in the case of a letter have values of their own; to ignore the case finds
the one that came first, and both may be set in either order. -/
theorem ofPairs_keep_first_place_last_value_of_two_cases :
    let pairs := [("accept", "1"), ("Accept", "2"), ("accept", "3")]
    (ofPairs pairs).size = 2 ∧ (ofPairs pairs).get? "Accept" = some "2" ∧
      (ofPairs pairs).getIgnoringCase? "ACCEPT" = (ofPairs pairs).get? "accept" ∧
      ofPairs (pairs ++ [("accept", "4"), ("Accept", "5")]) =
        ofPairs (pairs ++ [("Accept", "5"), ("accept", "4")]) := by
  intro pairs
  obtain ⟨-, -, hsize, hlast, -, hignoring, -, -, hswap⟩ := ofPairs_keep_first_place_last_value pairs
  have hisLast : IsLast pairs "Accept" "2" := ⟨[("accept", "1")], [("accept", "3")], rfl, by decide⟩
  refine ⟨hsize.trans (by decide), (hlast _ _).2 hisLast, ?_, ?_⟩
  · rw [hignoring]
    rfl
  · exact hswap "accept" "4" "Accept" "5" [] (by decide) (by decide) (by decide)

end Headers

end RequestRunner
