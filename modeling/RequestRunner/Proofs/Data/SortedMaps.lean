import Mathlib.Data.List.Induction
import Mathlib.Data.List.Sort
import RequestRunner.Data.Sorted

/-!
# Entries in order as maps

Entries whose names increase are a map: what a name has is found by searching for it, and two lists
in which every search ends in the same way are equal. Entries set one after the other are found as
they were set last.

## Main results

* `Sorted.find?_insert`, `Sorted.find?_ofList` — what is found after entries are set.
* `Sorted.ext_find?` — entries in order are determined by what is found in them.
* `Sorted.ofList_map_congr` — entries whose values go by their names.
-/

namespace RequestRunner.Sorted

variable {α : Type} {entries entries' : List (String × α)} {name other : String}

/-! ### Searching -/

/-- To set an entry changes what is found for its name and for no other.

**Proof sketch.** By induction on the entries, along the comparisons that insertion makes. The entry
is put before a greater name or in the place of its own, and in each case the search for another
name passes it by. -/
lemma find?_insert (name : String) (value : α) (entries : List (String × α)) (other : String) :
    (insert name value entries).find? (·.1 == other) =
      if name = other then some (name, value) else entries.find? (·.1 == other) := by
  induction entries with
  | nil =>
    by_cases h : name = other <;> simp [insert, h]
  | cons e rest ih =>
    obtain ⟨n, v⟩ := e
    rw [insert]
    by_cases hlt : name < n
    · rw [if_pos hlt]
      by_cases h : name = other <;> simp [h]
    · rw [if_neg hlt]
      by_cases heq : name = n
      · rw [if_pos heq]
        by_cases h : name = other
        · simp [h]
        · have hn : ¬ n = other := fun he => h (heq.trans he)
          simp [h, hn]
      · rw [if_neg heq]
        by_cases hn : n = other
        · have h : ¬ name = other := fun he => heq (he.trans hn.symm)
          simp [hn, h]
        · have hfalse : (n == other) = false := beq_false_of_ne hn
          simp only [List.find?_cons, hfalse, ih]

/-- To set one entry more is to set it last. -/
lemma ofList_concat (entries : List (String × α)) (e : String × α) :
    ofList (entries ++ [e]) = insert e.1 e.2 (ofList entries) := by
  simp [ofList]

/-- **The last entry with a name is found** among those that are set one after the other, by
induction from the end of the list. -/
theorem find?_ofList (entries : List (String × α)) (name : String) :
    (ofList entries).find? (·.1 == name) = entries.reverse.find? (·.1 == name) := by
  induction entries using List.reverseRecOn with
  | nil => rfl
  | append_singleton entries e ih =>
    obtain ⟨n, v⟩ := e
    rw [ofList_concat, find?_insert, ih, List.reverse_concat]
    by_cases h : n = name <;> simp [h]

/-! ### Entries in order -/

/-- An entry is found by its name. What stands before it has a lesser name, so no search for its
name ends earlier. -/
lemma find?_eq_some_iff (h : Increasing entries) (name : String) {e : String × α} :
    entries.find? (·.1 == name) = some e ↔ e ∈ entries ∧ e.1 = name := by
  constructor
  · intro hfind
    exact ⟨List.mem_of_find?_eq_some hfind, by simpa using List.find?_some hfind⟩
  · rintro ⟨he, rfl⟩
    obtain ⟨before, after, rfl⟩ := List.append_of_mem he
    refine List.find?_eq_some_iff_append.2 ⟨by simp, before, after, rfl, fun d hd => ?_⟩
    have hlt : d.1 < e.1 := (List.pairwise_append.1 h).2.2 d hd e List.mem_cons_self
    have hne : d.1 ≠ e.1 := fun heq => String.lt_irrefl _ (heq ▸ hlt)
    simpa using hne

/-- **Entries in order are determined by what is found in them.** The same entries are in both
lists, and a list that increases is determined by its entries. -/
theorem ext_find? (h : Increasing entries) (h' : Increasing entries')
    (hfind : ∀ name, entries.find? (·.1 == name) = entries'.find? (·.1 == name)) :
    entries = entries' := by
  have hirrefl : Std.Irrefl fun a b : String × α => a.1 < b.1 := ⟨fun a => String.lt_irrefl a.1⟩
  have hantisymm : Std.Antisymm fun a b : String × α => a.1 < b.1 :=
    ⟨fun a b hab hba => absurd (String.lt_trans hab hba) (String.lt_irrefl a.1)⟩
  refine h.eq_of_mem_iff h' fun e => ?_
  have hmem := find?_eq_some_iff h e.1 (e := e)
  have hmem' := find?_eq_some_iff h' e.1 (e := e)
  rw [and_iff_left rfl] at hmem hmem'
  rw [← hmem, ← hmem', hfind]

/-- All that is there was set. -/
lemma mem_of_mem_ofList {e : String × α} (h : e ∈ ofList entries) : e ∈ entries := by
  have hfind := (find?_eq_some_iff (pairwise_ofList entries) e.1).2 ⟨h, rfl⟩
  rw [find?_ofList] at hfind
  exact List.mem_reverse.1 (List.mem_of_find?_eq_some hfind)

/-- Names that increase are different. -/
lemma nodup_names (h : Increasing entries) : (entries.map Prod.fst).Nodup := by
  rw [List.Nodup, List.pairwise_map]
  refine h.imp fun {a b} hlt heq => ?_
  exact String.lt_irrefl b.1 (heq ▸ hlt)

/-! ### Values that go by their names -/

/-- What is found of entries whose values go by their names.

**Proof sketch.** What is found is the last entry with the name. There is one if the name is in the
list, and its value goes by the name, whichever of several it is. -/
lemma find?_ofList_map (names : List String) (value : String → α) (name : String) :
    (ofList (names.map fun n => (n, value n))).find? (·.1 == name) =
      if name ∈ names then some (name, value name) else none := by
  rw [find?_ofList, ← List.map_reverse, List.find?_map]
  by_cases h : name ∈ names
  · have hfound : names.reverse.find? (· == name) = some name := by
      refine List.find?_eq_some_iff_append.2 ⟨by simp, ?_⟩
      obtain ⟨before, after, hsplit, hnot⟩ := List.eq_append_cons_of_mem (List.mem_reverse.2 h)
      exact ⟨before, after, hsplit, fun d hd => by simpa using fun he : d = name => hnot (he ▸ hd)⟩
    rw [if_pos h]
    show (names.reverse.find? (· == name)).map _ = _
    rw [hfound]
    rfl
  · have hnone : names.reverse.find? (· == name) = none := by
      refine List.find?_eq_none.2 fun d hd => ?_
      simpa using fun he : d = name => h (he ▸ List.mem_reverse.1 hd)
    rw [if_neg h]
    show (names.reverse.find? (· == name)).map _ = _
    rw [hnone]
    rfl

/-- **Entries whose values go by their names** are the same in whatever order and how often they are
set.

**Proof sketch.** Both lists of entries are in order, and in both a search finds the value of the
name, or nothing (`find?_ofList_map`). -/
theorem ofList_map_congr {names names' : List String} {value value' : String → α}
    (hnames : ∀ name, name ∈ names ↔ name ∈ names')
    (hvalue : ∀ name ∈ names, value name = value' name) :
    ofList (names.map fun n => (n, value n)) = ofList (names'.map fun n => (n, value' n)) := by
  refine ext_find? (pairwise_ofList _) (pairwise_ofList _) fun name => ?_
  rw [find?_ofList_map, find?_ofList_map]
  by_cases h : name ∈ names
  · rw [if_pos h, if_pos ((hnames name).1 h), hvalue name h]
  · rw [if_neg h, if_neg fun h' => h ((hnames name).2 h')]

end RequestRunner.Sorted
