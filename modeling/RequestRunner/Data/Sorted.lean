/-!
# Named entries in order

A list of names with values in which the names increase, so that each occurs once. Setting a name
that is there replaces its value.

## Main definitions

* `Sorted.insert`, `Sorted.ofList` — one entry set, and all entries of a list set in turn.

## Main results

* `Sorted.pairwise_insert`, `Sorted.pairwise_ofList` — the names increase.
* `Sorted.ofList_of_increasing` — entries in order stay as they are.
* `Sorted.mem_names_ofList` — the names are those that were set.
-/

namespace RequestRunner.Sorted

variable {α : Type}

/-- The names increase. -/
abbrev Increasing (entries : List (String × α)) : Prop := entries.Pairwise fun a b => a.1 < b.1

/-- The entries after `name` is set to `value`. -/
def insert (name : String) (value : α) : List (String × α) → List (String × α)
  | [] => [(name, value)]
  | (n, v) :: rest =>
    if name < n then (name, value) :: (n, v) :: rest
    else if name = n then (name, value) :: rest
    else (n, v) :: insert name value rest

/-- The entries of a list, of several with one name the last. -/
def ofList (entries : List (String × α)) : List (String × α) :=
  entries.foldl (fun sorted e => insert e.1 e.2 sorted) []

/-- What is there after an entry is set was there before, or is the entry that was set. -/
theorem mem_insert {name : String} {value : α} {entries : List (String × α)} {e : String × α}
    (h : e ∈ insert name value entries) : e = (name, value) ∨ e ∈ entries := by
  induction entries with
  | nil => exact .inl (by simpa [insert] using h)
  | cons first rest ih =>
    obtain ⟨n, v⟩ := first
    rw [insert] at h
    split at h
    · exact (List.mem_cons.1 h).imp_right id
    · split at h
      · exact (List.mem_cons.1 h).imp_right (List.mem_cons_of_mem _)
      · rcases List.mem_cons.1 h with rfl | h
        · exact .inr List.mem_cons_self
        · exact (ih h).imp_right (List.mem_cons_of_mem _)

/-- To set an entry keeps the names increasing. By induction on the entries, along the comparisons
that insertion makes. -/
theorem pairwise_insert (name : String) (value : α) {entries : List (String × α)}
    (h : Increasing entries) : Increasing (insert name value entries) := by
  induction entries with
  | nil => exact List.pairwise_singleton _ _
  | cons first rest ih =>
    obtain ⟨n, v⟩ := first
    obtain ⟨hn, hrest⟩ := List.pairwise_cons.1 h
    rw [insert]
    split
    · next hlt =>
      refine List.pairwise_cons.2 ⟨fun e he => ?_, h⟩
      rcases List.mem_cons.1 he with rfl | he
      · exact hlt
      · exact String.lt_trans hlt (hn e he)
    · next hge =>
      split
      · next heq =>
        subst heq
        exact List.pairwise_cons.2 ⟨hn, hrest⟩
      · next hne =>
        refine List.pairwise_cons.2 ⟨fun e he => ?_, ih hrest⟩
        rcases mem_insert he with rfl | he
        · exact Std.lt_of_le_of_ne (String.not_lt.1 hge) (Ne.symm hne)
        · exact hn e he

/-- Entries that are set one after the other have increasing names. -/
theorem pairwise_ofList (entries : List (String × α)) : Increasing (ofList entries) := by
  suffices ∀ sorted : List (String × α), Increasing sorted →
      Increasing (entries.foldl (fun sorted e => insert e.1 e.2 sorted) sorted) from
    this [] List.Pairwise.nil
  induction entries with
  | nil => exact fun _ h => h
  | cons e rest ih => exact fun sorted h => ih _ (pairwise_insert e.1 e.2 h)

/-- An entry behind all others is put at the end. -/
theorem insert_of_forall_lt {name : String} (value : α) {entries : List (String × α)}
    (h : ∀ e ∈ entries, e.1 < name) : insert name value entries = entries ++ [(name, value)] := by
  induction entries with
  | nil => rfl
  | cons e rest ih =>
    rw [List.forall_mem_cons] at h
    have hnot : ¬ name < e.1 := fun hlt => String.lt_irrefl _ (String.lt_trans hlt h.1)
    have hne : name ≠ e.1 := fun heq => String.lt_irrefl _ (heq ▸ h.1)
    rw [insert, if_neg hnot, if_neg hne, ih h.2, List.cons_append]

/-- Entries in order stay as they are. -/
theorem ofList_of_increasing {entries : List (String × α)} (h : Increasing entries) :
    ofList entries = entries := by
  -- the entries go in from the front, each behind those before it
  suffices ∀ sorted : List (String × α), Increasing (sorted ++ entries) →
      entries.foldl (fun sorted e => insert e.1 e.2 sorted) sorted = sorted ++ entries from
    this [] h
  clear h
  induction entries with
  | nil => exact fun sorted _ => (List.append_nil sorted).symm
  | cons e rest ih =>
    intro sorted h
    have hlt : ∀ d ∈ sorted, d.1 < e.1 := fun d hd =>
      (List.pairwise_append.1 h).2.2 d hd e List.mem_cons_self
    have hmore : sorted ++ e :: rest = (sorted ++ [e]) ++ rest := by simp
    rw [List.foldl_cons, insert_of_forall_lt e.2 hlt, hmore, ih (sorted ++ [(e.1, e.2)])]
    rwa [← hmore]

/-- The names after one of them is set. -/
theorem mem_names_insert {name name' : String} {value : α} {entries : List (String × α)} :
    name ∈ (insert name' value entries).map Prod.fst ↔
      name = name' ∨ name ∈ entries.map Prod.fst := by
  induction entries with
  | nil => simp [insert]
  | cons e rest ih =>
    rw [insert]
    split
    · simp
    · split
      · next heq => simp [heq]
      · rw [List.map_cons, List.mem_cons, ih, List.map_cons, List.mem_cons]
        exact or_left_comm

/-- Entries put in order have the names that they had. -/
theorem mem_names_ofList {name : String} {entries : List (String × α)} :
    name ∈ (ofList entries).map Prod.fst ↔ name ∈ entries.map Prod.fst := by
  suffices ∀ sorted : List (String × α),
      name ∈ (entries.foldl (fun sorted e => insert e.1 e.2 sorted) sorted).map Prod.fst ↔
        name ∈ sorted.map Prod.fst ∨ name ∈ entries.map Prod.fst by
    simpa [ofList] using this []
  induction entries with
  | nil => simp
  | cons e rest ih =>
    intro sorted
    rw [List.foldl_cons, ih, mem_names_insert, List.map_cons, List.mem_cons]
    exact or_assoc.trans or_left_comm

end RequestRunner.Sorted
