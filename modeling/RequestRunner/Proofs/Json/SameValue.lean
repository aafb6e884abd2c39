import Mathlib.Data.List.Basic
import RequestRunner.Proofs.Data.SortedMaps
import RequestRunner.Proofs.Json.Reading

/-!
# Values that are the same

Of several members with one name the last one counts, and the order of members with different names
does not. Values that are the same up to this are the same value once the members of their objects
are put in order, and a value is the same as what becomes of it then.

## Main definitions

* `Json.last?` — the value of a name in an object.
* `Json.Same` — values are the same.
* `Json.Reordered` — values differ in the order of members with different names.

## Main results

* `Json.same_arranged` — a value is the same as with its members in order.
* `Json.same_iff_arranged_eq` — values are the same if they are equal with their members in order.
* `Json.Reordered.same` — values that differ in the order of members are the same.
-/

namespace RequestRunner.Json

/-- The value of the last member with the name. -/
def last? (ms : List (String × Json)) (name : String) : Option Json :=
  (ms.reverse.find? (·.1 == name)).map Prod.snd

/-- The values are the same: the items of their arrays are, one by one, and their objects have the
same names with values that are the same, of several members with one name the last. -/
inductive Same : Json → Json → Prop where
  | refl (v : Json) : Same v v
  | array {vs ws : List Json} (hlength : vs.length = ws.length)
      (h : ∀ (i : Nat) v w, vs[i]? = some v → ws[i]? = some w → Same v w) :
      Same (.array vs) (.array ws)
  | object {ms ns : List (String × Json)}
      (hnames : ∀ name, (last? ms name).isSome = (last? ns name).isSome)
      (h : ∀ name v w, last? ms name = some v → last? ns name = some w → Same v w) :
      Same (.object ms) (.object ns)

/-- Members with different names that follow each other have changed places, somewhere in the value
or at several places. -/
inductive Reordered : Json → Json → Prop where
  | refl (v : Json) : Reordered v v
  | swap {before after : List (String × Json)} {m n : String × Json} (hne : m.1 ≠ n.1) :
      Reordered (.object (before ++ m :: n :: after)) (.object (before ++ n :: m :: after))
  | item {before after : List Json} {v w : Json} (h : Reordered v w) :
      Reordered (.array (before ++ v :: after)) (.array (before ++ w :: after))
  | member {before after : List (String × Json)} {name : String} {v w : Json}
      (h : Reordered v w) :
      Reordered (.object (before ++ (name, v) :: after)) (.object (before ++ (name, w) :: after))
  | trans {u v w : Json} (h : Reordered u v) (h' : Reordered v w) : Reordered u w

variable {u v w : Json} {vs : List Json} {ms ns : List (String × Json)} {m : String × Json}
  {name : String} {depth : Nat} {arrange : List (String × Json) → List (String × Json)}

/-! ### The value of a name -/

/-- The value of a name is one that stands in the object. -/
lemma mem_of_last?_eq_some (h : last? ms name = some v) : (name, v) ∈ ms := by
  obtain ⟨m, hm, rfl⟩ := Option.map_eq_some_iff.1 h
  have hname : m.1 = name := by simpa using List.find?_some hm
  exact hname ▸ List.mem_reverse.1 (List.mem_of_find?_eq_some hm)

/-- The value of a name is taken from the members that stand behind, if they have the name. -/
lemma last?_append (ms ns : List (String × Json)) (name : String) :
    last? (ms ++ ns) name = (last? ns name).or (last? ms name) := by
  rw [last?, List.reverse_append, List.find?_append, Option.map_or, last?, last?]

/-- The value of a name is that of the first member only if no other has the name. -/
lemma last?_cons (m : String × Json) (ms : List (String × Json)) (name : String) :
    last? (m :: ms) name = (last? ms name).or (if m.1 = name then some m.2 else none) := by
  rw [← List.singleton_append, last?_append]
  by_cases h : m.1 = name <;> simp [last?, h]

/-- What is done to all values is done to the value of a name. -/
lemma last?_map (f : Json → Json) (ms : List (String × Json)) (name : String) :
    last? (ms.map fun m => (m.1, f m.2)) name = (last? ms name).map f := by
  induction ms with
  | nil => rfl
  | cons m ms ih =>
    rw [List.map_cons, last?_cons, last?_cons, ih, Option.map_or]
    by_cases h : m.1 = name <;> simp [h]

/-- What is found in members put in order is the last of those with the name. -/
lemma find?_ofList_eq (ms : List (String × Json)) (name : String) :
    (Sorted.ofList ms).find? (·.1 == name) = (last? ms name).map fun v => (name, v) := by
  rw [Sorted.find?_ofList, last?, Option.map_map]
  cases hfind : ms.reverse.find? (·.1 == name) with
  | none => rfl
  | some m =>
    have hname : m.1 = name := by simpa using List.find?_some hfind
    rw [Option.map_some, ← hname]
    rfl

/-- To put members in order leaves the values of the names alone. -/
lemma last?_ofList (ms : List (String × Json)) (name : String) :
    last? (Sorted.ofList ms) name = last? ms name := by
  have hfind := find?_ofList_eq (Sorted.ofList ms) name
  rw [Sorted.ofList_of_increasing (Sorted.pairwise_ofList ms), find?_ofList_eq] at hfind
  exact (Option.map_injective (fun v w h => congrArg Prod.snd h) hfind).symm

/-! ### Arranged values -/

/-- To arrange items is to arrange each. -/
lemma arrangedItems_eq_map (vs : List Json) :
    arrangedItems arrange vs = vs.map (arranged arrange) := by
  induction vs with
  | nil => rfl
  | cons v vs ih => rw [arrangedItems, ih, List.map_cons]

/-- To arrange members is to arrange the value of each and leave its name. -/
lemma arrangedMembers_eq_map (ms : List (String × Json)) :
    arrangedMembers arrange ms = ms.map fun m => (m.1, arranged arrange m.2) := by
  induction ms with
  | nil => rfl
  | cons m ms ih => rw [arrangedMembers, ih, List.map_cons]

/-- To put members in order makes no value deeper, by induction on the depth: what is in order are
some of the members.

**Proof sketch.** One case for each form of a value. The members of an object in order are among
those that were put in order (`Sorted.mem_of_mem_ofList`). -/
lemma kept_arranged (h : v.Kept depth) : (v.arranged Sorted.ofList).Kept depth := by
  induction depth generalizing v with
  | zero =>
    cases v with
    | array vs => exact h.elim
    | object ms => exact h.elim
    | _ => exact h
  | succ depth ih =>
    cases v with
    | array vs =>
      rw [arranged, arrangedItems_eq_map]
      exact List.forall_mem_map.2 fun v hv => ih (h v hv)
    | object ms =>
      rw [arranged, arrangedMembers_eq_map]
      intro e he
      obtain ⟨m, hm, rfl⟩ := List.mem_map.1 (Sorted.mem_of_mem_ofList he)
      exact ih (h m hm)
    | _ => exact h

/-- An array is the same as one whose items are, one by one. -/
lemma same_array_map (f : Json → Json) (h : ∀ v ∈ vs, Same v (f v)) :
    Same (.array vs) (.array (vs.map f)) := by
  refine .array (List.length_map _).symm fun i v w hv hw => ?_
  rw [List.getElem?_map, hv] at hw
  obtain rfl := Option.some.inj hw
  exact h v (List.mem_of_getElem? hv)

/-- An object is the same as one whose members are in order, with values that are the same.

**Proof sketch.** To put members in order leaves the value of each name alone, so a name has a value
in one object if it has in the other, and the values correspond. -/
lemma same_object_map (f : Json → Json) (h : ∀ m ∈ ms, Same m.2 (f m.2)) :
    Same (.object ms) (.object (Sorted.ofList (ms.map fun m => (m.1, f m.2)))) := by
  have hlast : ∀ name, last? (Sorted.ofList (ms.map fun m => (m.1, f m.2))) name =
      (last? ms name).map f := fun name => by rw [last?_ofList, last?_map]
  refine .object (fun name => by rw [hlast, Option.isSome_map]) fun name v w hv hw => ?_
  rw [hlast, hv] at hw
  obtain rfl := Option.some.inj hw
  exact h _ (mem_of_last?_eq_some hv)

mutual

/-- **A value is the same as with the members of its objects in order.** By recursion on the value,
together with its items and members. -/
theorem same_arranged : ∀ v : Json, Same v (v.arranged Sorted.ofList)
  | .null => .refl _
  | .bool _ => .refl _
  | .integer _ => .refl _
  | .float _ => .refl _
  | .string _ => .refl _
  | .array vs => by
    rw [arranged, arrangedItems_eq_map]
    exact same_array_map _ (same_arranged_items vs)
  | .object ms => by
    rw [arranged, arrangedMembers_eq_map]
    exact same_object_map _ (same_arranged_members ms)

/-- Each item is the same as with its members in order. -/
lemma same_arranged_items : ∀ vs : List Json, ∀ v ∈ vs, Same v (v.arranged Sorted.ofList)
  | [] => by simp
  | v :: vs => List.forall_mem_cons.2 ⟨same_arranged v, same_arranged_items vs⟩

/-- The value of each member is the same as with its members in order. -/
lemma same_arranged_members : ∀ ms : List (String × Json), ∀ m ∈ ms,
    Same m.2 (m.2.arranged Sorted.ofList)
  | [] => by simp
  | (_, v) :: ms => List.forall_mem_cons.2 ⟨same_arranged v, same_arranged_members ms⟩

end

/-- **Values that are the same are equal** with the members of their objects in order.

**Proof sketch.** By induction. Items that are the same are equal, one by one. Members in order are
determined by what is found in them (`Sorted.ext_find?`), which is the value of each name, and these
are equal by the hypothesis. -/
theorem Same.arranged_eq (h : Same v w) :
    v.arranged Sorted.ofList = w.arranged Sorted.ofList := by
  induction h with
  | refl v => rfl
  | @array vs ws hlength _ ih =>
    rw [arranged, arranged, arrangedItems_eq_map, arrangedItems_eq_map]
    refine congrArg Json.array (List.ext_getElem? fun i => ?_)
    rw [List.getElem?_map, List.getElem?_map]
    rcases hv : vs[i]? with _ | v
    · have hw : ws[i]? = none := by
        rw [List.getElem?_eq_none_iff] at hv ⊢
        omega
      rw [hw]
    · obtain ⟨hi, -⟩ := List.getElem?_eq_some_iff.1 hv
      have hw : ws[i]? = some ws[i] := List.getElem?_eq_getElem (hlength ▸ hi)
      rw [hw, Option.map_some, Option.map_some, ih i v _ hv hw]
  | @object ms ns hnames _ ih =>
    rw [arranged, arranged, arrangedMembers_eq_map, arrangedMembers_eq_map]
    refine congrArg Json.object (Sorted.ext_find? (Sorted.pairwise_ofList _)
      (Sorted.pairwise_ofList _) fun name => ?_)
    rw [find?_ofList_eq, find?_ofList_eq, last?_map, last?_map]
    -- a name that is in one of the objects is in the other
    have hname := hnames name
    rcases hv : last? ms name with _ | v <;> rcases hw : last? ns name with _ | w
    · rfl
    · rw [hv, hw] at hname
      cases hname
    · rw [hv, hw] at hname
      cases hname
    · simp only [Option.map_some, ih name v w hv hw]

/-- To be the same goes both ways. -/
lemma Same.symm (h : Same v w) : Same w v := by
  induction h with
  | refl v => exact .refl v
  | array hlength _ ih => exact .array hlength.symm fun i w v hw hv => ih i v w hv hw
  | object hnames _ ih =>
    exact .object (fun name => (hnames name).symm) fun name w v hw hv => ih name v w hv hw

/-- What is the same as the same is the same.

**Proof sketch.** By induction on the first of the two. For arrays and objects the second one is of
the same form or nothing changed; the item or the value in the middle is there because the lengths,
or the names, agree. -/
lemma Same.trans (h : Same u v) (h' : Same v w) : Same u w := by
  induction h generalizing w with
  | refl v => exact h'
  | @array us vs hlength h ih =>
    cases h' with
    | refl _ => exact .array hlength h
    | @array _ ws hlength' h' =>
      refine .array (hlength.trans hlength') fun i u w hu hw => ?_
      obtain ⟨hi, -⟩ := List.getElem?_eq_some_iff.1 hu
      have hv : vs[i]? = some vs[i] := List.getElem?_eq_getElem (hlength ▸ hi)
      exact ih i u _ hu hv (h' i _ w hv hw)
  | @object ms ns hnames h ih =>
    cases h' with
    | refl _ => exact .object hnames h
    | object hnames' h' =>
      refine .object (fun name => (hnames name).trans (hnames' name)) fun name u w hu hw => ?_
      have hsome : (last? ns name).isSome := by
        rw [← hnames name, hu]
        rfl
      obtain ⟨v, hv⟩ := Option.isSome_iff_exists.1 hsome
      exact ih name u v hu hv (h' name v w hv hw)

/-- **Values are the same if and only if they are equal** with the members of their objects in
order. -/
theorem same_iff_arranged_eq :
    Same v w ↔ v.arranged Sorted.ofList = w.arranged Sorted.ofList :=
  ⟨Same.arranged_eq, fun h => (same_arranged v).trans (h ▸ (same_arranged w).symm)⟩

/-! ### The order of members -/

/-- An array is the same if one of its items is replaced by a value that is the same.

**Proof sketch.** By the index of an item: before the one that is replaced, at it, or behind it. -/
lemma same_item (before after : List Json) (h : Same v w) :
    Same (.array (before ++ v :: after)) (.array (before ++ w :: after)) := by
  refine .array (by simp) fun i x y hx hy => ?_
  rw [List.getElem?_append] at hx hy
  split at hx
  · next hi =>
    rw [if_pos hi, hx] at hy
    obtain rfl := Option.some.inj hy
    exact .refl _
  · next hi =>
    rw [if_neg hi, List.getElem?_cons] at hy
    rw [List.getElem?_cons] at hx
    split at hx
    · next hfirst =>
      rw [if_pos hfirst] at hy
      obtain rfl := Option.some.inj hx
      obtain rfl := Option.some.inj hy
      exact h
    · next hlater =>
      rw [if_neg hlater, hx] at hy
      obtain rfl := Option.some.inj hy
      exact .refl _

/-- An object is the same if the value of one member is replaced by one that is the same.

**Proof sketch.** For each name either the value is not taken from this member and nothing changes,
or it is, and then both values are those of the member. -/
lemma same_member (before after : List (String × Json)) (name : String) (h : Same v w) :
    Same (.object (before ++ (name, v) :: after)) (.object (before ++ (name, w) :: after)) := by
  have hlast : ∀ x other, last? (before ++ (name, x) :: after) other =
      (last? after other).or ((if name = other then some x else none).or (last? before other)) := by
    intro x other
    rw [last?_append, last?_cons, Option.or_assoc]
  -- a member behind this one hides it, and for another name it is passed by
  have hcases : ∀ other,
      last? (before ++ (name, v) :: after) other = last? (before ++ (name, w) :: after) other ∨
        last? (before ++ (name, v) :: after) other = some v ∧
          last? (before ++ (name, w) :: after) other = some w := by
    intro other
    rw [hlast, hlast]
    by_cases hname : name = other <;> cases last? after other <;> simp [hname]
  refine .object (fun other => ?_) fun other x y hx hy => ?_
  · rcases hcases other with heq | ⟨hv, hw⟩
    · rw [heq]
    · rw [hv, hw]
      rfl
  · rcases hcases other with heq | ⟨hv, hw⟩
    · rw [heq, hy] at hx
      obtain rfl := Option.some.inj hx
      exact .refl _
    · rw [hv] at hx
      rw [hw] at hy
      obtain rfl := Option.some.inj hx
      obtain rfl := Option.some.inj hy
      exact h

/-- An object is the same if two members with different names change their places: for no name are
both looked at. -/
lemma same_swap (before after : List (String × Json)) {m n : String × Json} (hne : m.1 ≠ n.1) :
    Same (.object (before ++ m :: n :: after)) (.object (before ++ n :: m :: after)) := by
  have hlast : ∀ name, last? (before ++ m :: n :: after) name =
      last? (before ++ n :: m :: after) name := by
    intro name
    simp only [last?_append, last?_cons]
    by_cases hm : m.1 = name <;> by_cases hn : n.1 = name <;> simp [hm, hn]
    exact absurd (hm.trans hn.symm) hne
  refine .object (fun name => by rw [hlast]) fun name v w hv hw => ?_
  rw [hlast, hw] at hv
  obtain rfl := Option.some.inj hv
  exact .refl _

/-- **Values that differ in the order of members are the same.** -/
theorem Reordered.same (h : Reordered v w) : Same v w := by
  induction h with
  | refl v => exact .refl v
  | swap hne => exact same_swap _ _ hne
  | item _ ih => exact same_item _ _ ih
  | member _ ih => exact same_member _ _ _ ih
  | trans _ _ ih ih' => exact ih.trans ih'

end RequestRunner.Json
