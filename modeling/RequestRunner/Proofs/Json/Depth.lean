import RequestRunner.Proofs.Json.Reading

/-!
# Values that are too deep

A value with more arrays and objects one inside the other than are allowed is refused, wherever in
it they stand: what is too deep inside is reached, since all that stands before it is read.

## Main definitions

* `Json.Refuses`, `Json.RefusesMember` — a reader fails at each text of a value, and of the value of
  a member.

## Main results

* `Json.refuses_readArranged` — a value that is too deep is refused.
-/

namespace RequestRunner.Json

variable {α σ : Type} {v : Json} {vs : List Json} {ms : List (String × Json)} {cs : List Char}
  {isFirst : Bool} {fuel depth : Nat} {item value : Reader α}

/-- The reader fails at each text of the value. -/
def Refuses (reader : Reader α) (v : Json) : Prop :=
  ∀ gap cs rest, Gap gap → v.IsText cs → Delimited rest →
    ∃ fault, reader (gap ++ (cs ++ rest)) = .error fault

/-- The reader fails at a colon and each text of the value. -/
def RefusesMember (reader : Reader α) (v : Json) : Prop :=
  ∀ gap gap' cs rest, Gap gap → Gap gap' → v.IsText cs → Delimited rest →
    ∃ fault, reader (gap ++ ':' :: (gap' ++ (cs ++ rest))) = .error fault

/-! ### The insides of arrays and objects -/

/-- Items are refused if one of them is and those before it are read.

**Proof sketch.** By induction on the items. If the first one is refused, nothing behind it is
looked at; if it is read, one of the others is refused. -/
lemma readItems_refused (hitems : ∀ v ∈ vs, (∃ a, Reads item v a) ∨ Refuses item v)
    (hone : ∃ v ∈ vs, Refuses item v) (htext : ItemsText isFirst vs cs) (rest : List Char)
    (fuel : Nat) : ∃ fault, readItems item fuel isFirst (cs ++ rest) = .error fault := by
  induction vs generalizing isFirst cs fuel with
  | nil => simp at hone
  | cons v vs ih =>
    rw [List.forall_mem_cons] at hitems
    cases htext with
    | @item _ lead cs more _ _ hlead htext hmore =>
      cases fuel with
      | zero => exact ⟨_, rfl⟩
      | succ fuel =>
        rw [List.append_assoc, List.append_assoc, readItems_start hlead htext]
        have hrest := hmore.delimited rest
        by_cases hv : Refuses item v
        · obtain ⟨fault, hfault⟩ := hv [] cs (more ++ rest) gap_nil htext hrest
          rw [List.nil_append] at hfault
          exact ⟨fault, by simp only [hfault, bind, Except.bind]⟩
        · obtain ⟨a, ha⟩ := hitems.1.resolve_right hv
          have hfirst := ha [] cs (more ++ rest) gap_nil htext hrest
          have hother : ∃ v ∈ vs, Refuses item v := by simpa [hv] using hone
          obtain ⟨fault, hfault⟩ := ih hitems.2 hother hmore fuel
          rw [List.nil_append] at hfirst
          exact ⟨fault, by simp only [hfirst, hfault, bind, Except.bind]⟩

/-- Members are refused if one of them is in every state and those before it are read.

**Proof sketch.** By induction on the members, for every state, as those before change it. A member
that is not refused in every state may still be refused in this one, and then the others are not
reached. -/
lemma foldMembers_refused {member : σ → String → Reader σ} {state : σ}
    (hmembers : ∀ m ∈ ms, ∀ state, (∃ state', ReadsMember (member state m.1) m.2 state') ∨
      RefusesMember (member state m.1) m.2)
    (hone : ∃ m ∈ ms, ∀ state, RefusesMember (member state m.1) m.2)
    (htext : MembersText isFirst ms cs) (rest : List Char) :
    ∃ fault, foldMembers member fuel isFirst state (cs ++ rest) = .error fault := by
  induction ms generalizing isFirst cs fuel state with
  | nil => simp at hone
  | cons m ms ih =>
    rw [List.forall_mem_cons] at hmembers
    cases htext with
    | @member _ lead quoted gap gap' cs more name v _ hlead hname hgap hgap' htext hmore =>
      cases fuel with
      | zero => exact ⟨_, rfl⟩
      | succ fuel =>
        have hkey := readKey_name hlead hname (gap ++ ':' :: (gap' ++ (cs ++ (more ++ rest))))
        obtain ⟨forms, hforms, -⟩ := hmore.exists_form
        have hrest := hforms.delimited rest
        simp only [List.append_assoc, List.cons_append, foldMembers, hkey, bind, Except.bind]
        -- only a member that is refused in every state can be the one that is asked for
        by_cases hm : ∀ state, RefusesMember (member state name) v
        · obtain ⟨fault, hfault⟩ := hm state gap gap' cs (more ++ rest) hgap hgap' htext hrest
          exact ⟨fault, by simp only [hfault]⟩
        rcases hmembers.1 state with ⟨state', hreads⟩ | hrefuses
        · have hfirst := hreads gap gap' cs (more ++ rest) hgap hgap' htext hrest
          have hother : ∃ m ∈ ms, ∀ state, RefusesMember (member state m.1) m.2 := by
            simpa [hm] using hone
          simp only [hfirst]
          exact ih hmembers.2 hother hmore
        · obtain ⟨fault, hfault⟩ := hrefuses gap gap' cs (more ++ rest) hgap hgap' htext hrest
          exact ⟨fault, by simp only [hfault]⟩

/-- A member is refused if its value is. -/
lemma refusesMember_keepMember (h : Refuses value v) (members : List (String × α))
    (name : String) : RefusesMember (keepMember value members name) v := by
  intro gap gap' cs rest hgap hgap' htext hrest
  have hcolon := readColon_append hgap (gap' ++ (cs ++ rest))
  obtain ⟨fault, hfault⟩ := h gap' cs rest hgap' htext hrest
  exact ⟨fault, by simp only [keepMember, hcolon, hfault, bind, Except.bind]⟩

/-- The members of an object are refused if one of their values is and the others are read. -/
lemma readMembers_refused (hvalues : ∀ m ∈ ms, (∃ a, Reads value m.2 a) ∨ Refuses value m.2)
    (hone : ∃ m ∈ ms, Refuses value m.2) (htext : MembersText true ms cs) (rest : List Char) :
    ∃ fault, readMembers value (cs ++ rest) = .error fault := by
  rw [readMembers_eq]
  refine foldMembers_refused (fun m hm members => ?_) ?_ htext rest
  · rcases hvalues m hm with ⟨a, ha⟩ | hrefuses
    · exact .inl ⟨_, readsMember_keepMember ha members m.1⟩
    · exact .inr (refusesMember_keepMember hrefuses members m.1)
  · obtain ⟨m, hm, hrefuses⟩ := hone
    exact ⟨m, hm, fun members => refusesMember_keepMember hrefuses members m.1⟩

/-! ### Values -/

/-- Of the values that have texts only arrays and objects are ever too deep. -/
lemma array_or_object (htext : v.IsText cs) (hv : ¬ v.Kept depth) :
    (∃ vs, v = .array vs) ∨ ∃ ms, v = .object ms := by
  have hscalar : ¬ v.Kept 0 := fun h => hv h.of_zero
  cases htext with
  | array _ => exact .inl ⟨_, rfl⟩
  | object _ => exact .inr ⟨_, rfl⟩
  | integer hlow hhigh => exact absurd ⟨hlow, hhigh⟩ hscalar
  | _ => exact absurd trivial hscalar

/-- An array or object is refused where none is allowed. -/
lemma refuses_readArranged_zero {arrange : List (String × Json) → List (String × Json)}
    (hv : ¬ v.Kept 0) : Refuses (readArranged arrange 0) v := by
  intro gap cs rest hgap htext _
  rcases array_or_object htext hv with ⟨vs, rfl⟩ | ⟨ms, rfl⟩
  · cases htext with
    | @array _ cs _ =>
      have hskip := skipGap_append_cons (c := '[') hgap rfl (cs ++ rest)
      exact ⟨_, by rw [List.cons_append, readArranged, hskip]; rfl⟩
  · cases htext with
    | @object _ cs _ =>
      have hskip := skipGap_append_cons (c := '{') hgap rfl (cs ++ rest)
      exact ⟨_, by rw [List.cons_append, readArranged, hskip]; rfl⟩

/-- **A value that is too deep is refused.**

**Proof sketch.** Induction on the depth. Inside an array or object something is too deep for the
depth below, and all else is read. -/
theorem refuses_readArranged {arrange : List (String × Json) → List (String × Json)}
    (hv : ¬ v.Kept depth) : Refuses (readArranged arrange depth) v := by
  induction depth generalizing v with
  | zero => exact refuses_readArranged_zero hv
  | succ depth ih =>
    have hboth : ∀ v : Json, (∃ a, Reads (readArranged arrange depth) v a) ∨
        Refuses (readArranged arrange depth) v := fun v =>
      (em (v.Kept depth)).imp (fun h => ⟨_, reads_readArranged h⟩) ih
    intro gap cs rest hgap htext _
    rcases array_or_object htext hv with ⟨vs, rfl⟩ | ⟨ms, rfl⟩
    · cases htext with
      | @array _ cs htext =>
        have hone : ∃ v ∈ vs, ¬ v.Kept depth := by simpa [Kept] using hv
        obtain ⟨v, hv, hdeep⟩ := hone
        obtain ⟨fault, hfault⟩ := readItems_refused (fun v _ => hboth v) ⟨v, hv, ih hdeep⟩ htext
          rest ((cs ++ rest).length + 1)
        have hskip := skipGap_append_cons (c := '[') hgap rfl (cs ++ rest)
        refine ⟨fault, ?_⟩
        rw [List.cons_append, readArranged, hskip]
        simp only [hfault, bind, Except.bind]
    · cases htext with
      | @object _ cs htext =>
        have hone : ∃ m ∈ ms, ¬ m.2.Kept depth := by simpa [Kept] using hv
        obtain ⟨m, hm, hdeep⟩ := hone
        obtain ⟨fault, hfault⟩ := readMembers_refused (fun m _ => hboth m.2) ⟨m, hm, ih hdeep⟩
          htext rest
        have hskip := skipGap_append_cons (c := '{') hgap rfl (cs ++ rest)
        refine ⟨fault, ?_⟩
        rw [List.cons_append, readArranged, hskip]
        simp only [hfault, bind, Except.bind]

end RequestRunner.Json
