import Mathlib.Data.List.Forall2
import RequestRunner.Json.Record
import RequestRunner.Proofs.Json.Tokens

/-!
# Reading values

A reader reads a value as something if it gets that from every text of the value, wherever gaps
stand and however the strings are written. This carries over from the items of an array and the
members of an object to the whole, so each reader needs it for its own values only.

## Main definitions

* `Json.Reads`, `Json.ReadsMember` — what a reader makes of a value, and of the value of a member.
* `Json.FoldReads` — what the members of an object make of a state, one after the other.
* `Json.MembersForm`, `Json.FoldTakes` — members given by characters, and what they make of a state.
* `Json.arranged` — a value with the members of its objects arranged.

## Main results

* `Json.readItems_append`, `Json.foldMembers_form`, `Json.foldMembers_append` — the insides of arrays
  and objects.
* `Json.reads_readString`, `Json.reads_readUnsigned`, `Json.reads_readStringMap` — values of one kind.
* `Json.reads_readArranged` — values of any kind.
* `Json.readAll_of_isText` — whole texts.
-/

namespace RequestRunner.Json

variable {α β σ : Type}

/-- The reader gets `a` from each text of the value, and leaves what stands behind it. -/
def Reads (reader : Reader α) (v : Json) (a : α) : Prop :=
  ∀ gap cs rest, Gap gap → v.IsText cs → Delimited rest →
    reader (gap ++ (cs ++ rest)) = .ok (a, rest)

/-- The reader gets `a` from a colon and the characters. -/
def TakesMember (reader : Reader α) (cs : List Char) (a : α) : Prop :=
  ∀ gap gap' rest, Gap gap → Gap gap' → Delimited rest →
    reader (gap ++ ':' :: (gap' ++ (cs ++ rest))) = .ok (a, rest)

/-- The members of an object, given by the characters of their values, turn one state into the
other. -/
inductive FoldTakes (member : σ → String → Reader σ) :
    σ → List (String × List Char) → σ → Prop where
  | nil {state : σ} : FoldTakes member state [] state
  | cons {state state' state'' : σ} {name : String} {cs : List Char}
      {ms : List (String × List Char)} (h : TakesMember (member state name) cs state')
      (hms : FoldTakes member state' ms state'') : FoldTakes member state ((name, cs) :: ms) state''

/-- The characters are the members with their names and the characters of their values, and the
closing brace. -/
inductive MembersForm : Bool → List (String × List Char) → List Char → Prop where
  | close {isFirst : Bool} {gap : List Char} (hgap : Gap gap) :
      MembersForm isFirst [] (gap ++ ['}'])
  | member {isFirst : Bool} {lead quoted gap gap' cs more : List Char} {name : String}
      {ms : List (String × List Char)} (hlead : Lead isFirst lead)
      (hname : StringText name.toList quoted) (hgap : Gap gap) (hgap' : Gap gap')
      (h : MembersForm false ms more) :
      MembersForm isFirst ((name, cs) :: ms)
        (lead ++ '"' :: (quoted ++ '"' :: (gap ++ ':' :: (gap' ++ (cs ++ more)))))

/-- The reader gets `a` from a colon and each text of the value. -/
def ReadsMember (reader : Reader α) (v : Json) (a : α) : Prop :=
  ∀ gap gap' cs rest, Gap gap → Gap gap' → v.IsText cs → Delimited rest →
    reader (gap ++ ':' :: (gap' ++ (cs ++ rest))) = .ok (a, rest)

/-- The members of an object, read one after the other, turn one state into the other. -/
inductive FoldReads (member : σ → String → Reader σ) : σ → List (String × Json) → σ → Prop where
  | nil {state : σ} : FoldReads member state [] state
  | cons {state state' state'' : σ} {name : String} {v : Json} {ms : List (String × Json)}
      (h : ReadsMember (member state name) v state') (hms : FoldReads member state' ms state'') :
      FoldReads member state ((name, v) :: ms) state''

mutual

/-- The value with the members of each object in it arranged. -/
def arranged (arrange : List (String × Json) → List (String × Json)) : Json → Json
  | .null => .null
  | .bool b => .bool b
  | .integer n => .integer n
  | .float x => .float x
  | .string s => .string s
  | .array vs => .array (arrangedItems arrange vs)
  | .object ms => .object (arrange (arrangedMembers arrange ms))

/-- The values with the members of each object in them arranged. -/
def arrangedItems (arrange : List (String × Json) → List (String × Json)) :
    List Json → List Json
  | [] => []
  | v :: vs => arranged arrange v :: arrangedItems arrange vs

/-- The members with the members of each object in their values arranged. -/
def arrangedMembers (arrange : List (String × Json) → List (String × Json)) :
    List (String × Json) → List (String × Json)
  | [] => []
  | (name, v) :: ms => (name, arranged arrange v) :: arrangedMembers arrange ms

end

variable {v : Json} {vs : List Json} {ms : List (String × Json)} {cs rest gap lead : List Char}
  {isFirst : Bool} {fuel : Nat} {item : Reader α}

/-! ### What a text starts and ends with -/

/-- A whole number is written with a minus sign and digits, or with digits. -/
lemma integerChars_cases (n : Int) :
    (n < 0 ∧ integerChars n = '-' :: Nat.toDigits 10 n.natAbs) ∨
      0 ≤ n ∧ ∃ c cs, c.isDigit ∧ integerChars n = c :: cs ∧ Nat.toDigits 10 n.natAbs = c :: cs := by
  by_cases hn : n < 0
  · exact .inl ⟨hn, by rw [integerChars, if_pos hn]⟩
  · obtain ⟨c, cs, hcs⟩ := List.exists_cons_of_ne_nil (Nat.toDigits_ne_nil (b := 10) (n := n.natAbs))
    refine .inr ⟨Int.not_lt.1 hn, c, cs, ?_, ?_, hcs⟩
    · exact isDigit_of_mem_toDigits (hcs ▸ List.mem_cons_self)
    · rw [integerChars, if_neg hn, hcs]

/-- A text of a value starts with neither a gap nor a closing bracket. -/
lemma IsText.exists_cons (h : v.IsText cs) :
    ∃ c cs', cs = c :: cs' ∧ isGap c = false ∧ c ≠ ']' := by
  cases h with
  | @integer n _ _ =>
    rcases integerChars_cases n with ⟨-, hcs⟩ | ⟨-, c, cs, hc, hcs, -⟩
    · exact ⟨_, _, hcs, rfl, by decide⟩
    · exact ⟨c, cs, hcs, isGap_eq_false_of_isDigit hc, ne_of_isDigit hc (by decide)⟩
  | _ => exact ⟨_, _, rfl, rfl, by decide⟩

/-- The end of the text can stand behind a value. -/
lemma delimited_nil : Delimited [] := fun _ h => absurd h (by simp)

/-- A gap with a comma or a closing bracket behind it can stand behind a value. -/
lemma delimited_append_cons (hgap : Gap gap) {c : Char} (hc : c = ',' ∨ c = ']' ∨ c = '}')
    (cs : List Char) : Delimited (gap ++ c :: cs) := by
  intro d hd
  cases gap with
  | nil =>
    have hcd : c = d := by simpa using hd
    exact .inr (hcd ▸ hc)
  | cons g gap =>
    have hgd : g = d := by simpa using hd
    exact .inl (hgd ▸ hgap g List.mem_cons_self)

/-- What stands before a further item can stand behind a value. -/
lemma Lead.delimited (h : Lead false lead) (cs : List Char) : Delimited (lead ++ cs) := by
  obtain ⟨gap, gap', hgap, -, rfl⟩ := h
  rw [List.append_assoc, List.cons_append]
  exact delimited_append_cons hgap (.inl rfl) _

/-- Further items can stand behind an item. -/
lemma ItemsText.delimited (h : ItemsText false vs cs) (rest : List Char) :
    Delimited (cs ++ rest) := by
  cases h with
  | close hgap =>
    rw [List.append_assoc]
    exact delimited_append_cons hgap (.inr (.inl rfl)) rest
  | item hlead _ _ =>
    rw [List.append_assoc]
    exact hlead.delimited _

/-- Items take a character each and one for the bracket. -/
lemma ItemsText.length_lt (h : ItemsText isFirst vs cs) : vs.length < cs.length := by
  induction vs generalizing isFirst cs with
  | nil =>
    cases h with
    | close _ => simp
  | cons v vs ih =>
    cases h with
    | item _ hv h =>
      obtain ⟨c, cs', rfl, -, -⟩ := hv.exists_cons
      have hmore := ih h
      simp only [List.length_cons, List.length_append]
      omega

/-- Members take a character each and one for the brace. -/
lemma MembersText.length_lt (h : MembersText isFirst ms cs) : ms.length < cs.length := by
  induction ms generalizing isFirst cs with
  | nil =>
    cases h with
    | close _ => simp
  | cons m ms ih =>
    cases h with
    | member _ _ _ _ _ h =>
      have hmore := ih h
      simp only [List.length_cons, List.length_append]
      omega

/-- The characters of a text are fuel enough for its items. -/
lemma ItemsText.length_lt_fuel (h : ItemsText isFirst vs cs) (rest : List Char) :
    vs.length < (cs ++ rest).length + 1 := by
  have hlength := h.length_lt
  rw [List.length_append]
  omega

/-- The characters of a text are fuel enough for its members. -/
lemma MembersText.length_lt_fuel (h : MembersText isFirst ms cs) (rest : List Char) :
    ms.length < (cs ++ rest).length + 1 := by
  have hlength := h.length_lt
  rw [List.length_append]
  omega

/-! ### The insides of arrays -/

/-- Before a further item a comma is passed. So a step of reading items is the same for the first
item and for another one.

**Proof sketch.** By whether the item is the first one. The next character is no gap and no closing
bracket, since a value starts with neither, and before a further item it is the comma. -/
lemma readItems_start (hlead : Lead isFirst lead) (hv : v.IsText cs) (more : List Char) :
    readItems item (fuel + 1) isFirst (lead ++ (cs ++ more)) = (do
      let (a, rest) ← item (cs ++ more)
      let (as, rest) ← readItems item fuel false rest
      .ok (a :: as, rest)) := by
  obtain ⟨c, cs, rfl, hgap, hbracket⟩ := hv.exists_cons
  cases isFirst with
  | true =>
    have hskip := skipGap_append_cons (c := c) hlead hgap (cs ++ more)
    rw [readItems, List.cons_append, hskip]
    simp [bind, Except.bind]
  | false =>
    obtain ⟨gap, gap', hgap₁, hgap₂, rfl⟩ := hlead
    have hskip := skipGap_append_cons (c := ',') hgap₁ rfl (gap' ++ (c :: cs ++ more))
    have hskip' := skipGap_append_cons (c := c) hgap₂ hgap (cs ++ more)
    rw [readItems, List.append_assoc, List.cons_append, hskip, List.cons_append]
    simp [hskip', hbracket, bind, Except.bind]

/-- **The items of an array** are read up to its closing bracket.

**Proof sketch.** By induction on the items. What stands behind an item can stand behind a value, so
the item is read and no more than it, and there is fuel left for the others. -/
theorem readItems_append {as : List α} (hitems : List.Forall₂ (Reads item) vs as)
    (htext : ItemsText isFirst vs cs) (hfuel : vs.length < fuel) (rest : List Char) :
    readItems item fuel isFirst (cs ++ rest) = .ok (as, ']' :: rest) := by
  induction hitems generalizing isFirst cs fuel with
  | nil =>
    obtain ⟨fuel, rfl⟩ := Nat.exists_eq_add_one_of_ne_zero (Nat.ne_zero_of_lt hfuel)
    cases htext with
    | close hgap =>
      have hskip := skipGap_append_cons (c := ']') hgap rfl rest
      rw [List.append_assoc, List.singleton_append, readItems, hskip]
      rfl
  | @cons v a vs as hv _ ih =>
    obtain ⟨fuel, rfl⟩ := Nat.exists_eq_add_one_of_ne_zero (Nat.ne_zero_of_lt hfuel)
    cases htext with
    | @item _ lead cs more _ _ hlead htext hmore =>
      have hfirst := hv [] cs (more ++ rest) gap_nil htext (hmore.delimited rest)
      rw [List.nil_append] at hfirst
      have hothers := ih hmore (Nat.lt_of_succ_lt_succ hfuel)
      rw [List.append_assoc, List.append_assoc, readItems_start hlead htext, hfirst]
      simp only [bind, Except.bind, hothers]

/-! ### The insides of objects -/

/-- The closing brace is found behind a gap. -/
lemma readKey_close (hgap : Gap gap) (rest : List Char) :
    readKey isFirst (gap ++ '}' :: rest) = .ok (none, '}' :: rest) := by
  rw [readKey, skipGap_append_cons hgap rfl]
  rfl

/-- The name of a member is read behind its lead.

**Proof sketch.** By whether the member is the first one, as for items. -/
lemma readKey_name {name : String} (hlead : Lead isFirst lead)
    (hname : StringText name.toList cs) (rest : List Char) :
    readKey isFirst (lead ++ '"' :: (cs ++ '"' :: rest)) = .ok (some name, rest) := by
  have hquoted := readQuoted_of_stringText hname rest
  cases isFirst with
  | true =>
    have hskip := skipGap_append_cons (c := '"') hlead rfl (cs ++ '"' :: rest)
    rw [readKey, hskip]
    simp [bind, Except.bind, hquoted]
  | false =>
    obtain ⟨gap, gap', hgap, hgap', rfl⟩ := hlead
    have hskip := skipGap_append_cons (c := ',') hgap rfl (gap' ++ '"' :: (cs ++ '"' :: rest))
    have hskip' := skipGap_append_cons (c := '"') hgap' rfl (cs ++ '"' :: rest)
    rw [readKey, List.append_assoc, List.cons_append, hskip]
    simp [bind, Except.bind, hskip', hquoted]

/-- A colon is read behind a gap. -/
lemma readColon_append (hgap : Gap gap) (rest : List Char) :
    readColon (gap ++ ':' :: rest) = .ok rest := by
  rw [readColon, skipGap_append_cons hgap rfl]
  rfl

/-- Further members can stand behind a value. -/
lemma MembersForm.delimited {ms : List (String × List Char)} (h : MembersForm false ms cs)
    (rest : List Char) : Delimited (cs ++ rest) := by
  cases h with
  | close hgap =>
    rw [List.append_assoc]
    exact delimited_append_cons hgap (.inr (.inr rfl)) rest
  | member hlead _ _ _ _ =>
    rw [List.append_assoc]
    exact hlead.delimited _

/-- Members given by characters take one character each and one for the brace. -/
lemma MembersForm.length_lt {ms : List (String × List Char)} (h : MembersForm isFirst ms cs) :
    ms.length < cs.length := by
  induction h with
  | close _ => simp
  | member _ _ _ _ _ ih =>
    simp only [List.length_cons, List.length_append]
    omega

/-- A text of an object gives its members by texts of their values. What reads members can thus be
said of characters, whatever they stand for. -/
lemma MembersText.exists_form (h : MembersText isFirst ms cs) :
    ∃ forms, MembersForm isFirst forms cs ∧
      List.Forall₂ (fun m form => m.1 = form.1 ∧ IsText m.2 form.2) ms forms := by
  induction ms generalizing isFirst cs with
  | nil =>
    cases h with
    | close hgap => exact ⟨[], .close hgap, .nil⟩
  | cons m ms ih =>
    cases h with
    | member hlead hname hgap hgap' hv h =>
      obtain ⟨forms, hforms, htexts⟩ := ih h
      exact ⟨_, .member hlead hname hgap hgap' hforms, .cons ⟨rfl, hv⟩ htexts⟩

/-- What a reader makes of a value it makes of each text of it. -/
lemma ReadsMember.takesMember {reader : Reader α} {a : α} (h : ReadsMember reader v a)
    (htext : v.IsText cs) : TakesMember reader cs a := fun gap gap' rest hgap hgap' =>
  h gap gap' cs rest hgap hgap' htext

/-- What the members make of a state they make of it whatever texts give their values, member by
member. -/
lemma FoldReads.foldTakes {member : σ → String → Reader σ} {state state' : σ}
    {forms : List (String × List Char)} (h : FoldReads member state ms state')
    (htexts : List.Forall₂ (fun m form => m.1 = form.1 ∧ IsText m.2 form.2) ms forms) :
    FoldTakes member state forms state' := by
  induction h generalizing forms with
  | nil =>
    cases htexts
    exact .nil
  | @cons state₁ state₂ state₃ name v ms h _ ih =>
    obtain ⟨⟨name', cs⟩, forms', hm, htexts', rfl⟩ := List.forall₂_cons_left_iff.1 htexts
    obtain ⟨rfl, hcs⟩ : name = name' ∧ IsText v cs := hm
    exact .cons (h.takesMember hcs) (ih htexts')

/-- **The members of an object** are gone through up to its closing brace, given by the characters
of their values.

**Proof sketch.** By induction on the members, for every state. The name is read from its lead, the
value behind its colon, and what stands behind the value can stand there. -/
theorem foldMembers_form {member : σ → String → Reader σ} {state state' : σ}
    {ms : List (String × List Char)} (hmembers : FoldTakes member state ms state')
    (hform : MembersForm isFirst ms cs) (hfuel : ms.length < fuel) (rest : List Char) :
    foldMembers member fuel isFirst state (cs ++ rest) = .ok (state', '}' :: rest) := by
  induction hmembers generalizing isFirst cs fuel with
  | nil =>
    obtain ⟨fuel, rfl⟩ := Nat.exists_eq_add_one_of_ne_zero (Nat.ne_zero_of_lt hfuel)
    cases hform with
    | close hgap =>
      rw [List.append_assoc, List.singleton_append, foldMembers, readKey_close hgap]
      rfl
  | @cons state₁ state₂ state₃ name cs ms h _ ih =>
    obtain ⟨fuel, rfl⟩ := Nat.exists_eq_add_one_of_ne_zero (Nat.ne_zero_of_lt hfuel)
    cases hform with
    | @member _ lead quoted gap gap' _ more _ _ hlead hname hgap hgap' hmore =>
      have hkey := readKey_name hlead hname (gap ++ ':' :: (gap' ++ (cs ++ (more ++ rest))))
      have hfirst := h gap gap' (more ++ rest) hgap hgap' (hmore.delimited rest)
      have hothers := ih hmore (Nat.lt_of_succ_lt_succ hfuel)
      simp only [List.append_assoc, List.cons_append, foldMembers, hkey, bind, Except.bind, hfirst,
        hothers]

/-- **The members of an object** are gone through up to its closing brace. -/
theorem foldMembers_append {member : σ → String → Reader σ} {state state' : σ}
    (hmembers : FoldReads member state ms state') (htext : MembersText isFirst ms cs)
    (hfuel : ms.length < fuel) (rest : List Char) :
    foldMembers member fuel isFirst state (cs ++ rest) = .ok (state', '}' :: rest) := by
  obtain ⟨forms, hform, htexts⟩ := htext.exists_form
  exact foldMembers_form (hmembers.foldTakes htexts) hform (htexts.length_eq ▸ hfuel) rest

/-- What a reader makes of a value it makes of it behind a colon, in a member not read before. -/
lemma readsMember_readField {value : Reader α} {a : α} (h : Reads value v a) (name : String) :
    ReadsMember (readField name none value) v a := by
  intro gap gap' cs rest hgap hgap' htext hrest
  have hcolon := readColon_append hgap (gap' ++ (cs ++ rest))
  have hvalue := h gap' cs rest hgap' htext hrest
  simp [readField, hcolon, bind, Except.bind, hvalue]

/-- A member reader that builds something from the value it reads. -/
lemma ReadsMember.map {value : Reader α} {a : α} (h : ReadsMember value v a) (f : α → β) :
    ReadsMember (fun cs => do
      let (a, rest) ← value cs
      .ok (f a, rest)) v (f a) := by
  intro gap gap' cs rest hgap hgap' htext hrest
  have hvalue := h gap gap' cs rest hgap hgap' htext hrest
  simp only [hvalue, bind, Except.bind]

/-- Reads a member of an object and puts it in front of those before it. -/
def keepMember (value : Reader α) (members : List (String × α)) (name : String) :
    Reader (List (String × α)) := fun rest => do
  let rest ← readColon rest
  let (a, rest) ← value rest
  .ok ((name, a) :: members, rest)

/-- To read the members of an object is to go through them and keep each. -/
lemma readMembers_eq (value : Reader α) (cs : List Char) :
    readMembers value cs = foldMembers (keepMember value) (cs.length + 1) true [] cs := rfl

/-- A member is kept in front of those before it, with what its value is read as. -/
lemma readsMember_keepMember {value : Reader α} {a : α} (h : Reads value v a)
    (members : List (String × α)) (name : String) :
    ReadsMember (keepMember value members name) v ((name, a) :: members) := by
  intro gap gap' cs rest hgap hgap' htext hrest
  have hcolon := readColon_append hgap (gap' ++ (cs ++ rest))
  have hvalue := h gap' cs rest hgap' htext hrest
  simp only [keepMember, hcolon, hvalue, bind, Except.bind]

/-- The members of an object are read in reverse order.

**Proof sketch.** Each member is put in front of those before it. Said for all members that came
before, this goes through by induction. -/
theorem readMembers_append {value : Reader α} {as : List (String × α)}
    (hmembers : List.Forall₂ (fun m a => m.1 = a.1 ∧ Reads value m.2 a.2) ms as)
    (htext : MembersText true ms cs) (rest : List Char) :
    readMembers value (cs ++ rest) = .ok (as.reverse, '}' :: rest) := by
  have hfold : ∀ before, FoldReads (keepMember value) before ms (as.reverse ++ before) := by
    clear htext
    induction hmembers with
    | nil => exact fun before => .nil
    | @cons m a ms as hm _ ih =>
      obtain ⟨name, v⟩ := m
      obtain ⟨name', x⟩ := a
      obtain ⟨rfl, hv⟩ : name = name' ∧ Reads value v x := hm
      intro before
      have hmore := ih ((name, x) :: before)
      rw [← List.singleton_append, ← List.append_assoc, ← List.reverse_cons] at hmore
      exact .cons (readsMember_keepMember hv before name) hmore
  have hresult := foldMembers_append (hfold []) htext (htext.length_lt_fuel rest) rest
  rw [List.append_nil] at hresult
  exact hresult

/-- An array is closed by its bracket. -/
lemma closeArray_cons (rest : List Char) : closeArray (']' :: rest) = .ok rest := by
  rw [closeArray, skipGap_cons rfl]
  rfl

/-- An object is closed by its brace. -/
lemma closeObject_cons (rest : List Char) : closeObject ('}' :: rest) = .ok rest := by
  rw [closeObject, skipGap_cons rfl]
  rfl

/-! ### Values of one kind -/

/-- A string is read from each text of it. -/
theorem reads_readString (s : String) : Reads readString (.string s) s := by
  intro gap cs rest hgap htext _
  cases htext with
  | @string _ cs h =>
    have hskip := skipGap_append_cons (c := '"') hgap rfl (cs ++ '"' :: rest)
    have hquoted := readQuoted_of_stringText h rest
    simp only [List.cons_append, List.append_assoc, List.nil_append, readString, hskip, hquoted]

/-- A string is read from each text of it where it may be missing.

**Proof sketch.** The text begins with a quote, so it is not `null`, and the string is read as one
that has to be there. -/
theorem reads_readOptionalString (s : String) :
    Reads readOptionalString (.string s) (some s) := by
  intro gap cs rest hgap htext hrest
  have hstring := reads_readString s [] cs rest gap_nil htext hrest
  cases htext with
  | @string _ cs h =>
    have hskip := skipGap_append_cons (c := '"') hgap rfl (cs ++ '"' :: rest)
    simp only [List.cons_append, List.append_assoc, List.nil_append] at hstring ⊢
    rw [readOptionalString, hskip]
    show (readString _ >>= _) = _
    rw [hstring]
    rfl

/-- A number that is not negative is read from its digits. -/
lemma readNumber_integer {n : Nat} (hn : n < 2 ^ 64) (hrest : Delimited rest) :
    readNumber false (Nat.toDigits 10 n ++ rest) = .ok (.integer n, rest) := by
  rw [readNumber_toDigits hn (startsWithDigit_of_delimited hrest),
    readNumberEnd_of_delimited hrest]
  rfl

/-- A negative number is read from its digits behind the sign. -/
lemma readNumber_negative {n : Nat} (hpos : 0 < n) (hn : n ≤ 2 ^ 63) (hrest : Delimited rest) :
    readNumber true (Nat.toDigits 10 n ++ rest) = .ok (.integer (-n), rest) := by
  have hlarge : n < 2 ^ 64 := by omega
  have hpower : Nat.pow 2 63 = 2 ^ 63 := rfl
  have hkept : ¬ (n = 0 ∨ Nat.pow 2 63 < n) := by omega
  rw [readNumber_toDigits hlarge (startsWithDigit_of_delimited hrest),
    readNumberEnd_of_delimited hrest, if_neg (by decide), if_neg hkept]

/-- A number that is not negative is read from its text as one of so many bits if it is in their
range.

**Proof sketch.** The text starts with a digit, since the number is not negative, and it is read up
to its last digit. Then the range is all that is checked. -/
theorem reads_readUnsigned {bits n : Nat} (hn : n < 2 ^ bits) :
    Reads (readUnsigned bits) (.integer n) n := by
  intro gap cs rest hgap htext hrest
  cases htext with
  | integer hlow hhigh =>
    have hnatAbs : (n : Int).natAbs = n := rfl
    rcases integerChars_cases n with ⟨hneg, -⟩ | ⟨-, c, cs, hc, hcs, hdigits⟩
    · omega
    · have hskip := skipGap_append_cons hgap (isGap_eq_false_of_isDigit hc) (cs ++ rest)
      have hnumber := readNumber_integer (n := n) (by omega) hrest
      rw [hnatAbs] at hdigits
      rw [hdigits, List.cons_append] at hnumber
      have hminus : c ≠ '-' := ne_of_isDigit hc (by decide)
      have hrange : ¬ (2 : Int) ^ bits ≤ n := by
        have hcast : (n : Int) < 2 ^ bits := by exact_mod_cast hn
        exact Int.not_le.2 hcast
      rw [hcs, List.cons_append]
      simp [readUnsigned, hskip, isDigit_iff.2 hc, hnumber, bind, Except.bind, hrange]

/-! ### Maps of strings -/

/-- An object with string values is read as a map if its names increase.

**Proof sketch.** The members are read in reverse order and set in order. Names that increase are
different, so each entry is set once and stands where it stood. -/
theorem reads_readStringMap (m : FieldMap) :
    Reads readStringMap (.object (m.entries.map fun e => (e.1, .string e.2))) m := by
  intro gap cs rest hgap htext _
  cases htext with
  | @object _ cs h =>
    have hmembers : List.Forall₂
        (fun (m : String × Json) (a : String × String) => m.1 = a.1 ∧ Reads readString m.2 a.2)
        (m.entries.map fun e => (e.1, .string e.2)) m.entries := by
      rw [List.forall₂_map_left_iff, List.forall₂_same]
      exact fun e _ => ⟨rfl, reads_readString e.2⟩
    have hread := readMembers_append hmembers h rest
    have hskip := skipGap_append_cons (c := '{') hgap rfl (cs ++ rest)
    have hsame : FieldMap.ofList m.entries = m := by
      obtain ⟨entries, hincreasing⟩ := m
      simp [FieldMap.ofList, Sorted.ofList_of_increasing hincreasing]
    rw [readStringMap, List.cons_append, hskip]
    simp [hread, closeObject_cons, hsame, bind, Except.bind]

/-! ### Values of any kind -/

variable {arrange : List (String × Json) → List (String × Json)} {depth : Nat}

/-- To arrange the members of values leaves the names of an object alone. -/
lemma names_arrangedMembers (ms : List (String × Json)) :
    (arrangedMembers arrange ms).map Prod.fst = ms.map Prod.fst := by
  induction ms with
  | nil => rfl
  | cons m ms ih => rw [arrangedMembers, List.map_cons, ih, List.map_cons]

/-- Items are read as the arranged ones if each is. -/
lemma forall₂_arrangedItems {item : Reader Json}
    (h : ∀ v ∈ vs, Reads item v (v.arranged arrange)) :
    List.Forall₂ (Reads item) vs (arrangedItems arrange vs) := by
  induction vs with
  | nil => exact .nil
  | cons v vs ih =>
    rw [List.forall_mem_cons] at h
    exact .cons h.1 (ih h.2)

/-- Members are read as the arranged ones, under their names, if the value of each is. -/
lemma forall₂_arrangedMembers {value : Reader Json}
    (h : ∀ m ∈ ms, Reads value m.2 (m.2.arranged arrange)) :
    List.Forall₂ (fun m a => m.1 = a.1 ∧ Reads value m.2 a.2) ms (arrangedMembers arrange ms) := by
  induction ms with
  | nil => exact .nil
  | cons m ms ih =>
    rw [List.forall_mem_cons] at h
    exact .cons ⟨rfl, h.1⟩ (ih h.2)

/-- A whole number is read by its first character, which is a sign or a digit and begins no other
value.

**Proof sketch.** By the sign. A negative number is read behind its sign; another one begins with a
digit, so none of the other branches of the reader is taken. -/
lemma reads_readArranged_integer {n : Int} :
    Reads (readArranged arrange depth) (.integer n) (.integer n) := by
  intro gap cs rest hgap htext hrest
  cases htext with
  | integer hlow hhigh =>
    rcases integerChars_cases n with ⟨hneg, hcs⟩ | ⟨hpos, c, cs, hc, hcs, hdigits⟩
    · have hskip := skipGap_append_cons (c := '-') hgap rfl (Nat.toDigits 10 n.natAbs ++ rest)
      have hnumber := readNumber_negative (n := n.natAbs) (by omega) (by omega) hrest
      have hvalue : -(n.natAbs : Int) = n := by omega
      rw [hvalue] at hnumber
      rw [hcs, List.cons_append, readArranged, hskip]
      exact hnumber
    · have hskip := skipGap_append_cons hgap (isGap_eq_false_of_isDigit hc) (cs ++ rest)
      have hnumber := readNumber_integer (n := n.natAbs) (by omega) hrest
      have hvalue : (n.natAbs : Int) = n := by omega
      rw [hdigits, List.cons_append, hvalue] at hnumber
      -- the first character is none of those that open another value
      have hn : c ≠ 'n' := ne_of_isDigit hc (by decide)
      have ht : c ≠ 't' := ne_of_isDigit hc (by decide)
      have hf : c ≠ 'f' := ne_of_isDigit hc (by decide)
      have hquote : c ≠ '"' := ne_of_isDigit hc (by decide)
      have hminus : c ≠ '-' := ne_of_isDigit hc (by decide)
      have hbracket : c ≠ '[' := ne_of_isDigit hc (by decide)
      have hbrace : c ≠ '{' := ne_of_isDigit hc (by decide)
      rw [hcs, List.cons_append, readArranged, hskip]
      simp [isDigit_iff.2 hc, hnumber]

/-- A value without items and members is read at any depth, since none is left to be gone into.

**Proof sketch.** One case for each form of a text. Arrays and objects are excluded. -/
lemma reads_readArranged_scalar (h : v.Kept 0) :
    Reads (readArranged arrange depth) v (v.arranged arrange) := by
  intro gap cs rest hgap htext hrest
  cases htext with
  | null =>
    have hskip := skipGap_append_cons (c := 'n') hgap rfl ('u' :: 'l' :: 'l' :: rest)
    simp [readArranged, hskip, readWord, arranged, bind, Except.bind]
  | yes =>
    have hskip := skipGap_append_cons (c := 't') hgap rfl ('r' :: 'u' :: 'e' :: rest)
    simp [readArranged, hskip, readWord, arranged, bind, Except.bind]
  | no =>
    have hskip := skipGap_append_cons (c := 'f') hgap rfl ('a' :: 'l' :: 's' :: 'e' :: rest)
    simp [readArranged, hskip, readWord, arranged, bind, Except.bind]
  | integer hlow hhigh =>
    exact reads_readArranged_integer gap _ rest hgap (.integer hlow hhigh) hrest
  | @string s cs hs =>
    have hskip := skipGap_append_cons (c := '"') hgap rfl (cs ++ '"' :: rest)
    have hquoted := readQuoted_of_stringText hs rest
    simp [readArranged, hskip, hquoted, arranged, bind, Except.bind]
  | array _ => exact h.elim
  | object _ => exact h.elim

/-- **A value is read from each of its texts**, with the members of its objects arranged.

**Proof sketch.** Induction on the depth. What stands in an array or object is read by the reader
for the depth below, so it is read by the hypothesis. -/
theorem reads_readArranged (h : v.Kept depth) :
    Reads (readArranged arrange depth) v (v.arranged arrange) := by
  induction depth generalizing v with
  | zero => exact reads_readArranged_scalar h
  | succ depth ih =>
    cases v with
    | array vs =>
      intro gap cs rest hgap htext _
      cases htext with
      | @array _ cs htext =>
        have hitems := forall₂_arrangedItems fun v hv => ih (h v hv)
        have hread := readItems_append hitems htext (htext.length_lt_fuel rest) rest
        rw [List.length_append] at hread
        have hskip := skipGap_append_cons (c := '[') hgap rfl (cs ++ rest)
        rw [List.cons_append, readArranged, hskip]
        simp [hread, closeArray_cons, arranged, bind, Except.bind]
    | object ms =>
      intro gap cs rest hgap htext _
      cases htext with
      | @object _ cs htext =>
        have hmembers := forall₂_arrangedMembers fun m hm => ih (h m hm)
        have hread := readMembers_append hmembers htext rest
        have hskip := skipGap_append_cons (c := '{') hgap rfl (cs ++ rest)
        rw [List.cons_append, readArranged, hskip]
        simp [hread, closeObject_cons, arranged, bind, Except.bind]
    | _ => exact reads_readArranged_scalar h

/-! ### Whole texts -/

/-- What a reader makes of a value it makes of a whole text of it. -/
theorem readAll_of_isText {reader : Reader α} {a : α} (h : Reads reader v a) (htext : v.IsText cs) :
    readAll reader cs = .ok a := by
  have hread := h [] cs [] gap_nil htext delimited_nil
  rw [List.nil_append, List.append_nil] at hread
  simp [readAll, hread, skipGap, bind, Except.bind]

/-- The value of a text has the members of its objects in the order of their names. -/
theorem parse?_of_isText (h : v.Kept depthLimit) {text : String} (htext : v.IsText text.toList) :
    parse? text = some (v.arranged Sorted.ofList) := by
  have hreads : Reads (readValue depthLimit) v (v.arranged Sorted.ofList) := reads_readArranged h
  rw [parse?, readAll_of_isText hreads htext]
  rfl

mutual

/-- If nothing is arranged the value stays as it is. -/
lemma arranged_id : ∀ v : Json, v.arranged id = v
  | .null => rfl
  | .bool _ => rfl
  | .integer _ => rfl
  | .float _ => rfl
  | .string _ => rfl
  | .array vs => by rw [arranged, arrangedItems_id vs]
  | .object ms => by rw [arranged, arrangedMembers_id ms, id]

/-- If nothing is arranged the items stay as they are. -/
lemma arrangedItems_id : ∀ vs : List Json, arrangedItems id vs = vs
  | [] => rfl
  | v :: vs => by rw [arrangedItems, arranged_id v, arrangedItems_id vs]

/-- If nothing is arranged the members stay as they are. -/
lemma arrangedMembers_id : ∀ ms : List (String × Json), arrangedMembers id ms = ms
  | [] => rfl
  | (name, v) :: ms => by rw [arrangedMembers, arranged_id v, arrangedMembers_id ms]

end

/-- The value of a text with the members of each object in the order of the text. -/
def parseInOrder? (text : String) : Option Json :=
  (readAll (readArranged id depthLimit) text.toList).toOption

/-- Members that are read in their order are those that were written. -/
theorem parseInOrder?_of_isText (h : v.Kept depthLimit) {text : String}
    (htext : v.IsText text.toList) : parseInOrder? text = some v := by
  have hreads : Reads (readArranged id depthLimit) v (v.arranged id) := reads_readArranged h
  rw [parseInOrder?, readAll_of_isText hreads htext, arranged_id]
  rfl

end RequestRunner.Json
