import RequestRunner.Proofs.Json.Reading

/-!
# Well-formed JSON

What JSON looks like, whatever it stands for: numbers of any size and precision, arrays and objects
down to some depth, and strings of one kind. Strings are of one kind if every escape in them is well
formed, and of another one if they are texts of characters, so that surrogates stand in pairs.

## Main definitions

* `Json.LooseString`, `Json.PairedString` — the two kinds of strings, without the quotes around them.
* `Json.NumberText`, `Json.KeptNumber` — the texts of numbers, and of those that are kept exactly.
* `Json.Formed` — the well-formed values, and the insides of arrays and objects.

## Main results

* `Json.Formed.exists_cons`, `Json.Formed.delimited_items` — what well-formed parts start with.
* `Json.Formed.stands` — what is well formed is a text of a value.
-/

namespace RequestRunner.Json

/-- Characters of a string in which the escapes are well formed, whatever they stand for. -/
inductive LooseString : List Char → Prop where
  | nil : LooseString []
  | plain {c : Char} {cs : List Char} (hquote : c ≠ '"') (hsolidus : c ≠ '\\')
      (hcontrol : 32 ≤ c.toNat) (h : LooseString cs) : LooseString (c :: cs)
  | letter {e : Char} {cs : List Char} (he : (shortEscape? e).isSome) (h : LooseString cs) :
      LooseString ('\\' :: e :: cs)
  | unit {n : Nat} {digits cs : List Char} (hdigits : UnitText n digits) (h : LooseString cs) :
      LooseString ('\\' :: 'u' :: (digits ++ cs))

/-- Characters of a string that are a text of other characters. -/
def PairedString (cs : List Char) : Prop := ∃ s, StringText s cs

/-- Decimal digits, one or more. -/
def Digits (cs : List Char) : Prop := cs ≠ [] ∧ ∀ c ∈ cs, isDigit c

/-- A zero, or digits of which the first one is none. -/
inductive WholeText : List Char → Prop where
  | zero : WholeText ['0']
  | digits {c : Char} {cs : List Char} (hzero : c ≠ '0') (h : Digits (c :: cs)) :
      WholeText (c :: cs)

/-- Nothing, or a point and digits. -/
inductive FractionText : List Char → Prop where
  | nil : FractionText []
  | point {cs : List Char} (h : Digits cs) : FractionText ('.' :: cs)

/-- Nothing, or a letter, a sign or none, and digits. -/
inductive ExponentText : List Char → Prop where
  | nil : ExponentText []
  | letter {e : Char} {sign cs : List Char} (he : e = 'e' ∨ e = 'E')
      (hsign : sign = [] ∨ sign = ['+'] ∨ sign = ['-']) (h : Digits cs) :
      ExponentText (e :: (sign ++ cs))

/-- A number without its sign. -/
inductive MagnitudeText : List Char → Prop where
  | parts {whole fraction exponent : List Char} (hwhole : WholeText whole)
      (hfraction : FractionText fraction) (hexponent : ExponentText exponent) :
      MagnitudeText (whole ++ (fraction ++ exponent))

/-- A number with a minus sign or without a sign. -/
inductive NumberText : List Char → Prop where
  | positive {cs : List Char} (h : MagnitudeText cs) : NumberText cs
  | negative {cs : List Char} (h : MagnitudeText cs) : NumberText ('-' :: cs)

/-- The digits of a whole number that is kept exactly when it is read, behind a minus sign if it is
negative. -/
def KeptNumber (cs : List Char) : Prop :=
  ∃ n : Int, -2 ^ 63 ≤ n ∧ n < 2 ^ 64 ∧ cs = integerChars n

/-- A value, the items of an array with its closing bracket, or the members of an object with its
closing brace; for the latter two it is told whether none came before. -/
inductive Part where
  | value
  | items (isFirst : Bool)
  | members (isFirst : Bool)

/-- The characters are such a part, with at most `depth` arrays and objects one inside the other,
and with the given strings and numbers. -/
inductive Formed (str num : List Char → Prop) : Nat → Part → List Char → Prop where
  | null {depth : Nat} : Formed str num depth .value ['n', 'u', 'l', 'l']
  | yes {depth : Nat} : Formed str num depth .value ['t', 'r', 'u', 'e']
  | no {depth : Nat} : Formed str num depth .value ['f', 'a', 'l', 's', 'e']
  | number {depth : Nat} {cs : List Char} (h : num cs) : Formed str num depth .value cs
  | string {depth : Nat} {cs : List Char} (h : str cs) :
      Formed str num depth .value ('"' :: (cs ++ ['"']))
  | array {depth : Nat} {cs : List Char} (h : Formed str num depth (.items true) cs) :
      Formed str num (depth + 1) .value ('[' :: cs)
  | object {depth : Nat} {cs : List Char} (h : Formed str num depth (.members true) cs) :
      Formed str num (depth + 1) .value ('{' :: cs)
  | closeItems {depth : Nat} {isFirst : Bool} {gap : List Char} (hgap : Gap gap) :
      Formed str num depth (.items isFirst) (gap ++ [']'])
  | item {depth : Nat} {isFirst : Bool} {lead cs more : List Char} (hlead : Lead isFirst lead)
      (hv : Formed str num depth .value cs) (h : Formed str num depth (.items false) more) :
      Formed str num depth (.items isFirst) (lead ++ (cs ++ more))
  | closeMembers {depth : Nat} {isFirst : Bool} {gap : List Char} (hgap : Gap gap) :
      Formed str num depth (.members isFirst) (gap ++ ['}'])
  | member {depth : Nat} {isFirst : Bool} {lead quoted gap gap' cs more : List Char}
      (hlead : Lead isFirst lead) (hname : str quoted) (hgap : Gap gap) (hgap' : Gap gap')
      (hv : Formed str num depth .value cs) (h : Formed str num depth (.members false) more) :
      Formed str num depth (.members isFirst)
        (lead ++ '"' :: (quoted ++ '"' :: (gap ++ ':' :: (gap' ++ (cs ++ more)))))

variable {str num : List Char → Prop} {depth : Nat} {isFirst : Bool} {cs : List Char}

/-! ### The kinds of strings -/

/-- Strings in which surrogates stand in pairs are well formed. -/
lemma StringText.loose {s : List Char} (h : StringText s cs) : LooseString cs := by
  induction h with
  | nil => exact .nil
  | plain hquote hsolidus hcontrol _ ih => exact .plain hquote hsolidus hcontrol ih
  | @escape c s form cs hform _ ih =>
    cases hform with
    | letter he => exact .letter (Option.isSome_of_eq_some he) ih
    | unit hunit => exact .unit hunit ih
    | pair hunit hunit' _ _ _ =>
      rw [List.cons_append, List.append_assoc]
      exact .unit hunit (.unit hunit' ih)

/-! ### What well-formed parts start with -/

/-- The whole part of a number starts with a digit. -/
lemma WholeText.exists_cons (h : WholeText cs) : ∃ c cs', cs = c :: cs' ∧ isDigit c := by
  cases h with
  | zero => exact ⟨_, _, rfl, rfl⟩
  | digits _ h => exact ⟨_, _, rfl, h.2 _ List.mem_cons_self⟩

/-- A number without its sign starts with a digit. -/
lemma MagnitudeText.exists_cons (h : MagnitudeText cs) : ∃ c cs', cs = c :: cs' ∧ isDigit c := by
  obtain ⟨hwhole, -, -⟩ := h
  obtain ⟨c, cs', rfl, hc⟩ := hwhole.exists_cons
  exact ⟨c, _, rfl, hc⟩

/-- A value starts with neither a gap nor a closing bracket. -/
lemma Formed.exists_cons (h : Formed str NumberText depth .value cs) :
    ∃ c cs', cs = c :: cs' ∧ isGap c = false ∧ c ≠ ']' := by
  cases h with
  | number h =>
    cases h with
    | positive h =>
      obtain ⟨c, cs', rfl, hc⟩ := h.exists_cons
      have hdigit := isDigit_iff.1 hc
      exact ⟨c, cs', rfl, isGap_eq_false_of_isDigit hdigit, ne_of_isDigit hdigit (by decide)⟩
    | negative _ => exact ⟨_, _, rfl, rfl, by decide⟩
  | _ => exact ⟨_, _, rfl, rfl, by decide⟩

/-- Further items can stand behind an item. -/
lemma Formed.delimited_items (h : Formed str num depth (.items false) cs) (rest : List Char) :
    Delimited (cs ++ rest) := by
  cases h with
  | closeItems hgap =>
    rw [List.append_assoc]
    exact delimited_append_cons hgap (.inr (.inl rfl)) rest
  | item hlead _ _ =>
    rw [List.append_assoc]
    exact hlead.delimited _

/-- Further members can stand behind the value of a member. -/
lemma Formed.delimited_members (h : Formed str num depth (.members false) cs) (rest : List Char) :
    Delimited (cs ++ rest) := by
  cases h with
  | closeMembers hgap =>
    rw [List.append_assoc]
    exact delimited_append_cons hgap (.inr (.inr rfl)) rest
  | member hlead _ _ _ _ _ =>
    rw [List.append_assoc]
    exact hlead.delimited _

/-! ### What well-formed parts stand for -/

/-- The part is a text of something that is not deeper than that. -/
def Stands (depth : Nat) : Part → List Char → Prop
  | .value, cs => ∃ v : Json, v.IsText cs ∧ v.Kept depth
  | .items isFirst, cs => ∃ vs, ItemsText isFirst vs cs ∧ ∀ v ∈ vs, v.Kept depth
  | .members isFirst, cs => ∃ ms, MembersText isFirst ms cs ∧ ∀ m ∈ ms, m.2.Kept depth

/-- **What is well formed stands for something**, if its surrogates stand in pairs and its numbers
are kept exactly. By induction on the form: each part is a text of what its own parts stand for. -/
theorem Formed.stands {part : Part} (h : Formed PairedString KeptNumber depth part cs) :
    Stands depth part cs := by
  induction h with
  | null => exact ⟨.null, .null, Kept.of_zero trivial⟩
  | yes => exact ⟨.bool true, .yes, Kept.of_zero trivial⟩
  | no => exact ⟨.bool false, .no, Kept.of_zero trivial⟩
  | number h =>
    obtain ⟨n, hlow, hhigh, rfl⟩ := h
    exact ⟨.integer n, .integer hlow hhigh, Kept.of_zero ⟨hlow, hhigh⟩⟩
  | string h =>
    obtain ⟨s, hs⟩ := h
    rw [← String.toList_ofList (l := s)] at hs
    exact ⟨.string (String.ofList s), .string hs, Kept.of_zero trivial⟩
  | array _ ih =>
    obtain ⟨vs, htext, hkept⟩ := ih
    exact ⟨.array vs, .array htext, hkept⟩
  | object _ ih =>
    obtain ⟨ms, htext, hkept⟩ := ih
    exact ⟨.object ms, .object htext, hkept⟩
  | closeItems hgap => exact ⟨[], .close hgap, by simp⟩
  | item hlead _ _ ihv ih =>
    obtain ⟨v, htext, hv⟩ := ihv
    obtain ⟨vs, hmore, hvs⟩ := ih
    exact ⟨v :: vs, .item hlead htext hmore, List.forall_mem_cons.2 ⟨hv, hvs⟩⟩
  | closeMembers hgap => exact ⟨[], .close hgap, by simp⟩
  | member hlead hname hgap hgap' _ _ ihv ih =>
    obtain ⟨name, hname⟩ := hname
    rw [← String.toList_ofList (l := name)] at hname
    obtain ⟨v, htext, hv⟩ := ihv
    obtain ⟨ms, hmore, hms⟩ := ih
    exact ⟨(String.ofList name, v) :: ms, .member hlead hname hgap hgap' htext hmore,
      List.forall_mem_cons.2 ⟨hv, hms⟩⟩

end RequestRunner.Json
