import Mathlib.Algebra.Group.Int.Defs
import Mathlib.Algebra.Group.Nat.Defs
import Mathlib.Data.List.Basic
import RequestRunner.Json.Reader

/-!
# The texts of a JSON value

A value has many texts. There may be gaps between the tokens, and a character of a string may be
written as itself, if it may stand there, or behind a reverse solidus in one of several forms. The
members of an object stand in their order. Of the numbers only those whole ones have a text here that
are kept exactly when they are read.

## Main definitions

* `Json.Gap`, `Json.Lead` — what may stand between the tokens.
* `Json.UnitText`, `Json.EscapeText`, `Json.StringText` — the texts of the characters of a string.
* `Json.IsText` — the texts of a value.
* `Json.Kept` — the values that have a text, up to some depth.
* `Json.Layout` — the equations of a printer, for both forms of texts.

## Main results

* `Json.Layout.isText` — what is laid out of a value is a text of it.
* `Json.isText_compact`, `Json.isText_pretty` — so are the compact and the pretty text.
-/

namespace RequestRunner.Json

/-! ### The grammar -/

/-- Characters that may stand between the tokens. -/
def Gap (cs : List Char) : Prop := ∀ c ∈ cs, isGap c

/-- What stands before an item or a member: a gap, with a comma in it unless it is the first one. -/
def Lead : Bool → List Char → Prop
  | true, cs => Gap cs
  | false, cs => ∃ gap gap', Gap gap ∧ Gap gap' ∧ cs = gap ++ ',' :: gap'

/-- Four hexadecimal digits of either case that write a number. -/
inductive UnitText : Nat → List Char → Prop where
  | digits {c₁ c₂ c₃ c₄ : Char} {n₁ n₂ n₃ n₄ : Nat} (h₁ : Text.hexValue c₁ = some n₁)
      (h₂ : Text.hexValue c₂ = some n₂) (h₃ : Text.hexValue c₃ = some n₃)
      (h₄ : Text.hexValue c₄ = some n₄) :
      UnitText (((n₁ * 16 + n₂) * 16 + n₃) * 16 + n₄) [c₁, c₂, c₃, c₄]

/-- What may stand for a character behind a reverse solidus: a letter, the number of the character,
or those of the two surrogates that it is written as. -/
inductive EscapeText (c : Char) : List Char → Prop where
  | letter {e : Char} (h : shortEscape? e = some c) : EscapeText c [e]
  | unit {cs : List Char} (h : UnitText c.toNat cs) : EscapeText c ('u' :: cs)
  | pair {high low : Nat} {cs cs' : List Char} (h : UnitText high cs) (h' : UnitText low cs')
      (hhigh : 0xD800 ≤ high ∧ high ≤ 0xDBFF) (hlow : 0xDC00 ≤ low ∧ low ≤ 0xDFFF)
      (hc : (high - 0xD800) * 1024 + (low - 0xDC00) + 0x10000 = c.toNat) :
      EscapeText c ('u' :: (cs ++ '\\' :: 'u' :: cs'))

/-- The texts of the characters of a string, without the quotes around them. -/
inductive StringText : List Char → List Char → Prop where
  | nil : StringText [] []
  | plain {c : Char} {s cs : List Char} (hquote : c ≠ '"') (hsolidus : c ≠ '\\')
      (hcontrol : 32 ≤ c.toNat) (h : StringText s cs) : StringText (c :: s) (c :: cs)
  | escape {c : Char} {s form cs : List Char} (hform : EscapeText c form) (h : StringText s cs) :
      StringText (c :: s) ('\\' :: (form ++ cs))

mutual

/-- The texts of a value. -/
inductive IsText : Json → List Char → Prop where
  | null : IsText .null ['n', 'u', 'l', 'l']
  | yes : IsText (.bool true) ['t', 'r', 'u', 'e']
  | no : IsText (.bool false) ['f', 'a', 'l', 's', 'e']
  | integer {n : Int} (hlow : -2 ^ 63 ≤ n) (hhigh : n < 2 ^ 64) :
      IsText (.integer n) (integerChars n)
  | string {s : String} {cs : List Char} (h : StringText s.toList cs) :
      IsText (.string s) ('"' :: (cs ++ ['"']))
  | array {vs : List Json} {cs : List Char} (h : ItemsText true vs cs) :
      IsText (.array vs) ('[' :: cs)
  | object {ms : List (String × Json)} {cs : List Char} (h : MembersText true ms cs) :
      IsText (.object ms) ('{' :: cs)

/-- The texts of the items of an array with its closing bracket; the first argument tells whether no
item came before. -/
inductive ItemsText : Bool → List Json → List Char → Prop where
  | close {isFirst : Bool} {gap : List Char} (hgap : Gap gap) : ItemsText isFirst [] (gap ++ [']'])
  | item {isFirst : Bool} {lead cs more : List Char} {v : Json} {vs : List Json}
      (hlead : Lead isFirst lead) (hv : IsText v cs) (h : ItemsText false vs more) :
      ItemsText isFirst (v :: vs) (lead ++ (cs ++ more))

/-- The texts of the members of an object with its closing brace; the first argument tells whether no
member came before. -/
inductive MembersText : Bool → List (String × Json) → List Char → Prop where
  | close {isFirst : Bool} {gap : List Char} (hgap : Gap gap) :
      MembersText isFirst [] (gap ++ ['}'])
  | member {isFirst : Bool} {lead quoted gap gap' cs more : List Char} {name : String} {v : Json}
      {ms : List (String × Json)} (hlead : Lead isFirst lead)
      (hname : StringText name.toList quoted) (hgap : Gap gap) (hgap' : Gap gap')
      (hv : IsText v cs) (h : MembersText false ms more) :
      MembersText isFirst ((name, v) :: ms)
        (lead ++ '"' :: (quoted ++ '"' :: (gap ++ ':' :: (gap' ++ (cs ++ more)))))

end

/-- The value has at most `depth` arrays and objects one inside the other, and its numbers are whole
ones that are kept exactly. -/
def Kept : Nat → Json → Prop
  | _, .integer n => -2 ^ 63 ≤ n ∧ n < 2 ^ 64
  | _, .float _ => False
  | 0, .array _ => False
  | 0, .object _ => False
  | depth + 1, .array vs => ∀ v ∈ vs, Kept depth v
  | depth + 1, .object ms => ∀ m ∈ ms, Kept depth m.2
  | _, .null => True
  | _, .bool _ => True
  | _, .string _ => True

variable {v : Json} {vs : List Json} {ms : List (String × Json)} {cs : List Char} {depth : Nat}
  {isFirst : Bool}

/-- A value without items and members is kept at any depth. -/
lemma Kept.of_zero (h : v.Kept 0) : v.Kept depth := by
  cases depth with
  | zero => exact h
  | succ depth =>
    cases v with
    | array vs => exact h.elim
    | object ms => exact h.elim
    | _ => exact h

/-! ### Gaps -/

/-- Nothing is a gap. -/
lemma gap_nil : Gap [] := fun _ h => absurd h List.not_mem_nil

/-- A new line with its indentation is a gap. -/
lemma gap_newLine (depth : Nat) : Gap (newLine depth) := by
  intro c hc
  rcases List.mem_cons.1 hc with rfl | hc
  · rfl
  · rw [List.eq_of_mem_replicate hc]
    rfl

/-- A space is a gap. -/
lemma gap_space : Gap [' '] := by
  intro c hc
  rw [List.mem_singleton.1 hc]
  rfl

/-- A comma and a gap stand before an item that is not the first one. -/
lemma lead_comma {gap : List Char} (h : Gap gap) : Lead false (',' :: gap) :=
  ⟨[], gap, gap_nil, h, rfl⟩

/-! ### Strings -/

/-- A digit that is printed has the value that it is printed for. -/
lemma hexValue_digitChar : ∀ n < 16, Text.hexValue (Nat.digitChar n) = some n := by decide

/-- The number of a character below U+0020 is written with two zeros in front. So the four digits
that a text must have are there. -/
lemma unitText_of_lt {n : Nat} (h : n < 32) :
    UnitText n (['0', '0'] ++ (Nat.toDigits 16 (n / 16) ++ Nat.toDigits 16 (n % 16))) := by
  have hhigh : n / 16 < 16 := by omega
  have hlow : n % 16 < 16 := by omega
  have hn : ((0 * 16 + 0) * 16 + n / 16) * 16 + n % 16 = n := by omega
  rw [Nat.toDigits_of_lt_base hhigh, Nat.toDigits_of_lt_base hlow]
  nth_rewrite 1 [← hn]
  exact .digits rfl rfl (hexValue_digitChar _ hhigh) (hexValue_digitChar _ hlow)

/-- A character is printed as itself or behind a reverse solidus. The characters that are printed as
themselves are those that may stand in a string.

**Proof sketch.** One case for each check that printing makes. The two characters and the five
control characters that have a letter are printed with it, any other control character with its
number. -/
lemma escape_cases (c : Char) :
    (escape c = [c] ∧ c ≠ '"' ∧ c ≠ '\\' ∧ 32 ≤ c.toNat) ∨
      ∃ form, escape c = '\\' :: form ∧ EscapeText c form := by
  unfold escape
  split
  · subst c
    exact .inr ⟨['"'], rfl, .letter rfl⟩
  split
  · subst c
    exact .inr ⟨['\\'], rfl, .letter rfl⟩
  split
  · subst c
    exact .inr ⟨['b'], rfl, .letter rfl⟩
  split
  · subst c
    exact .inr ⟨['f'], rfl, .letter rfl⟩
  split
  · subst c
    exact .inr ⟨['n'], rfl, .letter rfl⟩
  split
  · subst c
    exact .inr ⟨['r'], rfl, .letter rfl⟩
  split
  · subst c
    exact .inr ⟨['t'], rfl, .letter rfl⟩
  split
  · rename_i hcontrol
    exact .inr ⟨_, rfl, .unit (unitText_of_lt hcontrol)⟩
  · rename_i hquote hsolidus _ _ _ _ _ hcontrol
    exact .inl ⟨rfl, hquote, hsolidus, Nat.not_lt.1 hcontrol⟩

/-- **What is printed of a string** is a text of it, by induction on its characters. -/
theorem stringText_escape (s : List Char) : StringText s (s.flatMap escape) := by
  induction s with
  | nil => exact .nil
  | cons c s ih =>
    rw [List.flatMap_cons]
    rcases escape_cases c with ⟨he, hquote, hsolidus, hcontrol⟩ | ⟨form, he, hform⟩
    · rw [he, List.singleton_append]
      exact .plain hquote hsolidus hcontrol ih
    · rw [he, List.cons_append]
      exact .escape hform ih

/-! ### Layouts -/

/-- The equations of what prints values, further items and further members: `gap d` stands before
what is at the indentation `d`, and `colon` behind the colons. -/
structure Layout (gap : Nat → List Char) (colon : List Char) (print : Nat → Json → List Char)
    (printItems : Nat → List Json → List Char)
    (printMembers : Nat → List (String × Json) → List Char) : Prop where
  gap_gap : ∀ d, Gap (gap d)
  gap_colon : Gap colon
  print_scalar : ∀ d v, v.Kept 0 → print d v = v.compactChars
  print_array_nil : ∀ d, print d (.array []) = ['[', ']']
  print_array_cons : ∀ d v vs, print d (.array (v :: vs)) =
    '[' :: (gap (d + 1) ++ (print (d + 1) v ++ printItems d vs))
  print_object_nil : ∀ d, print d (.object []) = ['{', '}']
  print_object_cons : ∀ d name v ms, print d (.object ((name, v) :: ms)) =
    '{' :: (gap (d + 1) ++
      (quoteChars name ++ ':' :: (colon ++ (print (d + 1) v ++ printMembers d ms))))
  printItems_nil : ∀ d, printItems d [] = gap d ++ [']']
  printItems_cons : ∀ d v vs, printItems d (v :: vs) =
    ',' :: (gap (d + 1) ++ (print (d + 1) v ++ printItems d vs))
  printMembers_nil : ∀ d, printMembers d [] = gap d ++ ['}']
  printMembers_cons : ∀ d name v ms, printMembers d ((name, v) :: ms) =
    ',' :: (gap (d + 1) ++
      (quoteChars name ++ ':' :: (colon ++ (print (d + 1) v ++ printMembers d ms))))

/-- Compact texts are laid out without any gaps. -/
lemma layout_compactChars : Layout (fun _ => []) [] (fun _ => compactChars) (fun _ => compactItems)
    (fun _ => compactMembers) where
  gap_gap _ := gap_nil
  gap_colon := gap_nil
  print_scalar _ _ _ := rfl
  print_array_nil _ := rfl
  print_array_cons _ _ _ := rfl
  print_object_nil _ := rfl
  print_object_cons _ _ _ _ := rfl
  printItems_nil _ := rfl
  printItems_cons _ _ _ := rfl
  printMembers_nil _ := rfl
  printMembers_cons _ _ _ _ := rfl

/-- Pretty texts are laid out with a new line for each item and member. -/
lemma layout_prettyChars : Layout newLine [' '] prettyChars prettyItems prettyMembers where
  gap_gap := gap_newLine
  gap_colon := gap_space
  print_scalar d v h := by
    cases v with
    | bool b => cases b <;> rfl
    | array vs => exact h.elim
    | object ms => exact h.elim
    | _ => rfl
  print_array_nil _ := rfl
  print_array_cons _ _ _ := rfl
  print_object_nil _ := rfl
  print_object_cons _ _ _ _ := rfl
  printItems_nil _ := rfl
  printItems_cons _ _ _ := rfl
  printMembers_nil _ := rfl
  printMembers_cons _ _ _ _ := rfl

namespace Layout

variable {gap : Nat → List Char} {colon lead : List Char} {print : Nat → Json → List Char}
  {printItems : Nat → List Json → List Char}
  {printMembers : Nat → List (String × Json) → List Char}
  (hlayout : Layout gap colon print printItems printMembers) {d : Nat}

include hlayout

/-- A value without items and members is printed as a text of it. -/
lemma isText_scalar (h : v.Kept 0) : v.IsText (print d v) := by
  rw [hlayout.print_scalar d v h]
  cases v with
  | null => exact .null
  | bool b => cases b <;> constructor
  | integer n => exact .integer h.1 h.2
  | float x => exact h.elim
  | string s => exact .string (stringText_escape s.toList)
  | array vs => exact h.elim
  | object ms => exact h.elim

/-- Further items are printed as texts of them if each is. -/
lemma itemsText (h : ∀ v ∈ vs, v.IsText (print (d + 1) v)) :
    ItemsText false vs (printItems d vs) := by
  induction vs with
  | nil =>
    rw [hlayout.printItems_nil]
    exact .close (hlayout.gap_gap d)
  | cons v vs ih =>
    rw [List.forall_mem_cons] at h
    rw [hlayout.printItems_cons]
    exact .item (lead_comma (hlayout.gap_gap (d + 1))) h.1 (ih h.2)

/-- A member is printed behind its lead, and the further ones behind it. -/
lemma membersText_cons {name : String} (hlead : Lead isFirst lead)
    (hv : v.IsText (print (d + 1) v)) (hms : MembersText false ms (printMembers d ms)) :
    MembersText isFirst ((name, v) :: ms) (lead ++
      (quoteChars name ++ ':' :: (colon ++ (print (d + 1) v ++ printMembers d ms)))) := by
  have htext := MembersText.member hlead (stringText_escape name.toList) gap_nil hlayout.gap_colon
    hv hms
  simpa [quoteChars] using htext

/-- Further members are printed as texts of them if the value of each is. -/
lemma membersText (h : ∀ m ∈ ms, m.2.IsText (print (d + 1) m.2)) :
    MembersText false ms (printMembers d ms) := by
  induction ms with
  | nil =>
    rw [hlayout.printMembers_nil]
    exact .close (hlayout.gap_gap d)
  | cons m ms ih =>
    obtain ⟨name, v⟩ := m
    rw [List.forall_mem_cons] at h
    rw [hlayout.printMembers_cons]
    exact hlayout.membersText_cons (lead_comma (hlayout.gap_gap (d + 1))) h.1 (ih h.2)

/-- **What is laid out of a value** is a text of it.

**Proof sketch.** Induction on the depth, since the items of an array and the members of an object
are less deep than the value. -/
theorem isText (h : v.Kept depth) : v.IsText (print d v) := by
  induction depth generalizing v d with
  | zero => exact hlayout.isText_scalar h
  | succ depth ih =>
    cases v with
    | array vs =>
      have hitems : ∀ v ∈ vs, v.IsText (print (d + 1) v) := fun v hv => ih (h v hv)
      cases vs with
      | nil =>
        rw [hlayout.print_array_nil]
        exact .array (.close gap_nil)
      | cons v vs =>
        rw [List.forall_mem_cons] at hitems
        rw [hlayout.print_array_cons]
        have hlead : Lead true (gap (d + 1)) := hlayout.gap_gap (d + 1)
        exact .array (.item hlead hitems.1 (hlayout.itemsText hitems.2))
    | object ms =>
      have hmembers : ∀ m ∈ ms, m.2.IsText (print (d + 1) m.2) := fun m hm => ih (h m hm)
      cases ms with
      | nil =>
        rw [hlayout.print_object_nil]
        exact .object (.close gap_nil)
      | cons m ms =>
        obtain ⟨name, v⟩ := m
        rw [List.forall_mem_cons] at hmembers
        rw [hlayout.print_object_cons]
        have hlead : Lead true (gap (d + 1)) := hlayout.gap_gap (d + 1)
        exact .object (hlayout.membersText_cons hlead hmembers.1 (hlayout.membersText hmembers.2))
    | _ => exact hlayout.isText_scalar h

end Layout

/-- The compact text of a value is a text of it. -/
theorem isText_compact (h : v.Kept depth) : v.IsText v.compact.toList := by
  rw [compact, String.toList_ofList]
  exact layout_compactChars.isText h (d := 0)

/-- The pretty text of a value is a text of it. -/
theorem isText_pretty (h : v.Kept depth) : v.IsText v.pretty.toList := by
  rw [pretty, String.toList_ofList]
  exact layout_prettyChars.isText h

end RequestRunner.Json
