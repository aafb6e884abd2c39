import RequestRunner.Json.Reader

/-!
# Records in JSON

A record is written as an object, or as an array of its values in order. Each member is read by its
own reader; one that comes twice and one that is lacking are faults, placed behind the bracket that
ends the record if it comes next.

## Main definitions

* `Json.readField`, `Json.require` — a member while an object is read, and after it.
* `Json.readItem`, `Json.readItem?` — a value of an array, which may be lacking or not.
-/

namespace RequestRunner.Json

/-- Behind an object that a fault ends inside: past its closing brace if that comes next. -/
def afterObject (cs : List Char) : List Char :=
  match skipGap cs with
  | '}' :: rest => rest
  | rest => rest

/-- Behind an array that a fault ends inside: past its closing bracket, or else past a comma. -/
def afterArray (cs : List Char) : List Char :=
  match skipGap cs with
  | ']' :: rest => rest
  | ',' :: rest => skipGap rest
  | rest => rest

/-- The value of a member that was not read before. -/
def readField {α : Type} (name : String) (old : Option α) (value : Reader α) : Reader α :=
  fun cs =>
    if old.isSome then failAt (.repeated name) (afterObject cs)
    else do
      let rest ← readColon cs
      value rest

/-- The member that was read, or a fault behind the object that lacks it. -/
def require {α : Type} (name : String) (value : Option α) (cs : List Char) : Except Fault α :=
  match value with
  | some v => .ok v
  | none => failAt (.missing name) (afterObject cs)

/-- Reads the value number `index` of an array, `none` if the array ends before it. -/
def readItem? {α : Type} (value : Reader α) (index : Nat) : Reader (Option α) := fun cs =>
  match skipGap cs with
  | [] => failBehind .endInList []
  | ']' :: rest => .ok (none, ']' :: rest)
  | c :: rest => do
    let start ←
      if index = 0 then Except.ok (c :: rest)
      else if c = ',' then
        match skipGap rest with
        | [] => failBehind .endInValue []
        | ']' :: more => failBehind .trailingComma (']' :: more)
        | more => Except.ok more
      else failBehind .expectedListEnd (c :: rest)
    let (v, rest) ← value start
    .ok (some v, rest)

/-- Reads the value number `index` of an array of `count` values. -/
def readItem {α : Type} (value : Reader α) (index count : Nat) (type : String) : Reader α :=
  fun cs => do
    let (v, rest) ← readItem? value index cs
    match v with
    | some v => .ok (v, rest)
    | none =>
      failAt (.wrongLength index (type ++ " with " ++ Text.decimal count ++ " elements"))
        (afterArray rest)

end RequestRunner.Json
