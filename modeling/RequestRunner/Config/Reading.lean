import RequestRunner.Config.Basic
import RequestRunner.Text.Blank
import RequestRunner.Yaml.Scalar

/-!
# Reading the configuration

The settings are a YAML mapping. What is not set keeps its default, other keys are passed over, and
a text of blanks sets nothing. Faults are found in the order of the text: one in a value that comes
before a fault of the YAML is found first.

## Main definitions

* `Config.Fault`, `Config.Fault.message` — why a text is no configuration.
* `Config.ofYaml` — the settings of a text.
-/

namespace RequestRunner.Config

open Yaml (Document Event Mark Meaning ScalarStyle)

/-- What is wrong with a value. -/
inductive Cause where
  | wrongType (found expected : String)
  | wrongValue (found expected : String)
  | repeated (field : String)
  deriving DecidableEq

/-- The words for a cause. -/
def Cause.message : Cause → String
  | wrongType found expected => "invalid type: " ++ found ++ ", expected " ++ expected
  | wrongValue found expected => "invalid value: " ++ found ++ ", expected " ++ expected
  | repeated field => "duplicate field `" ++ field ++ "`"

/-- Why a text is no configuration. -/
inductive Fault where
  | /-- The text is no YAML. -/
    yaml (fault : Yaml.Fault)
  | /-- The document ends too early. -/
    incomplete
  | /-- Something follows the document. -/
    manyDocuments
  | /-- A value is wrong; `field` is the key it stands under. -/
    value (cause : Cause) (field : Option String) (mark : Mark)
  deriving DecidableEq

/-- The words for a fault. -/
def Fault.message : Fault → String
  | yaml fault => fault.message
  | incomplete => "EOF while parsing a value"
  | manyDocuments => "deserializing from YAML containing more than one document is not supported"
  | value cause field mark =>
    (match field with
      | some name => name ++ ": "
      | none => "") ++ cause.message ++ mark.suffix

/-- An event with its place. -/
abbrev Node := Event × Mark

/-- The fault of a value that ends before it is whole. -/
def ended {α : Type} (document : Document) : Except Fault α :=
  .error ((document.fault.map .yaml).getD .incomplete)

/-- The first event of the node that an event stands for. -/
def resolve (document : Document) (node : Node) : Node :=
  match node.1 with
  | .aliasOf anchor =>
    match document.anchors.find? (·.1 == anchor) with
    | some (_, index) => document.events[index]?.getD node
    | none => node
  | _ => node

/-- What is wrong with an event that is not what was expected. -/
def mismatch (event : Event) (expected : String) : Cause :=
  match event with
  | .scalar tag text style =>
    match Yaml.meaning tag text style with
    | .ok m => .wrongType m.describe expected
    | .error needed => .wrongValue (Meaning.text text).describe needed
  | .sequenceStart | .sequenceEnd => .wrongType "sequence" expected
  | .mappingStart | .mappingEnd | .aliasOf _ => .wrongType "map" expected

/-- Whether a scalar of this style is looked at for a value of the kind with the tag. -/
def mayBe (tagName : String) (tag : Option (List Char)) (style : ScalarStyle) : Bool :=
  style == .plain || (style == .literal && tag == some (Yaml.coreTag tagName))

/-- Reads a number of seconds. -/
def readSeconds (field : String) (node : Node) : Except Fault Nat :=
  let wrong := Except.error (.value (mismatch node.1 "u64") (some field) node.2)
  match node.1 with
  | .scalar tag text style =>
    match Yaml.readUnsigned? UInt64.size text with
    | some n => if mayBe "int" tag style then .ok n else wrong
    | none => wrong
  | _ => wrong

/-- Reads a truth value. -/
def readFlag (field : String) (node : Node) : Except Fault Bool :=
  let wrong := Except.error (.value (mismatch node.1 "a boolean") (some field) node.2)
  match node.1 with
  | .scalar tag text style =>
    match Yaml.readBool? text with
    | some b => if mayBe "bool" tag style then .ok b else wrong
    | none => wrong
  | _ => wrong

/-- Reads a text: any scalar as it is written. -/
def readText (expected field : String) (node : Node) : Except Fault String :=
  match node.1 with
  | .scalar _ text _ => .ok (String.ofList text)
  | event => .error (.value (mismatch event expected) (some field) node.2)

/-- Reads a path, which a null leaves out. A text that is tagged as null and is not counts as a
fault of the whole, which starts at `start`. -/
def readPath (start : Mark) (field : String) (node : Node) : Except Fault (Option String) :=
  match node.1 with
  | .scalar tag text .plain =>
    if tag = some (Yaml.coreTag "null") then
      if Yaml.isNull text then .ok none
      else .error (.value (.wrongValue (Meaning.text text).describe "null") none start)
    else if tag.isNone && (text.isEmpty || Yaml.isNull text) then .ok none
    else .ok (some (String.ofList text))
  | _ => (readText "path string" field node).map some

/-- What follows one node, where `depth` collections are open. -/
def skipNode (depth : Nat) : List Node → Option (List Node)
  | [] => none
  | (event, _) :: rest =>
    match event with
    | .sequenceStart | .mappingStart => skipNode (depth + 1) rest
    | .sequenceEnd | .mappingEnd => if depth ≤ 1 then some rest else skipNode (depth - 1) rest
    | _ => if depth = 0 then some rest else skipNode depth rest

/-- The settings read so far. -/
structure Draft where
  timeoutSecs : Option Nat := none
  dataDir : Option (Option String) := none
  logLevel : Option String := none
  checkUpdates : Option Bool := none
  releasesUrl : Option String := none

/-- The settings with defaults for those not read. -/
def Draft.config (d : Draft) : Config :=
  let default : Config := {}
  { timeoutSecs := d.timeoutSecs.getD default.timeoutSecs
    dataDir := d.dataDir.getD default.dataDir
    logLevel := d.logLevel.getD default.logLevel
    checkUpdates := d.checkUpdates.getD default.checkUpdates
    releasesUrl := d.releasesUrl.getD default.releasesUrl }

/-- A setting that was not read before; `rest` starts with its value. -/
def setting {α : Type} (document : Document) (start : Mark) (name : String) (old : Option α)
    (read : Node → Except Fault α) (rest : List Node) : Except Fault α :=
  if old.isSome then .error (.value (.repeated name) none start)
  else
    match rest with
    | [] => ended document
    | node :: _ => read (resolve document node)

/-- Reads the settings of a mapping that starts at `start`; `rest` are its keys and values.
`fuel` is at least the number of events. -/
def readSettings (document : Document) (start : Mark) : Nat → Draft → List Node → Except Fault Draft
  | 0, d, _ => .ok d
  | _, _, [] => ended document
  | _, d, (.mappingEnd, _) :: _ => .ok d
  | fuel + 1, d, key :: rest => do
    let next (d : Draft) : Except Fault Draft :=
      match skipNode 0 rest with
      | some rest => readSettings document start fuel d rest
      | none => ended document
    let target := resolve document key
    match target.1 with
    | .scalar _ text _ =>
      let name := String.ofList text
      let label := if key.1 = target.1 then name else "?"
      if name = "timeout_secs" then do
        let v ← setting document start name d.timeoutSecs (readSeconds label) rest
        next { d with timeoutSecs := some v }
      else if name = "data_dir" then do
        let v ← setting document start name d.dataDir (readPath start label) rest
        next { d with dataDir := some v }
      else if name = "log_level" then do
        let v ← setting document start name d.logLevel (readText "a string" label) rest
        next { d with logLevel := some v }
      else if name = "check_updates" then do
        let v ← setting document start name d.checkUpdates (readFlag label) rest
        next { d with checkUpdates := some v }
      else if name = "releases_url" then do
        let v ← setting document start name d.releasesUrl (readText "a string" label) rest
        next { d with releasesUrl := some v }
      else next d
    | event => .error (.value (mismatch event "field identifier") none target.2)

/-- The settings of a document. -/
def ofDocument (document : Document) : Except Fault Config := do
  let config ←
    match document.events with
    | [] => if document.fault.isSome then ended document else Except.ok {}
    | (.mappingStart, start) :: rest => do
      let d ← readSettings document start (rest.length + 1) {} rest
      Except.ok d.config
    | (event, start) :: _ =>
      if event matches .scalar _ [] .plain then Except.ok {}
      else Except.error (.value (mismatch event "struct Config") none start)
  match document.fault with
  | some fault => .error (.yaml fault)
  | none => .ok config

/-- The settings of a text. -/
def ofYaml (text : String) : Except Fault Config :=
  if text.toList.all Text.isBlank then .ok {}
  else do
    let (document, more) := Document.ofText text.toList
    let config ← ofDocument document
    if more then .error .manyDocuments else .ok config

end RequestRunner.Config
