import RequestRunner.CommandLine.Level
import RequestRunner.Text.Ascii

/-!
# Reading the command line

A word is an option if it starts with `-` and is longer than that. The value of an option stands
in the same word, behind `=` or right behind a short form, or is the next word that is no option.
All words behind `--` are positions. An option waits with its value until the next one is met, so
that of two faults the later one may be told.

## Main definitions

* `CommandLine.Shape` — what a word looks like.
* `CommandLine.Given` — what was given so far at one level.
* `Invocation.ofArguments` — the invocation that a list of words is.
-/

namespace RequestRunner

namespace CommandLine

/-- What a word looks like. -/
inductive Shape where
  | divider
  | long (name : String) (value : Option String)
  | short (letters : List Char)
  | plain
  deriving DecidableEq

/-- The value behind an equals sign. -/
def behindEquals : List Char → Option String
  | '=' :: value => some (String.ofList value)
  | _ => none

/-- What a word looks like. -/
def Shape.ofWord (word : String) : Shape :=
  match word.toList with
  | ['-', '-'] => divider
  | '-' :: '-' :: cs =>
    long (String.ofList (cs.takeWhile (· != '='))) (behindEquals (cs.dropWhile (· != '=')))
  | '-' :: c :: cs => short (c :: cs)
  | _ => plain

/-- What waits to be taken: an option or a file, with its value if that was met. -/
structure Waiting where
  name : Name
  value : Option String
  deriving DecidableEq

/-- What was given so far at one level. -/
structure Given where
  config : Option String
  file : Option String
  line : Option Nat
  json : Bool
  showHeaders : Bool
  waiting : Option Waiting
  deriving DecidableEq

/-- Nothing given. -/
def Given.nothing : Given := ⟨none, none, none, false, false, none⟩

namespace Given

/-- A path given where it was not given before. -/
def newPath (old : Option String) (value : String) : Except Usage String :=
  if old.isSome then .error .repeated else if value.isEmpty then .error .emptyValue else .ok value

/-- A line given where it was not given before: a number from one up to the largest of 64 bits. -/
def newLine (old : Option Nat) (value : String) : Except Usage Nat :=
  if old.isSome then .error .repeated
  else
    match Text.readNatural? UInt64.size value.toList with
    | some (n + 1) => .ok (n + 1)
    | _ => .error .wrongValue

/-- A mark set where it was not set before. -/
def newMark (old : Bool) : Except Usage Bool := if old then .error .repeated else .ok true

/-- Takes a value. -/
def takeValue (g : Given) (name : Name) (value : String) : Except Usage Given :=
  match name with
  | .config => do return { g with config := some (← newPath g.config value) }
  | .file => do return { g with file := some (← newPath g.file value) }
  | .line => do return { g with line := some (← newLine g.line value) }
  | _ => .error .extraValue

/-- Takes an option without a value. -/
def takeMark (g : Given) (name : Name) : Except Usage Given :=
  match name with
  | .json => do return { g with json := ← newMark g.json }
  | .showHeaders => do return { g with showHeaders := ← newMark g.showHeaders }
  | .help => .error .help
  | .version => .error .version
  | _ => .error .emptyValue

/-- Takes what waits. -/
def settle (g : Given) : Except Usage Given :=
  match g.waiting with
  | none => .ok g
  | some ⟨_, none⟩ => .error .emptyValue
  | some ⟨name, some value⟩ => { g with waiting := none }.takeValue name value

/-- The option whose value has not been met. -/
def awaiting (g : Given) : Option Name :=
  match g.waiting with
  | some ⟨name, none⟩ => some name
  | _ => none

/-- Meets an option with the value that stands in the same word. -/
def meet (g : Given) (name : Name) (value : Option String) : Except Usage Given := do
  let g ← g.settle
  match name.takesValue, value with
  | true, some value => g.takeValue name value
  | true, none => .ok { g with waiting := some ⟨name, none⟩ }
  | false, _ => g.takeMark name

/-- Meets an option in its long form. -/
def meetLong (g : Given) (level : Level) (word : String) (value : Option String) :
    Except Usage Given :=
  match level.long? word with
  | none => .error .unknownArgument
  | some name =>
    if value.isSome && !name.takesValue then .error .extraValue else g.meet name value

/-- The value that is written right behind a short form. -/
def attached (letters : List Char) : Option String :=
  if letters.isEmpty then none
  else some ((behindEquals letters).getD (String.ofList letters))

/-- Meets options in their short forms. -/
def meetShort (g : Given) (level : Level) : List Char → Except Usage Given
  | [] => .ok g
  | letter :: letters =>
    match level.short? letter with
    | none => .error .unknownArgument
    | some name =>
      if name.takesValue then g.meet name (attached letters)
      else do (← g.meet name none).meetShort level letters

/-- Meets a word that is neither an option nor the value of one. -/
def meetPosition (g : Given) (level : Level) (word : String) : Except Usage Given := do
  if level.takesFile && g.file.isNone && !(g.waiting.any (·.name == .file)) then
    return { (← g.settle) with waiting := some ⟨.file, some word⟩ }
  else throw (if level = .top then .unknownAction else .unknownArgument)

/-- Meets a word that is no divider; `divided` tells that there was one. -/
def meetWord (g : Given) (level : Level) (divided : Bool) (word : String) : Except Usage Given :=
  if divided then g.meetPosition level word
  else
    match Shape.ofWord word with
    | .long name value => g.meetLong level name value
    | .short letters => g.meetShort level letters
    | _ =>
      match g.awaiting with
      | some name => .ok { g with waiting := some ⟨name, some word⟩ }
      | none => g.meetPosition level word

end Given

/-- What the words behind an action give. -/
def readBehind (verb : Verb) (g : Given) (divided : Bool) : List String → Except Usage Given
  | [] => g.settle
  | word :: words => do
    if !divided && Shape.ofWord word = .divider then readBehind verb g true words
    else readBehind verb (← g.meetWord (.behind verb) divided word) divided words

/-- What is given to an action. -/
def action (verb : Verb) (g : Given) : Except Usage Action :=
  match verb with
  | .list => .ok (.list g.file)
  | .run =>
    match g.line with
    | some line => .ok (.run g.file line g.json g.showHeaders)
    | none => .error .missingArgument
  | .runAll => .ok (.runAll g.file g.json g.showHeaders)
  | .store =>
    match g.file with
    | some file => .ok (.store file)
    | none => .error .missingArgument
  | .path => .ok .path
  | .checkUpdate => .ok .checkUpdate

/-- What help is asked for: with an action, with asking for help, or with the program. -/
def helpWith : List String → Usage
  | [] => .help
  | [word] => if word = helpWord || (Verb.ofWord? word).isSome then .help else .unknownAction
  | _ => .unknownAction

/-- The invocation of an action, where `g` was given before it. The words behind it are read before
what waits is taken. -/
def readAction (g : Given) (verb : Verb) (words : List String) : Except Usage Invocation := do
  let own ← readBehind verb .nothing false words
  let act ← action verb own
  let g ← g.settle
  return ⟨own.config.orElse fun _ => g.config, act⟩

/-- The invocation of the words, where `g` was given before them. -/
def readTop (g : Given) (divided : Bool) : List String → Except Usage Invocation
  | [] => do
    let g ← g.settle
    throw (if g.config.isSome then .noAction else .nothing)
  | word :: words => do
    if !divided && Shape.ofWord word = .divider then readTop g true words
    else if divided then throw (if (Verb.ofWord? word).isSome || word = helpWord then .unknownArgument
      else .unknownAction)
    else if g.awaiting.isSome then readTop (← g.meetWord .top false word) false words
    else if word = helpWord then throw (helpWith words)
    else
      match Verb.ofWord? word with
      | some verb => readAction g verb words
      | none => readTop (← g.meetWord .top false word) false words

end CommandLine

/-- The invocation that a list of words is. -/
def Invocation.ofArguments (words : List String) : Except Usage Invocation :=
  CommandLine.readTop .nothing false words

end RequestRunner
