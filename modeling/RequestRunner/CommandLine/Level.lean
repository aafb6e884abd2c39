import RequestRunner.CommandLine.Action

/-!
# Options and actions

The words of a command line stand at one of two levels: before the name of the action, or behind
it. Each level has its own options.

## Main definitions

* `CommandLine.Name` — what can be given.
* `CommandLine.Verb` — the actions by name.
* `CommandLine.Level` — the options of a level, and whether it takes a file.
-/

namespace RequestRunner.CommandLine

/-- What can be given: a file by its position, all else by an option. -/
inductive Name where
  | config
  | line
  | json
  | showHeaders
  | help
  | version
  | file
  deriving DecidableEq

namespace Name

/-- The long form of an option. -/
def long? : Name → Option String
  | config => some "config"
  | line => some "line"
  | json => some "json"
  | showHeaders => some "include-headers"
  | help => some "help"
  | version => some "version"
  | file => none

/-- The short form of an option. -/
def short? : Name → Option Char
  | config => some 'c'
  | line => some 'l'
  | showHeaders => some 'i'
  | help => some 'h'
  | version => some 'V'
  | json | file => none

/-- Whether a value belongs to it. -/
def takesValue : Name → Bool
  | config | line | file => true
  | json | showHeaders | help | version => false

end Name

/-- The actions by name. -/
inductive Verb where
  | list
  | run
  | runAll
  | store
  | path
  | checkUpdate
  deriving DecidableEq

namespace Verb

/-- All of them. -/
def all : List Verb := [list, run, runAll, store, path, checkUpdate]

/-- The word for an action. -/
def word : Verb → String
  | list => "list"
  | run => "run"
  | runAll => "run-all"
  | store => "import"
  | path => "path"
  | checkUpdate => "check-update"

/-- The action with a word. -/
def ofWord? (word : String) : Option Verb := all.find? (·.word == word)

end Verb

/-- The word that asks for help with an action. -/
def helpWord : String := "help"

/-- A level of the command line: before an action, or behind one. -/
inductive Level where
  | top
  | behind (verb : Verb)
  deriving DecidableEq

namespace Level

/-- The options of a level. -/
def options : Level → List Name
  | top => [.config, .help, .version]
  | behind .run => [.line, .json, .showHeaders, .config, .help]
  | behind .runAll => [.json, .showHeaders, .config, .help]
  | behind _ => [.config, .help]

/-- Whether a level takes a file. -/
def takesFile : Level → Bool
  | behind .list | behind .run | behind .runAll | behind .store => true
  | _ => false

/-- The option with a long form. -/
def long? (level : Level) (word : String) : Option Name :=
  level.options.find? (·.long? == some word)

/-- The option with a short form. -/
def short? (level : Level) (letter : Char) : Option Name :=
  level.options.find? (·.short? == some letter)

end Level

end RequestRunner.CommandLine
