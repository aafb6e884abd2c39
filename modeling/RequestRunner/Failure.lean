import RequestRunner.Config.Reading
import RequestRunner.Files.FileSystem

/-!
# Failures of the program

Everything that ends the program without success. A failure is told by a message and, where
something else led to it, by its cause.

## Main definitions

* `Failure` — what failed.
* `Failure.message`, `Failure.cause?` — the words for it.
* `Failure.chain`, `Failure.account` — both in one line, or below one another.
-/

namespace RequestRunner

/-- What failed. -/
inductive Failure where
  | /-- The configuration cannot be read. -/
    configUnreadable (path reason : String)
  | /-- The configuration is none. -/
    configInvalid (path : String) (fault : Config.Fault)
  | /-- The data directory cannot be made. -/
    dataDirectory (path : String) (refusal : Refusal)
  | /-- The document cannot be stored. -/
    documentUnwritten (path : String) (refusal : Refusal)
  | /-- A document cannot be read. -/
    documentUnreadable (path reason : String)
  | /-- No block covers a line, counted from one. -/
    noRequest (line : Nat)
  | /-- There is no response. -/
    requestFailed (error : String)
  | /-- There are so many requests without a response. -/
    requestsFailed (count : Nat)
  deriving DecidableEq

namespace Failure

/-- What failed, in words. -/
def message : Failure → String
  | configUnreadable path _ => "Failed to read config " ++ path
  | configInvalid path _ => "Invalid config " ++ path
  | dataDirectory path _ => "Failed to create data dir " ++ path
  | documentUnwritten path _ => "Failed to write " ++ path
  | documentUnreadable path _ => "Failed to read " ++ path
  | noRequest line => "No request at line " ++ Text.decimal line
  | requestFailed error => "Request failed: " ++ error
  | requestsFailed count => Text.decimal count ++ " request(s) failed"

/-- What led to it, in words. -/
def cause? : Failure → Option String
  | configUnreadable _ reason | documentUnreadable _ reason => some reason
  | configInvalid _ fault => some fault.message
  | dataDirectory _ refusal | documentUnwritten _ refusal => some refusal.message
  | noRequest _ | requestFailed _ | requestsFailed _ => none

/-- Message and cause in one line. -/
def chain (f : Failure) : String :=
  match f.cause? with
  | some cause => f.message ++ ": " ++ cause
  | none => f.message

/-- Lines below one another, each behind four blanks. -/
def indented (s : String) : String :=
  String.ofList ("    ".toList ++ s.toList.flatMap fun c => if c = '\n' then "\n    ".toList else [c])

/-- The lines that tell of the failure. -/
def account (f : Failure) : String :=
  "Error: " ++ f.message ++
    (match f.cause? with
      | some cause => "\n\nCaused by:\n" ++ indented cause
      | none => "") ++ "\n"

end Failure

end RequestRunner
