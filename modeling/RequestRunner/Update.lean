import RequestRunner.Execution.Exchange
import RequestRunner.Json.Printer
import RequestRunner.Json.Record
import RequestRunner.Version

/-!
# Looking for a newer release

The release feed is asked for the latest release, which it gives as JSON. Whatever goes wrong on
the way leaves just the current version.

## Main definitions

* `Release`, `Release.ofText?` — the latest release, and how it is read.
* `UpdateInfo` — what is known after asking.
* `checkForUpdate` — asks the feed.
-/

namespace RequestRunner

/-- The name by which the program calls itself. -/
def programName : String := "dispatch"

/-- The version that is under development, for which nothing is asked. -/
def developmentVersion : String := "dev"

/-- A release of the feed. -/
structure Release where
  tag : String
  page : String
  deriving DecidableEq

namespace Release

open Json

/-- Reads a member behind its name. -/
def readMember (p : Option String × Option String) (name : String) :
    Reader (Option String × Option String) := fun cs =>
  if name = "tag_name" then do
    let (v, rest) ← readField name p.1 readString cs
    .ok ((some v, p.2), rest)
  else if name = "html_url" then do
    let (v, rest) ← readField name p.2 readString cs
    .ok ((p.1, some v), rest)
  else do
    let rest ← readColon cs
    let rest ← skipValue rest
    .ok (p, rest)

/-- Reads a release: an object with the two members among others, or an array of both. -/
def read : Reader Release := fun cs =>
  match skipGap cs with
  | [] => failBehind .endInValue []
  | '{' :: rest => do
    let (p, rest) ← foldMembers readMember (rest.length + 1) true (none, none) rest
    let tag ← require "tag_name" p.1 rest
    let page ← require "html_url" p.2 rest
    .ok (⟨tag, page⟩, ← closeObject rest)
  | '[' :: rest => do
    let (tag, rest) ← readItem readString 0 2 "struct Release" rest
    let (page, rest) ← readItem readString 1 2 "struct Release" rest
    .ok (⟨tag, page⟩, ← closeArray rest)
  | rest => wrongKind "struct Release" rest

/-- The release that a text gives. -/
def ofText? (text : String) : Option Release := (readAll read text.toList).toOption

end Release

/-- What is known after asking; only the current version always is. -/
structure UpdateInfo where
  current : String
  latest : String
  available : Bool
  page : String
  deriving DecidableEq

namespace UpdateInfo

/-- Just the current version. -/
def bare (current : String) : UpdateInfo := ⟨current, "", false, ""⟩

/-- What a reply of the feed tells. -/
def ofReply (current : String) (reply : Reply) : UpdateInfo :=
  match reply.outcome with
  | .ok response =>
    if response.status = 200 then
      match Release.ofText? response.body with
      | some release => ⟨current, release.tag, isNewer release.tag current, release.page⟩
      | none => bare current
    else bare current
  | .error _ => bare current

/-- The JSON form. -/
def toJson (info : UpdateInfo) : Json :=
  .object
    [("currentVersion", .string info.current), ("latestVersion", .string info.latest),
      ("updateAvailable", .bool info.available), ("releaseURL", .string info.page)]

end UpdateInfo

/-- The request for the feed. -/
def releaseRequest (current feed : String) : OutgoingRequest :=
  ⟨"GET", feed,
    [("Accept", "application/vnd.github+json"), ("User-Agent", programName ++ "/" ++ current)], none⟩

/-- Asks the feed for the latest release. -/
def checkForUpdate {m : Type → Type} [Monad m] (transport : Transport m) (current feed : String) :
    m UpdateInfo :=
  if current = developmentVersion then return .bare current
  else do return .ofReply current (← transport (releaseRequest current feed))

end RequestRunner
