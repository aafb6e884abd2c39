import RequestRunner.Http.Client
import RequestRunner.Program.Run
import Std.Time.DateTime.Timestamp

/-!
# The program

Gives the program the files, the clock and the environment of the machine, and its caller the exit
code and the texts. No network is connected to it.

## Main definitions

* `machine` — the equipment that the machine is.
* `main` — the program.
-/

namespace RequestRunner

namespace Machine

/-- The refusal that an error of the machine tells. -/
def refusal (code : UInt32) (details : String) : Refusal :=
  if code = 2 then .notFound
  else if code = 17 then .alreadyExists
  else if code = 20 then .notADirectory
  else if code = 21 then .isADirectory
  else if code = 36 then .nameTooLong
  else .other (details ++ " (os error " ++ Text.decimal code.toNat ++ ")")

/-- The refusal that an error tells. -/
def refusalOf : IO.Error → Refusal
  | .noFileOrDirectory _ code details | .alreadyExists _ code details
  | .inappropriateType _ code details | .invalidArgument _ code details
  | .permissionDenied _ code details | .resourceExhausted _ code details
  | .noSuchThing _ code details | .interrupted _ code details | .otherError code details
  | .resourceBusy code details | .resourceVanished code details
  | .unsupportedOperation code details | .hardwareFault code details
  | .unsatisfiedConstraints code details | .illegalOperation code details
  | .protocolError code details | .timeExpired code details => refusal code details
  | .unexpectedEof => .other "unexpected end of file"
  | .userError message => .other message

/-- Does something with the file system unless the path has a zero character. -/
def attempt {α : Type} (path : String) (action : IO α) : IO (Except Refusal α) := do
  if path.toList.contains '\x00' then return .error .zeroInPath
  else
    match ← action.toBaseIO with
    | .ok a => return .ok a
    | .error e => return .error (refusalOf e)

/-- What a path leads to: a directory can be opened but not read. -/
def kind? (path : String) : IO (Option FileKind) := do
  match ← attempt path (IO.FS.Handle.mk path .read) with
  | .error _ => return none
  | .ok handle =>
    match ← attempt path (handle.read 1) with
    | .ok _ => return some .file
    | .error _ => return some .directory

/-- The files of the machine. -/
def files : FileSystem IO where
  kind? := kind?
  makeDirectory path := attempt path (IO.FS.createDir path)
  read path := do
    let bytes ← attempt path do (← IO.FS.Handle.mk path .read).readBinToEnd
    return bytes.map (·.toList)
  write path bytes := attempt path (IO.FS.writeBinFile path ⟨bytes.toArray⟩)
  openToAppend path := attempt path (discard (IO.FS.Handle.mk path .append))

/-- The present instant. -/
def now : IO Instant := do
  let nanos := (← Std.Time.Timestamp.now).toNanosecondsSinceUnixEpoch.val
  return ⟨nanos.fdiv Instant.nanosPerSecond, (nanos.fmod Instant.nanosPerSecond).toNat⟩

/-- Hands over a request and measures how long that takes. -/
def transport (seconds : Nat) : Transport IO :=
  .timed IO.monoMsNow (fun start stop => .ofNat (stop - start))
    (Http.transmit (pure ∘ Http.unreachable) seconds)

end Machine

/-- The equipment that the machine is. -/
def machine : IO (Equipment IO) := do
  return {
    files := Machine.files
    transport := Machine.transport
    now := Machine.now
    surroundings := ⟨← IO.getEnv "HOME", ← IO.getEnv "XDG_CONFIG_HOME"⟩ }

end RequestRunner

/-- The program. -/
def main (arguments : List String) : IO UInt32 := do
  let output ← RequestRunner.runProgram (← RequestRunner.machine) arguments
  IO.print output.stdout
  IO.eprint output.stderr
  return output.code.toUInt32
