import EntitySchema.CommandLine.Program
import EntitySchema.Workspace.Clock

/-!
# The program on a real machine

`main` runs the command line on the machine the program was started on: files are read and
written through the operating system, the working directory and the environment are the
process's own, and output goes to the standard streams. The clock is read from the kernel's
boot time and uptime. Listing a directory is not offered here, so a directory of schemas is
reported as unreadable; everything else behaves as on any `Host`.
-/

namespace EntitySchema

open EntitySchema.Workspace EntitySchema.CommandLine

/-- The reason an operating-system call failed, as the program reports it. -/
def faultOf (e : IO.Error) : IoError :=
  match e with
  | .noFileOrDirectory .. => .notFound
  | .alreadyExists .. => .alreadyExists
  | .inappropriateType _ code _ =>
    if code == 21 then .isADirectory
    else if code == 20 then .notADirectory
    else .other (toString e)
  | _ => .other (toString e)

def attempt {α : Type} (act : IO α) : IO (Except IoError α) := do
  try return .ok (← act)
  catch e => return .error (faultOf e)

/-- The seconds since 1970 at which the system booted, from a line `btime N`. -/
def bootSeconds (stat : String) : Option Nat :=
  (stat.splitOn "\n").findSome? fun line =>
    match line.splitOn " " with
    | ["btime", n] => n.toNat?
    | _ => none

/-- The whole seconds since boot, from the first number of the uptime text. -/
def uptimeSeconds (uptime : String) : Option Nat :=
  ((uptime.splitOn " ").head?.bind fun t => (t.splitOn ".").head?).bind String.toNat?

/-- The current time, written as in file headers. -/
def currentTime : IO String := do
  let stat ← attempt (IO.FS.readFile "/proc/stat")
  let uptime ← attempt (IO.FS.readFile "/proc/uptime")
  match stat, uptime with
  | .ok s, .ok u =>
    match bootSeconds s, uptimeSeconds u with
    | some b, some up => return utcText (b + up)
    | _, _ => return utcText 0
  | _, _ => return utcText 0

/-- What a path names: a file can be opened and read, a directory can be opened but not
read. -/
def kindOnDisk (p : String) : IO (Except IoError EntryKind) := do
  match ← attempt (IO.FS.Handle.mk p .read) with
  | .error e => return .error e
  | .ok h =>
    match ← attempt (h.read 1) with
    | .ok _ => return .ok .file
    | .error .isADirectory => return .ok .directory
    | .error e => return .error e

/-- The real machine. -/
instance : Host IO where
  kindOf p := kindOnDisk p
  readBytes p := attempt (IO.FS.readBinFile p)
  listDir _ := return .error (.other "listing a directory is not supported")
  makeDir p := attempt (IO.FS.createDir p)
  writeBytes p bytes := attempt (IO.FS.writeBinFile p bytes)
  workingDir := return toString (← IO.currentDir)
  lookupEnv k := IO.getEnv k
  putOut s := do
    let out ← IO.getStdout
    out.putStr s
    out.flush
  putErr s := do
    let err ← IO.getStderr
    err.putStr s
    err.flush
  now := currentTime

end EntitySchema

def main (args : List String) : IO UInt32 := do
  let code ← (EntitySchema.CommandLine.runProgram args : IO Nat)
  return code.toUInt32
