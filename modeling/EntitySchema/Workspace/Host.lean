import EntitySchema.Workspace.Fault
import EntitySchema.Path.Basic

/-!
# The machine a command runs on

A command reads and writes files, looks at its working directory and environment, prints on
two streams and reads the clock. `Host` names these operations, so a command is written once
and runs both on a real machine and on a machine held in memory. Paths are text; a relative
path is taken from the working directory.

On top of the primitive operations stand the derived ones every command uses: whether a path
exists and what it names, reading a file as text, and creating a directory together with its
missing ancestors.
-/

namespace EntitySchema.Workspace

/-- What a path names. -/
inductive EntryKind where
  | file
  | directory
  deriving DecidableEq, Repr

/-- The operations a command needs of the machine it runs on. -/
class Host (m : Type → Type) where
  /-- What a path names, or why it cannot be reached. -/
  kindOf : String → m (Except IoError EntryKind)
  /-- The bytes of a file. -/
  readBytes : String → m (Except IoError ByteArray)
  /-- The names in a directory. -/
  listDir : String → m (Except IoError (List String))
  /-- Creates one directory whose parent exists. -/
  makeDir : String → m (Except IoError Unit)
  /-- Creates or replaces a file. -/
  writeBytes : String → ByteArray → m (Except IoError Unit)
  /-- The working directory, an absolute path. -/
  workingDir : m String
  /-- The value of an environment variable. -/
  lookupEnv : String → m (Option String)
  /-- Prints on standard output. -/
  putOut : String → m Unit
  /-- Prints on standard error. -/
  putErr : String → m Unit
  /-- The current time as written into file headers. -/
  now : m String

variable {m : Type → Type} [Monad m] [Host m]

/-- A command that may give up runs on the same machine. -/
instance {ε : Type} : Host (ExceptT ε m) where
  kindOf p := ExceptT.lift (Host.kindOf p)
  readBytes p := ExceptT.lift (Host.readBytes p)
  listDir p := ExceptT.lift (Host.listDir p)
  makeDir p := ExceptT.lift (Host.makeDir p)
  writeBytes p bytes := ExceptT.lift (Host.writeBytes p bytes)
  workingDir := ExceptT.lift Host.workingDir
  lookupEnv k := ExceptT.lift (Host.lookupEnv k)
  putOut s := ExceptT.lift (Host.putOut s)
  putErr s := ExceptT.lift (Host.putErr s)
  now := ExceptT.lift Host.now

def pathExists (p : String) : m Bool := do
  return (← Host.kindOf p) matches .ok _

def isDir (p : String) : m Bool := do
  return (← Host.kindOf p) matches .ok .directory

def isFile (p : String) : m Bool := do
  return (← Host.kindOf p) matches .ok .file

/-- The content of a file as text; bytes that are not UTF-8 are refused. -/
def readText (p : String) : m (Except IoError String) := do
  match ← Host.readBytes p with
  | .error e => return .error e
  | .ok bytes =>
    match String.fromUTF8? bytes with
    | some s => return .ok s
    | none => return .error .invalidUtf8

def writeText (p text : String) : m (Except IoError Unit) :=
  Host.writeBytes p text.toUTF8

def wholeTreeRefused : IoError := .other "failed to create whole tree"

/-- Creates a directory and its missing ancestors, looking at most `fuel` ancestors up. A
directory that exists already, or that appears meanwhile, counts as created. -/
def createDirAllWithin : Nat → String → m (Except IoError Unit)
  | 0, _ => return .error wholeTreeRefused
  | fuel + 1, p => do
    if p.isEmpty then return .ok ()
    match ← Host.makeDir p with
    | .ok () => return .ok ()
    | .error .notFound =>
      match Path.parent? p with
      | none => return .error wholeTreeRefused
      | some q =>
        match ← createDirAllWithin fuel q with
        | .error e => return .error e
        | .ok () =>
          match ← Host.makeDir p with
          | .ok () => return .ok ()
          | .error e => if ← isDir p then return .ok () else return .error e
    | .error e => if ← isDir p then return .ok () else return .error e

/-- Creates a directory and its missing ancestors. Each step up drops a component, so one more
step than the path has components reaches an empty path. -/
def createDirAll (p : String) : m (Except IoError Unit) :=
  createDirAllWithin ((Path.components p).length + 1) p

end EntitySchema.Workspace
