import EntitySchema.Workspace.Host
import EntitySchema.Schema.Resolve

/-!
# Schema documents on disk

A schema set is named by paths: a file stands for itself, and a directory for its `*.json`
files, in order of name. Each document is read as text and named by its path as given, and the
documents are then loaded and resolved together. A path that names nothing, a file that cannot
be read, or an empty set ends the run.
-/

namespace EntitySchema.Workspace

variable {m : Type → Type} [Monad m] [Host m]

/-- Whether a directory entry is a schema document: a file with the extension `json`. -/
def isSchemaFile (dir name : String) : m Bool := do
  if Path.extensionOf name == some "json" then isFile (Path.join dir name) else return false

/-- The schema documents a path stands for. -/
def schemaFilesAt (p : String) : ExceptT Failure m (List String) := do
  if ← isDir p then
    match ← Host.listDir p with
    | .error e => throw ((Failure.ofIo e).context ("Failed to read schema directory: " ++ p))
    | .ok names =>
      let found ← names.filterM (isSchemaFile p)
      return (found.mergeSort (· ≤ ·)).map (Path.join p)
  else if ← isFile p then
    return [p]
  else
    throw (.plain ("Schema path does not exist: " ++ p))

def discoverSchemaFiles (paths : List String) : ExceptT Failure m (List String) := do
  return (← paths.mapM schemaFilesAt).flatten

def readSource (file : String) : ExceptT Failure m (String × String) := do
  match ← readText file with
  | .ok text => return (file, text)
  | .error e => throw ((Failure.ofIo e).context ("Failed to read schema file: " ++ file))

def readSources (paths : List String) : ExceptT Failure m (List (String × String)) := do
  (← discoverSchemaFiles paths).mapM readSource

/-- The model of the documents the paths stand for. -/
def resolvePaths (o : ResolveOptions) (paths : List String) : ExceptT Failure m Model := do
  let sources ← readSources paths
  if sources.isEmpty then throw (.plain "No schema documents found")
  match Registry.load Spellings.standard sources >>= Registry.resolve o with
  | .ok model => return model
  | .error errors => throw (.schema errors)

end EntitySchema.Workspace
