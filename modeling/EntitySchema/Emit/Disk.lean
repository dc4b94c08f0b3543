import EntitySchema.Emit.Generator
import EntitySchema.Workspace.Sources

/-!
# Writing models to disk

A generator writes one file per entity, in emission order, and for Rust the module file beside
them. A file whose header carries the current fingerprint already is left alone and counted as
unchanged; the module file is left alone when its text is the same. Writing every configured
language is a list of targets: a target that fails is reported in its result and the others
still run.
-/

namespace EntitySchema.Emit

open EntitySchema.Workspace EntitySchema.Target

variable {m : Type → Type} [Monad m] [Host m]

def occursInChars (pattern : List Char) : List Char → Bool
  | [] => pattern.isEmpty
  | c :: rest => pattern.isPrefixOf (c :: rest) || occursInChars pattern rest

def occursIn (pattern text : String) : Bool := occursInChars pattern.toList text.toList

/-- A refusal of the file system, or the result, with `context` saying what was being done. -/
def orFail {α : Type} (context : String) : Except IoError α → ExceptT Failure m α
  | .ok a => pure a
  | .error e => throw ((Failure.ofIo e).context context)

/-- The files one run of a generator wrote and left alone. -/
structure WrittenFiles where
  written : List String := []
  /-- Files that carried the current fingerprint already. -/
  unchanged : List String := []

/-- What writing one language produced. -/
structure TargetResult where
  generatorName : String
  filesGenerated : List String
  success : Bool
  message : String

namespace Generator

def carriesFingerprint (path fp : String) : m Bool := do
  match ← readText path with
  | .ok text => return occursIn (fingerprintLabel ++ fp) text
  | .error _ => return false

/-- Writes one entity's file under `dst` unless it is current. -/
def writeEntity (g : Generator) (model : Model) (dst : String) (files : WrittenFiles)
    (e : ResolvedEntity) : ExceptT Failure m WrittenFiles := do
  let path := g.outputPath e dst
  if ← carriesFingerprint path (g.fingerprint e model) then
    return { files with unchanged := files.unchanged ++ [path] }
  if let some dir := Path.parent? path then
    orFail ("Failed to create output directory: " ++ dir) (← createDirAll dir)
  let code := g.generateEntity e model (← Host.now)
  orFail ("Failed to write model file: " ++ path) (← writeText path code)
  return { files with written := files.written ++ [path] }

/-- Writes the module file under `dst` when the language has one and it differs. -/
def writeModuleFile (g : Generator) (model : Model) (dst : String) (files : WrittenFiles) :
    ExceptT Failure m WrittenFiles := do
  match g.moduleFile model with
  | none => return files
  | some text =>
    let path := Path.join dst "mod.rs"
    if (← readText path).toOption == some text then
      return { files with unchanged := files.unchanged ++ [path] }
    orFail ("Failed to write module file: " ++ path) (← writeText path text)
    return { files with written := files.written ++ [path] }

/-- Writes a model under `dst`, creating the directory when it is missing. -/
def writeModel (g : Generator) (model : Model) (dst : String) : ExceptT Failure m WrittenFiles := do
  if !(← pathExists dst) then
    orFail ("Failed to create output directory: " ++ dst) (← createDirAll dst)
  let files ← model.entities.foldlM (g.writeEntity model dst) {}
  g.writeModuleFile model dst files

/-- The summary of a run: how many models, and how many files were current. -/
def summary (g : Generator) (model : Model) (files : WrittenFiles) : String :=
  let base := "Generated " ++ toString model.size ++ " " ++ g.language.name ++ " models"
  if files.unchanged.isEmpty then base
  else base ++ " (" ++ toString files.unchanged.length ++ " files unchanged)"

def generate (g : Generator) (model : Model) (dst : String) : ExceptT Failure m TargetResult := do
  let files ← g.writeModel model dst
  return { generatorName := g.language.name, filesGenerated := files.written, success := true,
           message := g.summary model files }

end Generator

/-- Writes a model in each language under its directory. A language that fails is reported as
failed, with what went wrong; an empty model writes nothing. -/
def runTargets (targets : List (Language × String)) (emit : EmitOptions) (model : Model) :
    m (List TargetResult) :=
  if model.isEmpty then return []
  else targets.mapM fun (language, dst) => do
    let g : Generator := { language, options := emit }
    match ← (g.generate model dst).run with
    | .ok r => return r
    | .error f =>
      return { generatorName := language.name, filesGenerated := [], success := false,
               message := "Generation failed: " ++ f.inline }

/-- Resolves the documents the paths stand for and writes the model in each language. -/
def codegen (sources : List String) (targets : List (Language × String)) (o : ResolveOptions)
    (emit : EmitOptions) : ExceptT Failure m (List TargetResult) := do
  let model ← resolvePaths o sources
  runTargets targets emit model

end EntitySchema.Emit
