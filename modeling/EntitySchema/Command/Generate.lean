import EntitySchema.Project.Load
import EntitySchema.Schema.Lint

/-!
# The generate command

Resolves the schemas a project names and writes the model in every language that has an output
directory. The settings come from the project's file and the environment; what the command
line gives overrides them: paths replace the configured schemas, an output directory replaces
the configured one for its language, and the switches turn shadowing on and the creation date
off.

The command prints a line per language written. When resolution fails it prints every schema
error on standard error before giving up; when a language fails the command fails after
reporting all of them.
-/

namespace EntitySchema.Command

open EntitySchema.Workspace EntitySchema.Emit EntitySchema.Project EntitySchema.Target

variable {m : Type → Type} [Monad m] [Host m]

/-- The request to generate models, as the command line gives it. -/
structure GenerateCommand where
  /-- Schema files or directories; the configured schemas when empty. -/
  paths : List String := []
  outputs : OutputDirs := {}
  allowShadowing : Bool := false
  namespaceName : Option String := none
  noTimestamp : Bool := false
  /-- The settings file or its directory. -/
  config : Option String := none
  deriving Repr, BEq

def noSchemasGiven : String :=
  "No schema files given; pass paths or set 'schemas' in modelgen.yaml"

def noOutputGiven : String :=
  "No output directory given; use --cpp-path, --cs-path, --java-path or --rust-path"

/-- Prints every schema error a failure carries, one per line on standard error. -/
def reportDiagnostics (f : Failure) : m Unit :=
  match f with
  | .schema errors => errors.forM fun e =>
      Host.putErr ("✗ [" ++ e.kind.name ++ "] " ++ e.message ++ "\n")
  | .message .. => pure ()

namespace GenerateCommand

/-- The settings with the command line's overrides applied. -/
def applyFlags (g : GenerateCommand) (c : ProjectConfig) : ProjectConfig :=
  let schemas := if g.paths.isEmpty then c.schemas else g.paths
  let outputs := Language.all.foldl
    (fun o l => match g.outputs.get? l with
      | some dir => o.set dir l
      | none => o) c.outputs
  { schemas, outputs,
    allowShadowing := c.allowShadowing || g.allowShadowing,
    timestamp := c.timestamp && !g.noTimestamp,
    namespaceName := match g.namespaceName with
      | some ns => some ns
      | none => c.namespaceName }

/-- The settings a run uses: the project's settings with the environment's overrides, checked,
then with the command line's overrides, checked again. -/
def settings (g : GenerateCommand) (p : Project) (lookup : String → Option String) :
    Except Failure ProjectConfig := do
  let c := g.applyFlags (← p.effective lookup)
  match c.problem? with
  | some problem => throw (.plain problem)
  | none => pure c

/-- Resolves the schemas, prints the lint warnings and writes every configured language. -/
def run (g : GenerateCommand) : ExceptT Failure m (List TargetResult) := do
  let project ← commandProject g.config
  let env ← environment
  let c ← match g.settings project (fun k => env.lookup k) with
    | .ok c => pure c
    | .error f => throw f
  if c.schemas.isEmpty then throw (.plain noSchemasGiven)
  let targets := c.outputs.targets
  if targets.isEmpty then throw (.plain noOutputGiven)
  let emit : EmitOptions :=
    { timestamp := c.timestamp, defaultNamespace := c.namespaceName.getD "models" }
  let model ← resolvePaths { allowShadowing := c.allowShadowing } c.schemas
  model.lint.forM fun w => Host.putOut ("⚠ " ++ w ++ "\n")
  runTargets targets emit model

/-- The line printed for one language's result. -/
def resultLine (r : TargetResult) : String :=
  if r.success then
    "✓ " ++ r.generatorName ++ ": " ++ r.message ++ " (" ++ toString r.filesGenerated.length ++
      " files)\n"
  else "✗ " ++ r.generatorName ++ ": " ++ r.message ++ "\n"

/-- Runs the command and prints its report; fails when resolution fails or any language
does. -/
def execute (g : GenerateCommand) : ExceptT Failure m Unit := do
  Host.putOut "Generating models...\n"
  let results ← tryCatch g.run fun f => do
    reportDiagnostics f
    throw f
  results.forM fun r => Host.putOut (resultLine r)
  let failed := (results.filter fun r => !r.success).length
  if failed > 0 then throw (.plain (toString failed ++ " generator(s) failed"))

end GenerateCommand

end EntitySchema.Command
