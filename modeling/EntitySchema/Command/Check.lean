import EntitySchema.Command.Generate
import EntitySchema.Json.Write

/-!
# The check command

Resolves the schemas a project names without writing anything. Schema errors are part of the
report rather than a failure of the command's machinery: the report says whether resolution
succeeded, lists the errors or the lint warnings, and on success the entities in the order they
would be written. The command fails afterwards when the report is not clean.
-/

namespace EntitySchema.Command

open EntitySchema.Workspace EntitySchema.Emit EntitySchema.Project EntitySchema.Json

variable {m : Type → Type} [Monad m] [Host m]

/-- The request to check schemas, as the command line gives it. -/
structure CheckCommand where
  /-- Schema files or directories; the configured schemas when empty. -/
  paths : List String := []
  /-- Print the report as JSON. -/
  json : Bool := false
  allowShadowing : Bool := false
  /-- The settings file or its directory. -/
  config : Option String := none
  deriving Repr, BEq

/-- The outcome of resolving a set of schemas. -/
structure CheckReport where
  ok : Bool
  diagnostics : List SchemaError
  warnings : List String
  /-- The entities in the order they are written; empty on failure. -/
  emissionOrder : List String

/-- One schema error as a JSON object; the entity and the field appear only when known. -/
def diagnosticValue (e : SchemaError) : Value :=
  let entity := match e.entity? with
    | some name => [("entity", Value.string name)]
    | none => []
  let field := match e.field? with
    | some name => [("field", Value.string name)]
    | none => []
  .object ([("kind", .string e.kind.name)] ++ entity ++ field ++ [("message", .string e.message)])

def CheckReport.toValue (r : CheckReport) : Value :=
  .object [("ok", .bool r.ok), ("diagnostics", .array (r.diagnostics.map diagnosticValue)),
    ("warnings", Value.ofStrings r.warnings), ("emission_order", Value.ofStrings r.emissionOrder)]

/-- The report as lines of text: the errors, the warnings and, when clean, the count and the
order of the entities. -/
def CheckReport.text (r : CheckReport) : String :=
  let errors := r.diagnostics.map fun e => "✗ [" ++ e.kind.name ++ "] " ++ e.message ++ "\n"
  let warnings := r.warnings.map fun w => "⚠ " ++ w ++ "\n"
  let summary :=
    if r.ok then
      "✓ " ++ toString r.emissionOrder.length ++ " declarations resolved\n" ++
        "  Emission order: " ++ ", ".intercalate r.emissionOrder ++ "\n"
    else ""
  String.join errors ++ String.join warnings ++ summary

namespace CheckCommand

/-- Resolves the schemas into a report; only failures other than schema errors fail. -/
def run (k : CheckCommand) : ExceptT Failure m CheckReport := do
  let c ← commandConfig k.config
  let schemas := if k.paths.isEmpty then c.schemas else k.paths
  if schemas.isEmpty then throw (.plain noSchemasGiven)
  match ← (resolvePaths { allowShadowing := c.allowShadowing || k.allowShadowing } schemas).run with
  | .ok model =>
    return { ok := true, diagnostics := [], warnings := model.lint,
             emissionOrder := model.emissionOrder }
  | .error (.schema errors) =>
    return { ok := false, diagnostics := errors, warnings := [], emissionOrder := [] }
  | .error f => throw f

/-- Runs the command and prints its report; fails when the report is not clean. -/
def execute (k : CheckCommand) : ExceptT Failure m Unit := do
  let report ← k.run
  if k.json then Host.putOut (report.toValue.pretty ++ "\n")
  else Host.putOut report.text
  if !report.ok then
    throw (.plain ("Schema check failed with " ++ toString report.diagnostics.length ++
      " error(s)"))

end CheckCommand

end EntitySchema.Command
