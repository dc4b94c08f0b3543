import EntitySchema.Project.Config
import EntitySchema.Yaml.Decode
import EntitySchema.Yaml.Emit

/-!
# The settings file

Settings are written in YAML as a mapping with the keys `schemas` (a sequence of paths),
`outputs` (a mapping from `cpp`, `csharp`, `java` and `rust` to a path or null),
`allow_shadowing` and `timestamp` (booleans) and `namespace` (a string or null). Every key may
be left out and takes its default then; keys not named here are ignored. Writing gives every
key, in that order.
-/

namespace EntitySchema.Project

open EntitySchema.Yaml

def outputKeys : List String := ["cpp", "csharp", "java", "rust"]

/-- Reads the output directories. -/
def readOutputs (path : NodePath) : DecodeM OutputDirs := do
  let dir (p : NodePath) : DecodeM (Option String) := do
    Decode.option (fun q => do Decode.str "path string" (← Decode.budget) q) (← Decode.budget) p
  let step (o : OutputDirs) (key : String) (p : NodePath) : DecodeM OutputDirs :=
    match key with
    | "cpp" => return { o with cpp := ← dir p }
    | "csharp" => return { o with csharp := ← dir p }
    | "java" => return { o with java := ← dir p }
    | "rust" => return { o with rust := ← dir p }
    | _ => do Decode.skipValue; return o
  Decode.record "struct OutputConfig" outputKeys step {} (← Decode.budget) path

def settingKeys : List String := ["schemas", "outputs", "allow_shadowing", "timestamp", "namespace"]

/-- Reads settings. -/
def readConfig : DecodeM ProjectConfig := do
  let step (c : ProjectConfig) (key : String) (p : NodePath) : DecodeM ProjectConfig := do
    let budget ← Decode.budget
    match key with
    | "schemas" =>
      let paths ← Decode.sequence (fun q => do Decode.str "path string" (← Decode.budget) q) budget p
      return { c with schemas := paths }
    | "outputs" => return { c with outputs := ← readOutputs p }
    | "allow_shadowing" => return { c with allowShadowing := ← Decode.bool budget p }
    | "timestamp" => return { c with timestamp := ← Decode.bool budget p }
    | "namespace" =>
      let ns ← Decode.option (fun q => do Decode.str "a string" (← Decode.budget) q) budget p
      return { c with namespaceName := ns }
    | _ =>
      Decode.skipValue
      return c
  Decode.record "struct ModelgenConfig" settingKeys step {} (← Decode.budget) .root

def ProjectConfig.ofYaml (text : String) : Except String ProjectConfig :=
  (decodeText text readConfig).mapError (·.message)

/-- A value or null after the indicator `lead`, its further lines indented by `indent`, up to
the start of the next line. -/
def entry (lead : String) (indent : Nat) : Option String → String
  | some s => lead ++ blockValue s lead.length indent
  | none => lead ++ " null\n"

/-- The settings as the text of a settings file. -/
def ProjectConfig.toYaml (c : ProjectConfig) : String :=
  let schemas := match c.schemas with
    | [] => "schemas: []\n"
    | paths => "schemas:\n" ++ String.join (paths.map fun p => entry "-" 2 (some p))
  let outputs := "outputs:\n" ++ String.join ((Target.Language.all.zip outputKeys).map
    fun (l, key) => entry ("  " ++ key ++ ":") 4 (c.outputs.get? l))
  schemas ++ outputs ++
    "allow_shadowing: " ++ toString c.allowShadowing ++ "\n" ++
    "timestamp: " ++ toString c.timestamp ++ "\n" ++
    entry "namespace:" 2 c.namespaceName

end EntitySchema.Project
