import EntitySchema.Target.Language
import EntitySchema.Schema.Name
import EntitySchema.Path.Basic
import EntitySchema.Text.Blank

/-!
# Project settings

A project names its schema files or directories, an output directory per target language,
whether derived entities may redeclare inherited fields, whether file headers carry the
creation date, and the namespace of entities that name none.

Settings are valid when the namespace, if given, is identifiers joined by dots, and no output
directory is empty. Relative paths in a project's settings are taken from the project's
directory (`rebase`). Two environment variables override the settings: one sets whether fields
may be redeclared (`1`, `true`, `yes`, `on` and `0`, `false`, `no`, `off`, in any case and with
blanks around), the other sets the namespace.
-/

namespace EntitySchema.Project

open EntitySchema.Target

/-- An output directory per target language. -/
structure OutputDirs where
  cpp : Option String := none
  csharp : Option String := none
  java : Option String := none
  rust : Option String := none
  deriving Repr, BEq

namespace OutputDirs

/-- The output directory of a language. -/
def get? (o : OutputDirs) : Language → Option String
  | .cpp => o.cpp
  | .csharp => o.csharp
  | .java => o.java
  | .rust => o.rust

/-- Sets the output directory of a language. -/
def set (o : OutputDirs) (dir : String) : Language → OutputDirs
  | .cpp => { o with cpp := some dir }
  | .csharp => { o with csharp := some dir }
  | .java => { o with java := some dir }
  | .rust => { o with rust := some dir }

/-- The languages with an output directory, in the fixed language order. -/
def targets (o : OutputDirs) : List (Language × String) :=
  Language.all.filterMap fun l => (o.get? l).map (l, ·)

def map (f : String → String) (o : OutputDirs) : OutputDirs :=
  { cpp := o.cpp.map f, csharp := o.csharp.map f, java := o.java.map f, rust := o.rust.map f }

theorem get?_set (o : OutputDirs) (dir : String) (l : Language) : (o.set dir l).get? l = some dir := by
  cases l <;> rfl

end OutputDirs

/-- The settings of a project. -/
structure ProjectConfig where
  /-- Schema files or directories. -/
  schemas : List String := []
  outputs : OutputDirs := {}
  allowShadowing : Bool := false
  timestamp : Bool := true
  /-- The namespace or package of entities that name none. -/
  namespaceName : Option String := none
  deriving Repr, BEq

def configFileName : String := "modelgen.yaml"

namespace ProjectConfig

/-- Why settings are not valid. -/
def problem? (c : ProjectConfig) : Option String :=
  match c.namespaceName with
  | some ns =>
    if ns.isEmpty || !(ns.splitOn ".").all isIdentifier then
      some ("Invalid namespace: '" ++ ns ++ "'")
    else none
  | none => none
  |>.orElse fun _ =>
    (c.outputs.targets.find? (·.2.isEmpty)).map fun (l, _) =>
      "Output directory for " ++ l.name ++ " cannot be empty"

def rebase (c : ProjectConfig) (root : String) : ProjectConfig :=
  let onto (p : String) := if Path.isAbsolute p then p else Path.join root p
  { c with schemas := c.schemas.map onto, outputs := c.outputs.map onto }

/-- The truth value of a flag in the environment, if it spells one. -/
def parseFlag (value : String) : Option Bool :=
  let word := (Text.trimBlank value).map Char.toLower
  if ["1", "true", "yes", "on"].contains word then some true
  else if ["0", "false", "no", "off"].contains word then some false
  else none

def shadowingVariable : String := "MODELGEN_ALLOW_SHADOWING"

def namespaceVariable : String := "MODELGEN_NAMESPACE"

/-- The settings with the environment's overrides, validated. -/
def withEnvironment (c : ProjectConfig) (lookup : String → Option String) :
    Except String ProjectConfig := do
  let c ← match lookup shadowingVariable with
    | some value =>
      match parseFlag value with
      | some b => pure { c with allowShadowing := b }
      | none => throw ("Invalid " ++ shadowingVariable ++ " value: '" ++ value ++ "'")
    | none => pure c
  let c := match lookup namespaceVariable with
    | some ns => { c with namespaceName := some ns }
    | none => c
  match c.problem? with
  | some p => throw p
  | none => pure c

end ProjectConfig

end EntitySchema.Project
