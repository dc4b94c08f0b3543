import EntitySchema.Project.File
import EntitySchema.Emit.Disk

/-!
# Finding and loading a project's settings

A project is a directory with a settings file. Its settings are loaded with their relative
paths taken from the project's directory. A project's root is found by walking up from a
directory to the first one that holds a settings file.

The settings a command runs with come from an explicit settings file or its directory, or else
from the project around the working directory, where a missing file means the defaults; the
environment's overrides then apply.
-/

namespace EntitySchema.Project

open EntitySchema.Workspace EntitySchema.Emit

variable {m : Type → Type} [Monad m] [Host m]

/-- Loads settings from a file, as written. -/
def loadFile (file : String) : ExceptT Failure m ProjectConfig := do
  if !(← pathExists file) then
    throw (.plain ("Configuration file not found at: " ++ file))
  let text ← orFail ("Failed to read config file: " ++ file) (← readText file)
  match ProjectConfig.ofYaml text with
  | .ok c => return c
  | .error e => throw ((Failure.plain e).context ("Failed to parse config file: " ++ file))

def loadDir (dir : String) : ExceptT Failure m ProjectConfig :=
  loadFile (Path.join dir configFileName)

end EntitySchema.Project

namespace EntitySchema

/-- A project: its directory and its settings, if it has a settings file. -/
structure Project where
  path : String
  config : Option Project.ProjectConfig := none
  deriving Repr

end EntitySchema

namespace EntitySchema.Project

open EntitySchema.Workspace EntitySchema.Emit

variable {m : Type → Type} [Monad m] [Host m]

/-- The project of an explicit settings file: the file's directory, with the settings taken
from there. -/
def ofFile (file : String) : ExceptT Failure m Project := do
  let path := (Path.parent? file).getD ""
  let c ← loadFile file
  return { path, config := some (c.rebase path) }

/-- The project in a directory, with its settings if it has a settings file. -/
def load (dir : String) : ExceptT Failure m Project := do
  if ← pathExists (Path.join dir configFileName) then
    let c ← loadDir dir
    return { path := dir, config := some (c.rebase dir) }
  return { path := dir }

def isProject (p : Project) : m Bool := pathExists (Path.join p.path configFileName)

def effective (p : Project) (lookup : String → Option String) : Except Failure ProjectConfig :=
  ((p.config.getD {}).withEnvironment lookup).mapError Failure.plain

/-- The first directory from `start` upwards that holds a settings file, looking at most
`fuel` directories. -/
def findRootWithin : Nat → String → m (Option String)
  | 0, _ => return none
  | fuel + 1, dir => do
    if ← pathExists (Path.join dir configFileName) then return some dir
    match Path.parent? dir with
    | some up => findRootWithin fuel up
    | none => return none

/-- The project root around `start`: the first directory upwards holding a settings file. -/
def findProjectRoot (start : String) : m (Option String) :=
  findRootWithin ((Path.components start).length + 1) start

def environment : m (List (String × String)) := do
  let names := [ProjectConfig.shadowingVariable, ProjectConfig.namespaceVariable]
  names.filterMapM fun k => do return (← Host.lookupEnv k).map (k, ·)

/-- The project a command takes its settings from: `explicit`, a settings file or its
directory, or else the project around the working directory. -/
def commandProject (explicit : Option String) : ExceptT Failure m Project :=
  match explicit with
  | some p => do if ← isDir p then Project.ofFile (Path.join p configFileName) else Project.ofFile p
  | none => do
    let cwd ← Host.workingDir
    let root := (← findProjectRoot cwd).getD cwd
    Project.load root

/-- The settings a command runs with: those of its project, with the environment's
overrides. -/
def commandConfig (explicit : Option String) : ExceptT Failure m ProjectConfig := do
  let project ← commandProject explicit
  let env ← environment
  match project.effective (fun k => env.lookup k) with
  | .ok c => return c
  | .error f => throw f

def saveConfig (c : ProjectConfig) (dir : String) : ExceptT Failure m Unit := do
  let file := Path.join dir configFileName
  orFail ("Failed to write config file: " ++ file) (← writeText file c.toYaml)

end EntitySchema.Project
