import EntitySchema.Workspace.Tree

/-!
# A machine held in memory

A `Machine` is a file tree with a working directory, an environment, what was printed on the
two output streams, and a fixed clock. `Sim` runs a command on it; every operation of `Host`
reads or updates the machine and nothing else, so a run is a function from machine to machine.
-/

namespace EntitySchema.Workspace

/-- A machine held in memory. -/
structure Machine where
  tree : Tree := {}
  /-- The working directory, an absolute path. -/
  cwd : String := "/"
  env : List (String × String) := []
  /-- What was printed on standard output. -/
  out : String := ""
  /-- What was printed on standard error. -/
  err : String := ""
  /-- The time written into file headers. -/
  clock : String := "1970-01-01 00:00:00 UTC"

abbrev Sim := StateM Machine

/-- Applies a change of the tree, if the tree allows it. -/
def Machine.update (f : Tree → Except IoError Tree) : Sim (Except IoError Unit) :=
  modifyGet fun s =>
    match f s.tree with
    | .ok t => (.ok (), { s with tree := t })
    | .error e => (.error e, s)

instance : Host Sim where
  kindOf p := return (← get).tree.kindOf (← get).cwd p
  readBytes p := return (← get).tree.read (← get).cwd p
  listDir p := return (← get).tree.list (← get).cwd p
  makeDir p := do
    let cwd := (← get).cwd
    Machine.update fun t => t.makeDir cwd p
  writeBytes p bytes := do
    let cwd := (← get).cwd
    Machine.update fun t => t.write cwd p bytes
  workingDir := return (← get).cwd
  lookupEnv k := return (← get).env.lookup k
  putOut s := modify fun st => { st with out := st.out ++ s }
  putErr s := modify fun st => { st with err := st.err ++ s }
  now := return (← get).clock

end EntitySchema.Workspace
