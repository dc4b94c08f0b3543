import EntitySchema.Workspace.Host

/-!
# A file tree in memory

A `Tree` holds the entries of the root directory; a directory holds its entries by name, so
following a path costs one lookup per name. Paths are followed the way the Linux file system
does: a path may not hold NUL nor be 4096 bytes or longer, every component before the last
must name a directory (`notFound` if it is missing, `notADirectory` if it is a file), a name
looked up may not be longer than 255 bytes, `.` stays and `..` goes up, a path ending in `.`
names a directory that must exist, and a path written with a trailing `/` names a directory
only.

`Tree.changes` compares two trees: the entries that are new or whose content differs, and the
entries that are gone.
-/

namespace EntitySchema.Workspace

/-- An entry of a tree, without what lies under it. -/
inductive Entry where
  | directory
  | file (bytes : ByteArray)

def Entry.kind : Entry → EntryKind
  | .directory => .directory
  | .file _ => .file

/-- Whether two entries are of one kind and, for files, hold the same bytes. -/
def Entry.same : Entry → Entry → Bool
  | .directory, .directory => true
  | .file a, .file b => a.data == b.data
  | _, _ => false

/-- A file with its bytes, or a directory with its entries by name. -/
inductive Node where
  | file (bytes : ByteArray)
  | directory (children : List (String × Node))

def Node.entry : Node → Entry
  | .file bytes => .file bytes
  | .directory _ => .directory

mutual
/-- Every entry at and under a node at `path`, with its path. -/
def Node.flatten (path : List String) : Node → List (List String × Entry)
  | .file bytes => [(path, .file bytes)]
  | .directory children => (path, .directory) :: flattenChildren path children

/-- Every entry at and under the children of a directory at `path`, with its path. -/
def flattenChildren (path : List String) : List (String × Node) → List (List String × Entry)
  | [] => []
  | (name, node) :: rest => node.flatten (path ++ [name]) ++ flattenChildren path rest
end

/-- The entries of a directory with the node at the path below it set to `node`; directories
missing on the way are made. -/
def setIn (children : List (String × Node)) : List String → Node → List (String × Node)
  | [], _ => children
  | [name], node => (name, node) :: children.filter (·.1 != name)
  | name :: rest, node =>
    let inner := match children.lookup name with
      | some (.directory below) => below
      | _ => []
    (name, .directory (setIn inner rest node)) :: children.filter (·.1 != name)

/-- The entries of a directory without the node at the path below it; the empty path removes
every entry. -/
def eraseIn (children : List (String × Node)) : List String → List (String × Node)
  | [] => []
  | [name] => children.filter (·.1 != name)
  | name :: rest => children.map fun (key, node) =>
    match node with
    | .directory below => if key == name then (key, .directory (eraseIn below rest)) else (key, node)
    | .file _ => (key, node)

/-- The node at a path below a directory's entries, the empty path naming the directory. -/
def nodeIn (children : List (String × Node)) : List String → Option Node
  | [] => some (.directory children)
  | [name] => children.lookup name
  | name :: rest =>
    match children.lookup name with
    | some (.directory below) => nodeIn below rest
    | _ => none

/-- A directory holding the directories named by `names`, each inside the one before. -/
def chain : List String → List (String × Node)
  | [] => []
  | name :: rest => [(name, .directory (chain rest))]

/-- The entries of the root directory. -/
structure Tree where
  root : List (String × Node) := []

/-- A path followed to its end: the names from the root, the node there if any, and whether it
was written as a directory (with a trailing `/`). -/
structure Located where
  names : List String
  node : Option Node
  dirOnly : Bool

/-- Where a walk stands: each name followed, innermost first, with the node found under it. -/
abbrev Trail := List (String × Option Node)

namespace Tree

/-- The most bytes a path may have, its terminating NUL included. -/
def pathLimit : Nat := 4096

/-- The most bytes one name in a path may have. -/
def nameLimit : Nat := 255

/-- The node a trail ends at; the empty trail stands at the root. -/
def current (t : Tree) : Trail → Option Node
  | [] => some (.directory t.root)
  | (_, node) :: _ => node

/-- Follows components along a trail: each step must start from an existing directory, and a
name looked up there must not be longer than `nameLimit`. -/
def walk (t : Tree) : Trail → List Path.Component → Except IoError Trail
  | trail, [] => .ok trail
  | trail, c :: rest =>
    match t.current trail with
    | none => .error .notFound
    | some (.file _) => .error .notADirectory
    | some (.directory children) =>
      match c with
      | .root => t.walk [] rest
      | .current => t.walk trail rest
      | .parent => t.walk trail.tail rest
      | .normal name =>
        if name.utf8ByteSize > nameLimit then .error .nameTooLong
        else t.walk ((name, children.lookup name) :: trail) rest

/-- Follows a path from the working directory `cwd`. A path holding NUL, or too long as a
whole, is refused before anything is looked up. A path that ends in `.` is followed one step
further, into the directory it names, which must therefore exist. -/
def locate (t : Tree) (cwd p : String) : Except IoError Located := do
  let full := Path.join cwd p
  if full.toList.contains '\x00' then throw .nulInName
  if full.utf8ByteSize + 1 > pathLimit then throw .nameTooLong
  let steps := Path.components full ++ (if Path.endsInCurrent full then [.current] else [])
  let trail ← t.walk [] steps
  return { names := (trail.map (·.1)).reverse, node := t.current trail,
           dirOnly := full.endsWith "/" && full != "/" }

def put (t : Tree) (names : List String) (node : Node) : Tree :=
  { root := setIn t.root names node }

/-- What a path names. -/
def kindOf (t : Tree) (cwd p : String) : Except IoError EntryKind := do
  let loc ← t.locate cwd p
  match loc.node with
  | none => .error .notFound
  | some (.file _) => if loc.dirOnly then .error .notADirectory else .ok .file
  | some (.directory _) => .ok .directory

/-- The bytes of a file. -/
def read (t : Tree) (cwd p : String) : Except IoError ByteArray := do
  let loc ← t.locate cwd p
  match loc.node with
  | none => .error .notFound
  | some (.file bytes) => if loc.dirOnly then .error .notADirectory else .ok bytes
  | some (.directory _) => .error .isADirectory

/-- The names in a directory, in order. -/
def list (t : Tree) (cwd p : String) : Except IoError (List String) := do
  let loc ← t.locate cwd p
  match loc.node with
  | none => .error .notFound
  | some (.file _) => .error .notADirectory
  | some (.directory children) => .ok ((children.map (·.1)).mergeSort (· ≤ ·))

/-- Creates one directory; its parent was reached on the way. -/
def makeDir (t : Tree) (cwd p : String) : Except IoError Tree := do
  let loc ← t.locate cwd p
  match loc.node with
  | some _ => .error .alreadyExists
  | none => .ok (t.put loc.names (.directory []))

/-- Creates or replaces a file. -/
def write (t : Tree) (cwd p : String) (bytes : ByteArray) : Except IoError Tree := do
  let loc ← t.locate cwd p
  match loc.node with
  | some (.directory _) => .error .isADirectory
  | some (.file _) =>
    if loc.dirOnly then .error .notADirectory else .ok (t.put loc.names (.file bytes))
  | none => if loc.dirOnly then .error .isADirectory else .ok (t.put loc.names (.file bytes))

/-- Removes a file, or a directory with everything under it. -/
def remove (t : Tree) (cwd p : String) : Except IoError Tree := do
  let loc ← t.locate cwd p
  match loc.node with
  | none => .error .notFound
  | some _ => .ok { root := eraseIn t.root loc.names }

def withDirs (names : List String) : Tree := { root := chain names }

def below (t : Tree) (base : List String) : List (List String × Entry) :=
  match nodeIn t.root base with
  | some (.directory children) => flattenChildren [] children
  | _ => []

/-- Whether one path comes before another, name by name. -/
def pathBefore : List String → List String → Bool
  | [], [] => false
  | [], _ :: _ => true
  | _ :: _, [] => false
  | a :: as, b :: bs => if a == b then pathBefore as bs else decide (a < b)

def sortByPath (entries : List (List String × Entry)) : List (List String × Entry) :=
  entries.mergeSort fun a b => !pathBefore b.1 a.1

/-- Compares entries sorted by path, `fuel` bounding the rounds: the entries of `after` that
are new or differ, and the entries of `before` that are gone. -/
def mergeChanges : Nat → List (List String × Entry) → List (List String × Entry) →
    List (List String × Entry) × List (List String × Entry)
  | 0, _, _ => ([], [])
  | _, [], after => (after, [])
  | _, before, [] => ([], before)
  | fuel + 1, (p, e) :: olds, (q, f) :: news =>
    if p == q then
      let (changed, removed) := mergeChanges fuel olds news
      (if f.same e then changed else (q, f) :: changed, removed)
    else if pathBefore p q then
      let (changed, removed) := mergeChanges fuel olds ((q, f) :: news)
      (changed, (p, e) :: removed)
    else
      let (changed, removed) := mergeChanges fuel ((p, e) :: olds) news
      ((q, f) :: changed, removed)

/-- What changed under `base` from `before` to `after`: the entries that are new or differ,
and the paths of the entries that are gone. -/
def changes (before after : Tree) (base : List String) :
    List (List String × Entry) × List (List String × Entry) :=
  let old := sortByPath (before.below base)
  let new := sortByPath (after.below base)
  mergeChanges (old.length + new.length + 1) old new

end Tree

end EntitySchema.Workspace
