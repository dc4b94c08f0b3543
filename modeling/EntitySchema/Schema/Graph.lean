import EntitySchema.Schema.Registry
import EntitySchema.Schema.Tarjan

/-!
# The dependency graph of a registry

An entity depends hard on another when it cannot be laid out before it: on its base, when the
base is a registered class other than itself, and on every registered entity that one of its
fields holds by value. A reference behind a collection is no hard dependency.

The graph answers three questions. Its strongly connected components, those that close a cycle,
are where entities hold each other by value or extend each other in a ring. A component with a
field edge inside is a value cycle, reported through its first such edge and a shortest way back.
And the emission order places each entity after its dependencies, taking among the entities that
are ready the one registered first; entities that depend on a cycle are never placed.
-/

namespace EntitySchema

/-- How a hard dependency arises. -/
inductive EdgeVia where
  | base
  | field (name : String)
  deriving DecidableEq

/-- A hard dependency of one entity on another. -/
structure Edge where
  target : String
  via : EdgeVia
  deriving DecidableEq

/-- The hard dependencies of a declaration: its base first, then fields in declared order. -/
def Registry.edgesOf (r : Registry) (d : EntityDecl) : List Edge :=
  let baseEdge : List Edge := match d.base with
    | some b => if b != d.name && (r.lookup? b).any (!·.isEnum) then [⟨b, .base⟩] else []
    | none => []
  baseEdge ++ d.fields.filterMap fun f => match f.type.directReference? with
    | some t => if r.contains t then some ⟨t, .field f.name⟩ else none
    | none => none

/-- Each registered entity with its hard dependencies, in registration order. -/
structure DependencyGraph where
  nodes : List (String × List Edge)

namespace DependencyGraph

def build (r : Registry) : DependencyGraph := ⟨r.decls.map fun d => (d.name, r.edgesOf d)⟩

def names (g : DependencyGraph) : List String := g.nodes.map (·.1)

def size (g : DependencyGraph) : Nat := g.nodes.length

def edges (g : DependencyGraph) (name : String) : List Edge := (g.nodes.lookup name).getD []

def dependencies (g : DependencyGraph) (name : String) : List String :=
  ((g.edges name).map (·.target)).eraseDups

def indexOf (g : DependencyGraph) (name : String) : Nat := g.names.idxOf name

def nameAt (g : DependencyGraph) (i : Nat) : String := (g.names[i]?).getD ""

/-- The positions a node's edges lead to, one per edge. -/
def successors (g : DependencyGraph) (i : Nat) : List Nat :=
  (g.edges (g.nameAt i)).map fun e => g.indexOf e.target

/-- The positions of a node's edge targets, one per edge; a target that is no node is skipped. -/
def targets (g : DependencyGraph) (i : Nat) : List Nat :=
  (g.edges (g.nameAt i)).filterMap fun e => g.names.idxOf? e.target

/-- The strongly connected components, each sorted ascending, ordered by their least member. -/
def components (g : DependencyGraph) : List (List Nat) := Tarjan.components g.size g.targets

/-- Whether a component closes a cycle: it has two members or an edge to itself. -/
def isCyclic (g : DependencyGraph) (component : List Nat) : Bool :=
  match component with
  | [i] => (g.successors i).contains i
  | _ => true

/-- The first field edge inside a component: its source, field and target. -/
def entryEdge (g : DependencyGraph) (members : List String) : Option (String × String × String) :=
  members.findSome? fun source => (g.edges source).findSome? fun e =>
    match e.via with
    | .field f => if members.contains e.target then some (source, f, e.target) else none
    | .base => none

/-- One round of breadth-first search inside `members`: the queue, the visited nodes, and for
each node found the node it was found from. -/
def searchFrom (g : DependencyGraph) (members : List String) (goal : String) :
    Nat → List String → List String → List (String × String) → List (String × String)
  | 0, _, _, previous => previous
  | _ + 1, [], _, previous => previous
  | fuel + 1, node :: queue, visited, previous =>
    if node == goal then previous
    else
      let found := ((g.edges node).map (·.target)).foldl
        (fun (acc : List String × List String × List (String × String)) next =>
          if members.contains next && !acc.2.1.contains next then
            (acc.1 ++ [next], acc.2.1 ++ [next], acc.2.2 ++ [(next, node)])
          else acc)
        (queue, visited, previous)
      searchFrom g members goal fuel found.1 found.2.1 found.2.2

/-- Follows the found-from links back from `node` to `start`. -/
def walkBack (previous : List (String × String)) (start : String) :
    Nat → String → List String → List String
  | 0, _, path => path
  | fuel + 1, node, path =>
    if node == start then path
    else match previous.lookup node with
      | some p => walkBack previous start fuel p (p :: path)
      | none => path

/-- A shortest path from `start` to `goal` inside `members`, both ends included; among paths of
one length, the first that breadth-first search along edge order finds. -/
def pathWithin (g : DependencyGraph) (members : List String) (start goal : String) :
    List String :=
  let previous := searchFrom g members goal (members.length + 1) [start] [start] []
  walkBack previous start (members.length + 1) goal [goal]

/-- The value cycles: one per cyclic component with a field edge inside, in the order of the
components, through the component's first field edge and a shortest path back. -/
def valueCycles (g : DependencyGraph) : List SchemaError :=
  (g.components.filter g.isCyclic).filterMap fun component =>
    let members := component.map g.nameAt
    (g.entryEdge members).map fun (entity, field, target) =>
      .valueCycle entity field (entity :: g.pathWithin members target entity)

/-- Places positions one at a time: the least unplaced one whose dependencies are all placed. -/
def placeReady (n : Nat) (deps : Nat → List Nat) : Nat → List Nat → List Nat
  | 0, placed => placed
  | fuel + 1, placed =>
    match (List.range n).find? (fun i => !placed.contains i && (deps i).all placed.contains) with
    | some i => placeReady n deps fuel (placed ++ [i])
    | none => placed

/-- The positions of a node's dependencies, one for each dependency that is a node. -/
def depIndices (g : DependencyGraph) (i : Nat) : List Nat :=
  (g.dependencies (g.nameAt i)).filterMap g.names.idxOf?

/-- For each position, the number of its dependencies that are nodes. -/
def pendingCounts (g : DependencyGraph) : List Nat :=
  (List.range g.size).map fun i => (g.depIndices i).length

/-- The positions that depend on position `d`, in order, once for each time `d` is among their
dependencies. -/
def dependents (g : DependencyGraph) (d : Nat) : List Nat :=
  (List.range g.size).flatMap fun i => List.replicate ((g.depIndices i).count d) i

/-- A state of Kahn's algorithm: for each position the number of its dependencies not placed
yet, the positions ready to be placed (a heap that yields the least first), and the positions
placed so far. -/
structure Kahn where
  pending : List Nat
  ready : List Nat
  order : List Nat

/-- Kahn's algorithm starts with nothing placed and the positions with no dependencies ready. -/
def kahnStart (g : DependencyGraph) : Kahn where
  pending := g.pendingCounts
  ready := (List.range g.size).filter fun i => g.pendingCounts[i]? == some 0
  order := []

/-- Releases the positions `js` that depend on a position just placed, one at a time: each
pending count drops by one, and a position whose count reaches zero becomes ready. A count that
is already zero cannot drop, and the release fails. -/
def release : List Nat → List Nat × List Nat → Option (List Nat × List Nat)
  | [], state => some state
  | j :: js, (pending, ready) =>
    match pending[j]? with
    | some (count + 1) =>
      release js (pending.set j count, if count = 0 then ready ++ [j] else ready)
    | _ => none

/-- At most `fuel` rounds of Kahn's algorithm. A round takes the least ready position off the
heap, places it, and releases the positions that depend on it; the rounds stop when nothing is
ready, and fail when a release does. -/
def kahnLoop (g : DependencyGraph) : Nat → Kahn → Option Kahn
  | 0, s => some s
  | fuel + 1, s =>
    match s.ready.min? with
    | none => some s
    | some i =>
      match release (g.dependents i) (s.pending, s.ready.erase i) with
      | some (pending, ready) => g.kahnLoop fuel ⟨pending, ready, s.order ++ [i]⟩
      | none => none

/-- The emission order: Kahn's algorithm over the positions, taking the least ready position
first. A round places one position, so as many rounds as nodes finish it, and a node from which
a cycle can be reached is never placed. A release that fails, which the counts rule out, gives
no order. -/
def topologicalOrder (g : DependencyGraph) : List String :=
  match g.kahnLoop g.size g.kahnStart with
  | some s => s.order.map g.nameAt
  | none => []

end DependencyGraph

end EntitySchema
