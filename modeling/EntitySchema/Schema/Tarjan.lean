/-!
# Tarjan's strongly connected components

The search over the positions `0` to `n - 1` of a graph given by its successor lists. A first
visit of a position gives it the next index, which is also its first lowlink, and pushes it on
the stack. Each edge then leads either to a position not yet visited, which is visited in turn and
passes its lowlink up, or to one still on the stack, whose index bounds the lowlink. A position
whose lowlink is still its own index when its edges are done is the root of a component: the
stack is popped down to it, and the popped positions, sorted, are the component.

Positions are visited in order from `0`, and the components are returned ordered by their least
member.
-/

namespace EntitySchema.Tarjan

/-- Insert into a list sorted by `le`, before the first element it is at most. -/
def insertBy {α : Type} (le : α → α → Bool) (a : α) : List α → List α
  | [] => [a]
  | b :: l => if le a b then a :: b :: l else b :: insertBy le a l

def sortBy {α : Type} (le : α → α → Bool) (l : List α) : List α := l.foldr (insertBy le) []

/-- The state of the search. The stack is a list whose head is its top. -/
structure State where
  index : Nat → Option Nat
  lowlink : Nat → Nat
  onStack : Nat → Bool
  stack : List Nat
  counter : Nat
  components : List (List Nat)

def State.init : State := ⟨fun _ => none, fun _ => 0, fun _ => false, [], 0, []⟩

/-- The first visit of `v`: the next index, as index and lowlink, and `v` pushed. -/
def State.enter (s : State) (v : Nat) : State where
  index w := if w = v then some s.counter else s.index w
  lowlink w := if w = v then s.counter else s.lowlink w
  onStack w := if w = v then true else s.onStack w
  stack := v :: s.stack
  counter := s.counter + 1
  components := s.components

def State.lower (s : State) (v k : Nat) : State :=
  { s with lowlink := fun w => if w = v then min (s.lowlink v) k else s.lowlink w }

/-- The stack popped down to `v`, with `v`: the popped positions, top first, and the rest. -/
def popTo (v : Nat) : List Nat → List Nat × List Nat
  | [] => ([], [])
  | w :: rest =>
    if w = v then ([w], rest)
    else
      let popped := popTo v rest
      (w :: popped.1, popped.2)

/-- The component of the root `v`: the stack popped down to it, sorted and added to the
components found. -/
def State.emit (s : State) (v : Nat) : State :=
  let popped := popTo v s.stack
  { s with
    onStack := fun w => s.onStack w && !popped.1.contains w
    stack := popped.2
    components := s.components ++ [sortBy (fun a b => decide (a ≤ b)) popped.1] }

/-- The edge from `v` to `w`, where `descend` visits a position not visited yet. -/
def edge (descend : Nat → State → State) (v : Nat) (s : State) (w : Nat) : State :=
  match s.index w with
  | none =>
    let s := descend w s
    s.lower v (s.lowlink w)
  | some i => if s.onStack w then s.lower v i else s

/-- The visit of `v`. Each call is on a position not visited yet, so the calls nest at most as
deep as there are positions; `fuel` is that depth. -/
def visit (succ : Nat → List Nat) : Nat → Nat → State → State
  | 0, _, s => s
  | fuel + 1, v, s =>
    let s := (succ v).foldl (edge (visit succ fuel) v) (s.enter v)
    if some (s.lowlink v) = s.index v then s.emit v else s

def run (n : Nat) (succ : Nat → List Nat) : State :=
  (List.range n).foldl (fun s v => if (s.index v).isNone then visit succ n v s else s) .init

/-- The strongly connected components, each sorted ascending, ordered by their least member. -/
def components (n : Nat) (succ : Nat → List Nat) : List (List Nat) :=
  sortBy (fun a b => decide (a.headD 0 ≤ b.headD 0)) (run n succ).components

end EntitySchema.Tarjan
