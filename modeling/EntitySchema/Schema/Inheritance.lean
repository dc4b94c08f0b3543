import EntitySchema.Schema.Registry

/-!
# Base chains

Following base links from a declaration ends in one of three ways: at a declaration with no base,
which gives the ancestors; back at a name already on the way, which is a ring of bases; or at a
link that cannot be followed (a declaration extending itself, an unregistered base, or an
enumeration as base), which is reported elsewhere as an unresolved reference.

Every step adds a registered name not yet on the way, so a walk ends within as many steps as the
registry has declarations.
-/

namespace EntitySchema

/-- Where a walk along base links ends. -/
inductive Chain where
  /-- The ancestors, root first. -/
  | complete (ancestors : List String)
  /-- The names of a ring of bases, its first name repeated at the end. -/
  | cycle (members : List String)
  /-- A link that cannot be followed. -/
  | broken

namespace Registry

/-- Walks base links from `current`; `way` holds the names visited so far, the start first. -/
def walkBases (r : Registry) : Nat → List String → EntityDecl → Chain
  | 0, _, _ => .broken
  | fuel + 1, way, current =>
    match current.base with
    | none => .complete (way.drop 1).reverse
    | some b =>
      if b == current.name then .broken
      else match way.idxOf? b with
        | some pos => .cycle (way.drop pos ++ [b])
        | none =>
          match r.lookup? b with
          | some parent => if parent.isEnum then .broken else r.walkBases fuel (way ++ [parent.name]) parent
          | none => .broken

def chainOf (r : Registry) (d : EntityDecl) : Chain := r.walkBases r.size [d.name] d

/-- A ring of bases turned to start at its member registered first, and closed again. -/
def canonicalCycle (r : Registry) (ring : List String) : List String :=
  let members := ring.dropLast
  let rank (name : String) : Nat := (r.position? name).getD r.size
  let start := ((List.range members.length).zip members).foldl
    (fun (best : Option (Nat × Nat)) (entry : Nat × String) =>
      match best with
      | some (i, k) => if rank entry.2 < k then some (entry.1, rank entry.2) else some (i, k)
      | none => some (entry.1, rank entry.2))
    none
  let s := (start.map (·.1)).getD 0
  let rotated := members.drop s ++ members.take s
  match rotated.head? with
  | some first => rotated ++ [first]
  | none => rotated

end Registry

end EntitySchema
