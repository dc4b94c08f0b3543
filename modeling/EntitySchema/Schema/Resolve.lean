import EntitySchema.Schema.Graph
import EntitySchema.Schema.Inheritance
import EntitySchema.Schema.Model

/-!
# Resolving a registry into a model

Resolution checks every declaration in registration order, then the registry as a whole, and
fails with every error it found. For each declaration in turn: its references (the base first,
then the fields), its base chain (a ring of bases is reported once, by the first declaration
whose chain leads into it, turned to start at its member registered first), the fields it
declares again under an inherited name (unless shadowing is allowed; only when the chain is
complete), and the defaults that do not fit their field's type. Then the value cycles of the
dependency graph.

Without errors, each entity is resolved in emission order: its ancestors, its fields with
inherited ones first (a field declared again takes the inherited one's place), its hard
dependencies and every entity its own fields refer to.
-/

namespace EntitySchema

/-- How a registry is resolved. -/
structure ResolveOptions where
  /-- Let a derived entity declare a field under an inherited name; it takes the inherited
  field's place. -/
  allowShadowing : Bool := false

def EntityDecl.acceptsValue (t : EntityDecl) : Literal → Bool
  | .string v => t.enumValues.contains v
  | _ => false

/-- The progress of the pass over the declarations. -/
structure ResolvePass where
  errors : List SchemaError := []
  /-- The ancestors of each declaration whose chain is complete. -/
  chains : List (String × List String) := []
  /-- The rings of bases reported so far, in canonical form. -/
  reported : List (List String) := []

namespace Registry

/-- The references of a declaration that cannot be followed: the base first, then the fields. -/
def referenceErrors (r : Registry) (d : EntityDecl) : List SchemaError :=
  let baseErrors : List SchemaError := match d.base with
    | none => []
    | some b =>
      if b == d.name then [.unresolvedReference d.name none b (some "an entity cannot extend itself")]
      else match r.lookup? b with
        | none => [.unresolvedReference d.name none b none]
        | some t =>
          if t.isEnum then
            [.unresolvedReference d.name none b (some "an enumeration cannot be used as a base")]
          else []
  baseErrors ++ d.fields.filterMap fun f => match f.type.referencedName? with
    | some n => if r.contains n then none else some (.unresolvedReference d.name (some f.name) n none)
    | none => none

/-- Each field name declared by the ancestors, with the ancestor nearest the root declaring it. -/
def inheritedOwners (r : Registry) (ancestors : List String) : List (String × String) :=
  (ancestors.filterMap r.lookup?).foldl
    (fun acc a => a.fields.foldl
      (fun acc f => if acc.any (·.1 == f.name) then acc else acc ++ [(f.name, a.name)]) acc)
    []

/-- The fields of a declaration that take the name of an inherited field. -/
def shadowErrors (r : Registry) (d : EntityDecl) (ancestors : List String) : List SchemaError :=
  let inherited := r.inheritedOwners ancestors
  d.fields.filterMap fun f => (inherited.lookup f.name).map (.fieldShadow d.name f.name ·)

/-- What a field of the given type expects instead of a default that does not fit; nothing when
it fits, or when the type names no registered entity (that is reported as unresolved). -/
def defaultProblem (r : Registry) : FieldType → Literal → Option String
  | .primitive k, l => if k.accepts l then none else some k.schemaName
  | .reference n, l =>
    match r.lookup? n with
    | none => none
    | some t =>
      if t.isEnum then
        if t.acceptsValue l then none else some ("a value of enum '" ++ n ++ "'")
      else some ("no default for entity reference '" ++ n ++ "'")
  | .collection _, _ => some "no default for a collection"

/-- The defaults of a declaration that do not fit their field's type. -/
def defaultErrors (r : Registry) (d : EntityDecl) : List SchemaError :=
  d.fields.filterMap fun f => f.default.bind fun l =>
    (r.defaultProblem f.type l).map (.defaultTypeMismatch d.name f.name · l.kind)

/-- Checks one declaration. -/
def checkDecl (o : ResolveOptions) (r : Registry) (p : ResolvePass) (d : EntityDecl) :
    ResolvePass :=
  let p := { p with errors := p.errors ++ r.referenceErrors d }
  let p := match r.chainOf d with
    | .complete ancestors =>
      { p with
        errors := p.errors ++ (if o.allowShadowing then [] else r.shadowErrors d ancestors)
        chains := p.chains ++ [(d.name, ancestors)] }
    | .cycle ring =>
      let c := r.canonicalCycle ring
      if p.reported.contains c then p
      else { p with errors := p.errors ++ [SchemaError.inheritanceCycle c], reported := p.reported ++ [c] }
    | .broken => p
  { p with errors := p.errors ++ r.defaultErrors d }

/-- The fields of the owners laid out in order, a field declared again taking the place of the
earlier one. -/
def flattenFields (owners : List EntityDecl) : List ResolvedField :=
  owners.foldl
    (fun acc owner => owner.fields.foldl
      (fun acc f =>
        let field : ResolvedField := ⟨f.name, f.type, f.default, owner.name⟩
        if acc.any (·.name == f.name) then acc.map fun x => if x.name == f.name then field else x
        else acc ++ [field])
      acc)
    []

/-- The entities a declaration's own fields refer to, other than itself, each once. -/
def referencesOf (d : EntityDecl) : List String :=
  (d.fields.filterMap fun f => f.type.referencedName?).filter (· != d.name) |>.eraseDups

/-- The resolved entity of a declaration. -/
def materialize (r : Registry) (d : EntityDecl) (ancestors : List String) (rank : Nat)
    (g : DependencyGraph) : ResolvedEntity :=
  { name := d.name, kind := d.kind, ancestors,
    fields := flattenFields (ancestors.filterMap r.lookup? ++ [d]),
    rank, dependencies := g.dependencies d.name, references := referencesOf d,
    description := d.description, namespaceName := d.namespaceName, package := d.package,
    implements := d.implements, subdir := d.subdir }

/-- Resolves a registry into a model, or fails with every error found. -/
def resolve (o : ResolveOptions) (r : Registry) : Except (List SchemaError) Model :=
  let pass := r.decls.foldl (r.checkDecl o) {}
  let g := DependencyGraph.build r
  let errors := pass.errors ++ g.valueCycles
  if !errors.isEmpty then .error errors
  else
    .ok ⟨g.topologicalOrder.zipIdx.filterMap fun (name, rank) =>
      (r.lookup? name).map fun d => r.materialize d ((pass.chains.lookup name).getD []) rank g⟩

end Registry

end EntitySchema
