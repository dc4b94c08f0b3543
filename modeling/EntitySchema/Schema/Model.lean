import EntitySchema.Schema.Decl

/-!
# Resolved models

A resolved entity is a declaration with its inheritance flattened: its ancestors root first, and
every field it holds, inherited ones first, each marked with the entity that declares it. A model
holds the resolved entities in emission order, and an entity's rank is its place in that order.
-/

namespace EntitySchema

/-- A field of a resolved entity. -/
structure ResolvedField where
  name : String
  type : FieldType
  default : Option Literal
  /-- The entity whose document declares the field. -/
  declaredIn : String
  deriving BEq

/-- A declaration with its inheritance chain and full field layout. -/
structure ResolvedEntity where
  name : String
  kind : DeclKind
  /-- Ancestor names, root first, the immediate base last. -/
  ancestors : List String
  /-- Inherited fields followed by own fields, each in declared order. -/
  fields : List ResolvedField
  /-- The place in the emission order. -/
  rank : Nat
  /-- The base and every entity held by value. -/
  dependencies : List String
  /-- Every entity referred to by a field, those behind collections included. -/
  references : List String
  description : Option String
  namespaceName : Option String
  package : Option String
  implements : Option String
  subdir : Option String
  deriving BEq

namespace ResolvedEntity

def parent? (e : ResolvedEntity) : Option String := e.ancestors.getLast?

def ownFields (e : ResolvedEntity) : List ResolvedField :=
  e.fields.filter (·.declaredIn == e.name)

def inheritedFields (e : ResolvedEntity) : List ResolvedField :=
  e.fields.filter (·.declaredIn != e.name)

def getField? (e : ResolvedEntity) (name : String) : Option ResolvedField :=
  e.fields.find? (·.name == name)

def fieldNames (e : ResolvedEntity) : List String := e.fields.map (·.name)

def isEnum (e : ResolvedEntity) : Bool :=
  match e.kind with
  | .enumeration _ => true
  | .record => false

def enumValues (e : ResolvedEntity) : List String :=
  match e.kind with
  | .enumeration values => values
  | .record => []

end ResolvedEntity

/-- Resolved entities in emission order. -/
structure Model where
  entities : List ResolvedEntity
  deriving BEq

namespace Model

def get? (m : Model) (name : String) : Option ResolvedEntity := m.entities.find? (·.name == name)

def emissionOrder (m : Model) : List String := m.entities.map (·.name)

def size (m : Model) : Nat := m.entities.length

def isEmpty (m : Model) : Bool := m.entities.isEmpty

def isEnum (m : Model) (name : String) : Bool := (m.get? name).any (·.isEnum)

end Model

end EntitySchema
