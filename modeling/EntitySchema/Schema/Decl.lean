import EntitySchema.Schema.FieldType

/-!
# Declarations

One schema document declares one entity: a class with fields and an optional base, or an
enumeration with its values. The remaining members steer code generation: a description, a
namespace, a package, an interface and a subdirectory for the generated file.
-/

namespace EntitySchema

/-- A declared field. -/
structure FieldDecl where
  name : String
  type : FieldType
  default : Option Literal := none

/-- Whether a declaration is a class or an enumeration with its values. -/
inductive DeclKind where
  | record
  | enumeration (values : List String)
  deriving BEq

def DeclKind.name : DeclKind → String
  | .record => "class"
  | .enumeration _ => "enum"

/-- A declared entity. -/
structure EntityDecl where
  name : String
  kind : DeclKind := .record
  base : Option String := none
  fields : List FieldDecl := []
  description : Option String := none
  namespaceName : Option String := none
  package : Option String := none
  implements : Option String := none
  subdir : Option String := none

namespace EntityDecl

def isEnum (d : EntityDecl) : Bool :=
  match d.kind with
  | .enumeration _ => true
  | .record => false

def enumValues (d : EntityDecl) : List String :=
  match d.kind with
  | .enumeration values => values
  | .record => []

def getField? (d : EntityDecl) (name : String) : Option FieldDecl :=
  d.fields.find? (·.name == name)

end EntityDecl

end EntitySchema
