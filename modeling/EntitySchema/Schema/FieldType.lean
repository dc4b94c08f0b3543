import EntitySchema.Schema.Primitive

/-!
# Field types

A field holds a primitive, a reference to another entity by name, or a collection of some field
type. Collections nest; `baseType` strips every collection layer, and `referencedName?` is the
entity at the bottom, if any. `directReference?` only sees a reference that is not inside a
collection: such a field holds the other entity by value.
-/

namespace EntitySchema

/-- The type of a field. -/
inductive FieldType where
  | primitive (kind : PrimitiveKind)
  | reference (name : String)
  | collection (element : FieldType)
  deriving Repr, BEq, DecidableEq

namespace FieldType

def baseType : FieldType → FieldType
  | .collection inner => inner.baseType
  | t => t

def isCollection : FieldType → Bool
  | .collection _ => true
  | _ => false

def referencedName? (t : FieldType) : Option String :=
  match t.baseType with
  | .reference name => some name
  | _ => none

def directReference? : FieldType → Option String
  | .reference name => some name
  | _ => none

def depth : FieldType → Nat
  | .collection inner => 1 + inner.depth
  | _ => 0

/-- The text of a type: a primitive's schema name, an entity's name, `collection<…>`. -/
def display : FieldType → String
  | .primitive kind => kind.schemaName
  | .reference name => name
  | .collection inner => "collection<" ++ inner.display ++ ">"

theorem baseType_isCollection (t : FieldType) : t.baseType.isCollection = false := by
  induction t with
  | primitive => rfl
  | reference => rfl
  | collection inner ih => exact ih

end FieldType

end EntitySchema
