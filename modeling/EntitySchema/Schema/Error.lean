import EntitySchema.Schema.Literal

/-!
# Schema errors

Everything that can be wrong with a set of schema documents, one constructor per cause, with
the entity and field each one is about and its message.
-/

namespace EntitySchema

/-- The seven kinds of schema error, in the order reports list them. -/
inductive ErrorKind where
  | malformed
  | duplicateEntity
  | unresolvedReference
  | inheritanceCycle
  | fieldShadow
  | valueCycle
  | defaultTypeMismatch
  deriving Repr, BEq, DecidableEq

def ErrorKind.all : List ErrorKind :=
  [.malformed, .duplicateEntity, .unresolvedReference, .inheritanceCycle, .fieldShadow,
   .valueCycle, .defaultTypeMismatch]

/-- The name of a kind in reports. -/
def ErrorKind.name : ErrorKind → String
  | .malformed => "SchemaSyntaxError"
  | .duplicateEntity => "DuplicateEntityError"
  | .unresolvedReference => "UnresolvedReferenceError"
  | .inheritanceCycle => "InheritanceCycleError"
  | .fieldShadow => "FieldShadowError"
  | .valueCycle => "ValueCycleError"
  | .defaultTypeMismatch => "DefaultTypeMismatchError"

/-- A schema error. -/
inductive SchemaError where
  /-- A document that cannot be read as a declaration. -/
  | malformed (document : String) (field : Option String) (message : String)
  /-- Two declarations of one entity. -/
  | duplicateEntity (name : String)
  /-- A base or field type that names no declared entity, or one that cannot serve. -/
  | unresolvedReference (entity : String) (field : Option String) (referenced : String)
      (reason : Option String)
  /-- A chain of bases that comes back to where it started. -/
  | inheritanceCycle (chain : List String)
  /-- A field declared again under the name of an inherited one. -/
  | fieldShadow (entity field declaredIn : String)
  /-- Entities that hold each other by value. -/
  | valueCycle (entity field : String) (cycle : List String)
  /-- A default that does not fit its field's type. -/
  | defaultTypeMismatch (entity field expected : String) (literal : LiteralKind)
  deriving BEq

namespace SchemaError

def fieldSuffix : Option String → String
  | some f => ", field '" ++ f ++ "'"
  | none => ""

/-- The message of an error. -/
def message : SchemaError → String
  | .malformed document field msg =>
    "Syntax error in schema document '" ++ document ++ "'" ++ fieldSuffix field ++ ": " ++ msg
  | .duplicateEntity name => "Entity '" ++ name ++ "' is declared more than once"
  | .unresolvedReference entity field referenced reason =>
    "Entity '" ++ entity ++ "'" ++ fieldSuffix field ++ " references unknown entity '" ++
      referenced ++ "'" ++ (match reason with | some r => " (" ++ r ++ ")" | none => "")
  | .inheritanceCycle chain => "Inheritance cycle: " ++ " -> ".intercalate chain
  | .fieldShadow entity field declaredIn =>
    "Field '" ++ field ++ "' of entity '" ++ entity ++ "' shadows the field inherited from '" ++
      declaredIn ++ "'"
  | .valueCycle entity field cycle =>
    "Value cycle through field '" ++ field ++ "' of entity '" ++ entity ++ "': " ++
      " -> ".intercalate cycle
  | .defaultTypeMismatch entity field expected literal =>
    "Default of field '" ++ field ++ "' in entity '" ++ entity ++ "' is a " ++ literal.name ++
      " literal, expected " ++ expected

/-- The kind of an error. -/
def kind : SchemaError → ErrorKind
  | .malformed .. => .malformed
  | .duplicateEntity .. => .duplicateEntity
  | .unresolvedReference .. => .unresolvedReference
  | .inheritanceCycle .. => .inheritanceCycle
  | .fieldShadow .. => .fieldShadow
  | .valueCycle .. => .valueCycle
  | .defaultTypeMismatch .. => .defaultTypeMismatch

/-- The entity an error is about: the document of a malformed one, the first member of a
cycle. -/
def entity? : SchemaError → Option String
  | .malformed document .. => some document
  | .duplicateEntity name => some name
  | .unresolvedReference entity .. => some entity
  | .inheritanceCycle chain => chain.head?
  | .fieldShadow entity .. => some entity
  | .valueCycle entity .. => some entity
  | .defaultTypeMismatch entity .. => some entity

/-- The field an error is about, if any. -/
def field? : SchemaError → Option String
  | .malformed _ field _ => field
  | .duplicateEntity _ => none
  | .unresolvedReference _ field _ _ => field
  | .inheritanceCycle _ => none
  | .fieldShadow _ field _ => some field
  | .valueCycle _ field _ => some field
  | .defaultTypeMismatch _ field _ _ => some field

/-- The summary of a failed load or resolution: how many errors it found. -/
def summary (errors : List SchemaError) : String :=
  "Schema resolution failed with " ++ toString errors.length ++ " error(s)"

end SchemaError

/-- Every error a load or a resolution found, reported together. -/
structure Diagnostics where
  errors : List SchemaError
  deriving BEq

namespace Diagnostics

def new (errors : List SchemaError) : Diagnostics := ⟨errors⟩

def len (d : Diagnostics) : Nat := d.errors.length

def isEmpty (d : Diagnostics) : Bool := d.errors.isEmpty

def hasKind (d : Diagnostics) (k : ErrorKind) : Bool := d.errors.any (·.kind == k)

def ofKind (d : Diagnostics) (k : ErrorKind) : List SchemaError := d.errors.filter (·.kind == k)

end Diagnostics

end EntitySchema
