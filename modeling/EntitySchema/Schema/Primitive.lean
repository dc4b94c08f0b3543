import EntitySchema.Schema.Literal

/-!
# Primitive kinds

The six built-in field types. Each has one canonical schema name and a few spellings that type
expressions accept; `accepts` says which literals may stand as a default of the kind.
-/

namespace EntitySchema

/-- A built-in field type. -/
inductive PrimitiveKind where
  | string
  | u32
  | i32
  | f32
  | f64
  | boolean
  deriving Repr, BEq, DecidableEq

namespace PrimitiveKind

/-- Every kind, in the order answers list them. -/
def all : List PrimitiveKind := [.string, .u32, .i32, .f32, .f64, .boolean]

/-- The canonical name in schemas. -/
def schemaName : PrimitiveKind → String
  | .string => "string"
  | .u32 => "integer-unsigned-32"
  | .i32 => "integer-signed-32"
  | .f32 => "float32"
  | .f64 => "float64"
  | .boolean => "boolean"

/-- The short name in requests and answers. -/
def shortName : PrimitiveKind → String
  | .string => "string"
  | .u32 => "u32"
  | .i32 => "i32"
  | .f32 => "f32"
  | .f64 => "f64"
  | .boolean => "boolean"

def ofShortName? (s : String) : Option PrimitiveKind := all.find? (·.shortName == s)

/-- Every spelling a schema may use for a kind, with the kind. -/
def spellings : List (String × PrimitiveKind) :=
  [("string", .string),
   ("integer-unsigned-32", .u32), ("u32", .u32), ("uint32", .u32), ("integer", .u32),
   ("integer-signed-32", .i32), ("i32", .i32), ("int32", .i32),
   ("float32", .f32), ("f32", .f32), ("float", .f32),
   ("float64", .f64), ("f64", .f64), ("double", .f64),
   ("boolean", .boolean), ("bool", .boolean)]

def ofSchemaName? (name : String) : Option PrimitiveKind := spellings.lookup name

/-- Whether a literal may be the default of a field of this kind: strings for strings, booleans
for booleans, integers within range for the integer kinds, and integers or doubles for the
floating kinds. -/
def accepts : PrimitiveKind → Literal → Bool
  | .string, .string _ => true
  | .boolean, .boolean _ => true
  | .u32, .integer n => 0 ≤ n ∧ n < Nat.pow 2 32
  | .i32, .integer n => -(Nat.pow 2 31) ≤ n ∧ n < Nat.pow 2 31
  | .f32, .integer _ | .f32, .float _ => true
  | .f64, .integer _ | .f64, .float _ => true
  | _, _ => false

end PrimitiveKind

end EntitySchema
