import EntitySchema.Decimal.Notation
import EntitySchema.Text.Quote

/-!
# Default values

A field's default is a literal: a boolean, a signed 64-bit integer, a double or a string.
`Literal.display` is its text in messages and answers: `true`, `42`, the debugging notation of a
double (`1.5`, `1e16`) and the debugging quote of a string (`"a\"b"`).
-/

namespace EntitySchema

/-- The four kinds of literal. -/
inductive LiteralKind where
  | string
  | integer
  | float
  | boolean
  deriving Repr, BEq, DecidableEq

/-- The name of a literal kind in messages. -/
def LiteralKind.name : LiteralKind → String
  | .string => "string"
  | .integer => "integer"
  | .float => "float"
  | .boolean => "boolean"

/-- A default value. -/
inductive Literal where
  | boolean (b : Bool)
  /-- A signed 64-bit integer. -/
  | integer (n : Int)
  | float (x : Float)
  | string (s : String)

namespace Literal

/-- The kind of a literal. -/
def kind : Literal → LiteralKind
  | .boolean _ => .boolean
  | .integer _ => .integer
  | .float _ => .float
  | .string _ => .string

def floatText (x : Float) : String := Decimal.Notation.debug.write x

/-- The text of a literal in messages. -/
def display : Literal → String
  | .boolean b => if b then "true" else "false"
  | .integer n => toString n
  | .float x => floatText x
  | .string s => Text.debugQuote s

/-- Two literals are the same when they are of one kind and equal; doubles compare as numbers. -/
def beq : Literal → Literal → Bool
  | .boolean a, .boolean b => a == b
  | .integer a, .integer b => a == b
  | .float a, .float b => a == b
  | .string a, .string b => a == b
  | _, _ => false

instance : BEq Literal := ⟨beq⟩

end Literal

end EntitySchema
