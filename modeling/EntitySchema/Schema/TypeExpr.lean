import EntitySchema.Schema.FieldType
import EntitySchema.Schema.Name
import EntitySchema.Text.Blank

/-!
# Type expressions

A field's type is written as text: a primitive spelling, an entity name, or
`collection<T>` / `list<T>` around another type expression. Blanks anywhere are ignored. The
spellings of primitives form a table that readers may extend; a later entry for the same
spelling replaces the earlier one.
-/

namespace EntitySchema

/-- The primitive spellings a schema reader accepts. -/
structure Spellings where
  table : List (String × PrimitiveKind) := PrimitiveKind.spellings

namespace Spellings

def standard : Spellings := {}

/-- Makes `spelling` stand for `kind`, replacing what it stood for before. -/
def register (s : Spellings) (spelling : String) (kind : PrimitiveKind) : Spellings :=
  { table := (spelling, kind) :: s.table.filter (·.1 != spelling) }

def lookup? (s : Spellings) (name : String) : Option PrimitiveKind := s.table.lookup name

end Spellings

def collectionOpeners : List String := ["collection<", "list<"]

/-- Reads a type expression without blanks; `fuel` bounds the nesting. -/
def readCompactType (s : Spellings) (expr : String) : Nat → Except String FieldType
  | 0 => .error "missing type"
  | fuel + 1 =>
    if expr.isEmpty then .error "missing type"
    else
      match collectionOpeners.find? (expr.startsWith ·) with
      | some opener =>
        let rest := expr.drop opener.length
        if rest.endsWith ">" then
          FieldType.collection <$> readCompactType s (rest.dropEnd 1).toString fuel
        else .error ("unterminated '" ++ opener ++ "'")
      | none =>
        match s.lookup? expr with
        | some kind => .ok (.primitive kind)
        | none =>
          if isIdentifier expr then .ok (.reference expr)
          else .error ("'" ++ expr ++ "' is not a type name")

/-- Reads a type expression; a failure names the expression as written. -/
def Spellings.readType (s : Spellings) (expr : String) : Except String FieldType :=
  let compact := Text.dropBlanks expr
  match readCompactType s compact (compact.length + 1) with
  | .ok t => .ok t
  | .error m => .error (m ++ " in type expression '" ++ expr ++ "'")

end EntitySchema
