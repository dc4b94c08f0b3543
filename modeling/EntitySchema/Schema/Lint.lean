import EntitySchema.Schema.Model
import EntitySchema.Schema.Name

/-!
# Style warnings

Warnings about a resolved model that never make resolution fail: an entity name should start with
an uppercase ASCII letter, a field name should not, and a field named by a reserved word of a
target language will be escaped. Fields are looked at on the entity that declares them.
-/

namespace EntitySchema

def startsUpper (s : String) : Bool :=
  match s.toList with
  | c :: _ => c.isUpper
  | [] => false

/-- The warnings about one entity. -/
def ResolvedEntity.warnings (e : ResolvedEntity) : List String :=
  let nameWarning :=
    if startsUpper e.name then []
    else ["Entity name '" ++ e.name ++ "' should start with an uppercase letter"]
  nameWarning ++ e.ownFields.flatMap fun f =>
    (if startsUpper f.name then
      ["Field name '" ++ f.name ++ "' in entity '" ++ e.name ++
        "' should start with a lowercase letter"]
    else []) ++
    (if isReservedWord f.name then
      ["Field name '" ++ f.name ++ "' in entity '" ++ e.name ++
        "' is a reserved word in a target language and will be escaped"]
    else [])

def Model.lint (m : Model) : List String := m.entities.flatMap (·.warnings)

end EntitySchema
