import EntitySchema.Emit.Options
import EntitySchema.Emit.Indented
import EntitySchema.Target.Spelling

/-!
# Rust files

Rust has no inheritance, so a struct carries the entity's whole flattened field list, inherited
fields marked in their documentation, and a `Default` implementation that gives every field its
schema default or the type's own. A field whose Rust name differs from the schema name keeps the
schema name for serialization; so does an enumerator. Each file opens with a header of line
comments, and `mod.rs` declares every module and re-exports its type.
-/

namespace EntitySchema.Emit

open EntitySchema.Target

/-- The header of a Rust file. -/
def rustHeader (e : ResolvedEntity) (date fingerprint : Option String) : String :=
  let lines := ["//! Generated model: " ++ e.name,
    "// This file is auto-generated. Do not edit manually."] ++
    (date.map ("// Creation date: " ++ ·)).toList ++
    (fingerprint.map (fun f => "// " ++ fingerprintLabel ++ f)).toList ++ [""]
  ({ items := lines.map Item.raw } : Scope).render

def serdeScope : Scope := ({} : Scope).addImport "serde" "\x7bSerialize, Deserialize\x7d"

/-- The entities a Rust struct refers to through its fields, inherited ones included, itself
aside. -/
def rustReferences (e : ResolvedEntity) : List String :=
  (e.fields.filterMap (·.type.referencedName?)).filter (· != e.name)

/-- The imports of a Rust struct: serialization, then each entity it refers to from the sibling
modules. -/
def rustImports (e : ResolvedEntity) : Scope :=
  (rustReferences e).foldl (fun s n => s.addImport "super" n) serdeScope

/-- The struct of an entity with its `Default` implementation. -/
def renderRustStruct (e : ResolvedEntity) (date fingerprint : Option String) : String :=
  let scope := rustImports e
  let docs := e.description.getD ("Model: " ++ e.name) ++
    (if e.ancestors.isEmpty then "" else "\n\nFlattened from: " ++ " -> ".intercalate e.ancestors)
  let field (f : ResolvedField) : FieldDef :=
    let rustName := Language.rust.memberName f.name
    { name := "pub " ++ rustName, type := Language.rust.typeSpelling f.type,
      docs := if f.declaredIn != e.name then ["Inherited from " ++ f.declaredIn] else [],
      annotations := if rustName != f.name then ["#[serde(rename = \"" ++ f.name ++ "\")]"] else [] }
  let initial (f : ResolvedField) : String :=
    let value := match f.default with
      | some l => Language.rust.defaultSpelling f.type l
      | none => "Default::default()"
    "    " ++ Language.rust.memberName f.name ++ ": " ++ value ++ ","
  let model : StructDef :=
    { name := e.name, docs := some docs,
      derives := ["Debug", "Clone", "PartialEq", "Serialize", "Deserialize"],
      fields := e.fields.map field }
  let defaultFn : FnDef :=
    { name := "default", returns := some "Self", body := ["Self \x7b"] ++ e.fields.map initial ++ ["\x7d"] }
  let scope := ((scope.push (.raw "")).push (.structDef model)).push (.raw "")
  let scope := scope.push (.implDef { target := e.name, traitName := some "Default", fns := [defaultFn] })
  rustHeader e date fingerprint ++ scope.render

/-- The enumeration of an entity; the first value is the default. -/
def renderRustEnum (e : ResolvedEntity) (date fingerprint : Option String) : String :=
  let docs := e.description.getD ("Enumeration: " ++ e.name)
  let variants := e.enumValues.zipIdx.map fun (v, k) =>
    let variant := Language.rust.enumeratorName v
    (if k == 0 then "    #[default]\n" else "") ++
      (if variant != v then "    #[serde(rename = \"" ++ v ++ "\")]\n" else "") ++
      "    " ++ variant ++ ",\n"
  let code := String.join ((Text.splitLines docs).map fun line => "/// " ++ line ++ "\n") ++
    "#[derive(Debug, Clone, Copy, PartialEq, Eq, Hash, Default, Serialize, Deserialize)]\n" ++
    "pub enum " ++ e.name ++ " \x7b\n" ++ String.join variants ++ "\x7d"
  rustHeader e date fingerprint ++ ((serdeScope.push (.raw "")).push (.raw code)).render

def renderRust (e : ResolvedEntity) (date fingerprint : Option String) : String :=
  if e.isEnum then renderRustEnum e date fingerprint else renderRustStruct e date fingerprint

/-- `mod.rs`: every module of the model declared, then every type re-exported. -/
def rustModuleFile (m : Model) : String :=
  "//! Generated models module\n//!\n// This file is auto-generated. Do not edit manually.\n\n" ++
    String.join (m.entities.map fun e => "pub mod " ++ rustModuleName e.name ++ ";\n") ++ "\n" ++
    String.join (m.entities.map fun e =>
      "pub use " ++ rustModuleName e.name ++ "::" ++ e.name ++ ";\n")

end EntitySchema.Emit
