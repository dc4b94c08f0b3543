import EntitySchema.Json.Read
import EntitySchema.Schema.Decl
import EntitySchema.Schema.Error
import EntitySchema.Schema.TypeExpr
import EntitySchema.Schema.SourceLiteral
import EntitySchema.Path.Basic

/-!
# Schema documents

A document is a JSON object that declares one entity. Its members, all optional:

- `name` (else the document's file stem), `type` (`class` or `enum`), `base` or `parent`,
  `fields` or `members`, `values`, `description` (also spelled `comment`), `namespace`,
  `package`, `implements` and `subdir`;
- each field: `name`, `type` and `default`. Under `members` a string default is source text,
  under `fields` a plain string.

Reading goes in two steps. `Layout` is the document as written, read by `Layout.read` from the
text (or by `Layout.ofValue` from a JSON value already read); `Layout.toDecl` then checks it and
builds the declaration. The checks run in a fixed order and the first failure is reported:
the name, the declaration type, the two pairs of alternatives, the base, package, interface and
subdirectory, then each field in order, then the enumeration's own rules.
-/

namespace EntitySchema

open Json

/-- A field entry as written. -/
structure FieldLayout where
  name : Option String := none
  type : Option String := none
  default : Option Value := none

/-- A document as written. -/
structure Layout where
  name : Option String := none
  kind : Option String := none
  base : Option String := none
  parent : Option String := none
  fields : Option (List FieldLayout) := none
  members : Option (List FieldLayout) := none
  values : Option (List String) := none
  description : Option String := none
  namespaceName : Option String := none
  package : Option String := none
  implements : Option String := none
  subdir : Option String := none

/-! ## Reading the layout from text -/

def fieldShape : RecordShape :=
  { name := "RawField", members := ["name", "type", "default"]
    memberOf := fun k => ["name", "type", "default"].idxOf? k }

/-- The member names of a document, `comment` standing for `description`. -/
def documentMembers : List String :=
  ["name", "type", "base", "parent", "fields", "members", "values", "description", "namespace",
   "package", "implements", "subdir"]

def documentShape : RecordShape :=
  { name := "RawDocument", members := documentMembers
    memberOf := fun k => if k == "comment" then some 7 else documentMembers.idxOf? k }

/-- Reads member `i` of a field entry. -/
def fillField (i opened : Nat) (f : FieldLayout) : Scan FieldLayout :=
  match i with
  | 0 => do pure { f with name := ← readOptional readText }
  | 1 => do pure { f with type := ← readOptional readText }
  | _ => do pure { f with default := ← readOptional (readAnyValue opened) }

def readFieldList (opened : Nat) : Scan (Option (List FieldLayout)) :=
  readOptional (readSequence opened fun o => readRecord fieldShape o {} fillField)

/-- Reads member `i` of a document. -/
def fillDocument (i opened : Nat) (d : Layout) : Scan Layout :=
  let text := readOptional readText
  match i with
  | 0 => do pure { d with name := ← text }
  | 1 => do pure { d with kind := ← text }
  | 2 => do pure { d with base := ← text }
  | 3 => do pure { d with parent := ← text }
  | 4 => do pure { d with fields := ← readFieldList opened }
  | 5 => do pure { d with members := ← readFieldList opened }
  | 6 => do pure { d with values := ← readOptional (readSequence opened fun _ => readText) }
  | 7 => do pure { d with description := ← text }
  | 8 => do pure { d with namespaceName := ← text }
  | 9 => do pure { d with package := ← text }
  | 10 => do pure { d with implements := ← text }
  | _ => do pure { d with subdir := ← text }

/-- Reads the layout of a document from its text. -/
def Layout.read (content : String) : Except String Layout :=
  let bytes := content.toUTF8
  match readAll (readRecord documentShape 0 {} fillDocument) bytes with
  | .ok d => .ok d
  | .error e => .error (e.message bytes)

/-! ## Reading the layout from a JSON value -/

def textOfValue : Value → Except Problem (Option String)
  | .null => .ok none
  | .string s => .ok (some s)
  | v => .error (.invalidType v.unexpected "a string")

/-- An optional sequence from a JSON value, each item converted by `item`. -/
def seqOfValue (item : Value → Except Problem α) : Value → Except Problem (Option (List α))
  | .null => .ok none
  | .array items => some <$> items.mapM item
  | v => .error (.invalidType v.unexpected "a sequence")

/-- A record from a JSON value: an object's members by key, or an array's items in order. -/
def recordOfValue (shape : RecordShape) (init : β) (fill : Nat → Value → β → Except Problem β)
    (v : Value) : Except Problem β :=
  match v with
  | .object members =>
    let step (acc : Except Problem (β × List Nat)) (kv : String × Value) :=
      acc.bind fun (b, seen) =>
        match shape.memberOf kv.1 with
        | some i =>
          if seen.contains i then .error (.duplicateField ((shape.members[i]?).getD kv.1))
          else (fun b' => (b', i :: seen)) <$> fill i kv.2 b
        | none => .ok (b, seen)
    Prod.fst <$> members.foldl step (.ok (init, []))
  | .array items =>
    let n := shape.members.length
    let step (acc : Except Problem β) (i : Nat) :=
      acc.bind fun b =>
        match items[i]? with
        | some item => fill i item b
        | none => .error (.invalidLength i ("struct " ++ shape.name ++ s!" with {n} elements"))
    (List.range n).foldl step (.ok init) |>.bind fun b =>
      if items.length > n then .error (.invalidLength items.length "fewer elements in array")
      else .ok b
  | _ => .error (.invalidType v.unexpected ("struct " ++ shape.name))

/-- Member `i` of a field entry from a JSON value. -/
def fieldOfValue (i : Nat) (v : Value) (f : FieldLayout) : Except Problem FieldLayout :=
  match i with
  | 0 => (fun s => { f with name := s }) <$> textOfValue v
  | 1 => (fun s => { f with type := s }) <$> textOfValue v
  | _ => .ok { f with default := if v.isNull then none else some v }

/-- Member `i` of a document from a JSON value. -/
def documentOfValue (i : Nat) (v : Value) (d : Layout) : Except Problem Layout :=
  let fieldList := seqOfValue (recordOfValue fieldShape {} fieldOfValue) v
  match i with
  | 0 => (fun s => { d with name := s }) <$> textOfValue v
  | 1 => (fun s => { d with kind := s }) <$> textOfValue v
  | 2 => (fun s => { d with base := s }) <$> textOfValue v
  | 3 => (fun s => { d with parent := s }) <$> textOfValue v
  | 4 => (fun s => { d with fields := s }) <$> fieldList
  | 5 => (fun s => { d with members := s }) <$> fieldList
  | 6 => (fun s => { d with values := s }) <$> seqOfValue (fun x => do
      match ← textOfValue x with
      | some s => pure s
      | none => .error (.invalidType .null "a string")) v
  | 7 => (fun s => { d with description := s }) <$> textOfValue v
  | 8 => (fun s => { d with namespaceName := s }) <$> textOfValue v
  | 9 => (fun s => { d with package := s }) <$> textOfValue v
  | 10 => (fun s => { d with implements := s }) <$> textOfValue v
  | _ => (fun s => { d with subdir := s }) <$> textOfValue v

def Layout.ofValue (v : Value) : Except String Layout :=
  match recordOfValue documentShape {} documentOfValue v with
  | .ok d => .ok d
  | .error p => .error p.message

/-! ## From layout to declaration -/

/-- The value given under one of two names; both at once is an error. -/
def pickOne (document : String) (first second : String × Option α) :
    Except SchemaError (Option α) :=
  match first.2, second.2 with
  | some _, some _ =>
    .error (.malformed document none
      ("'" ++ first.1 ++ "' and '" ++ second.1 ++ "' cannot both be given"))
  | some a, none => .ok (some a)
  | none, b => .ok b

def isPlainRelativePath (p : String) : Bool :=
  !p.isEmpty && (Path.components p).all Path.Component.isNormal

/-- A field's default: under `members` a string is source text, anything else reads as a
JSON literal. -/
def decodeDefault (sourceText : Bool) (v : Value) : Except String Literal :=
  match v with
  | .string text => if sourceText then decodeSourceLiteral text else literalOfValue v
  | _ => literalOfValue v

/-- Checks and converts field entry number `index` (from zero). -/
def FieldLayout.toDecl (s : Spellings) (document : String) (sourceText : Bool) (index : Nat)
    (f : FieldLayout) : Except SchemaError FieldDecl := do
  let some name := f.name
    | .error (.malformed document none s!"field #{index + 1} has no name")
  if !isIdentifier name then
    .error (.malformed document (some name) "field name is not a valid identifier")
  let some typeExpr := f.type
    | .error (.malformed document (some name) "field has no type")
  let type ← match s.readType typeExpr with
    | .ok t => pure t
    | .error m => .error (.malformed document (some name) m)
  let default ← match f.default with
    | none => pure none
    | some v =>
      match decodeDefault sourceText v with
      | .ok l => pure (some l)
      | .error m => .error (.malformed document (some name) m)
  pure { name, type, default }

/-- Converts the fields in order, refusing a name given twice. -/
def fieldsToDecls (s : Spellings) (document : String) (sourceText : Bool) :
    Nat → List String → List FieldLayout → Except SchemaError (List FieldDecl)
  | _, _, [] => .ok []
  | index, seen, f :: rest => do
    let d ← f.toDecl s document sourceText index
    if seen.contains d.name then
      .error (.malformed document (some d.name) "field is declared more than once")
    let ds ← fieldsToDecls s document sourceText (index + 1) (d.name :: seen) rest
    pure (d :: ds)

def firstRepeat : List String → List String → Option String
  | _, [] => none
  | seen, v :: rest => if seen.contains v then some v else firstRepeat (v :: seen) rest

/-- The rules of an enumeration: no base, no fields, no interface, at least one value, every
value an identifier and none twice. -/
def checkEnum (document : String) (d : EntityDecl) (values : List String) :
    Except SchemaError Unit := do
  if d.base.isSome then .error (.malformed document none "enum declarations cannot have a base")
  if let some f := d.fields.head? then
    .error (.malformed document (some f.name) "enum declarations cannot have fields")
  if d.implements.isSome then
    .error (.malformed document none "enum declarations cannot implement an interface")
  if values.isEmpty then .error (.malformed document none "enum declaration has no values")
  match values.find? (fun v => !isIdentifier v) with
  | some v => .error (.malformed document none s!"enum value '{v}' is not a valid identifier")
  | none => pure ()
  match firstRepeat [] values with
  | some v => .error (.malformed document none s!"enum value '{v}' is declared more than once")
  | none => pure ()

def require (document : String) (ok : Bool) (message : String) : Except SchemaError Unit :=
  if ok then pure () else .error (.malformed document none message)

/-- Passes when the value is absent or `ok` holds of it. -/
def requireIfSome (document : String) (value : Option String) (ok : String → Bool)
    (message : String → String) : Except SchemaError Unit :=
  match value with
  | some v => require document (ok v) (message v)
  | none => pure ()

/-- The rules of a declaration type: an enumeration's own, and no values on a class. -/
def checkKind (document : String) (decl : EntityDecl) (values? : Option (List String)) :
    DeclKind → Except SchemaError Unit
  | .enumeration values => checkEnum document decl values
  | .record => require document (!values?.isSome) "'values' is only allowed on enum declarations"

/-- The declaration type a layout gives: a class unless it says `enum`. -/
def Layout.declKind (raw : Layout) (document : String) : Except SchemaError DeclKind :=
  match raw.kind with
  | none => pure DeclKind.record
  | some "class" => pure DeclKind.record
  | some "enum" => pure (DeclKind.enumeration (raw.values.getD []))
  | some other => .error (.malformed document none
      s!"unknown declaration type '{other}', expected 'class' or 'enum'")

/-- Checks a document's layout and builds its declaration. -/
def Layout.toDecl (s : Spellings) (document : String) (raw : Layout) :
    Except SchemaError EntityDecl := do
  let sourceText := raw.members.isSome
  let some name := raw.name <|> Path.fileStem? document
    | .error (.malformed document none "document has no entity name")
  require document (isIdentifier name) s!"'{name}' is not a valid entity name"
  let kind ← raw.declKind document
  let base ← pickOne document ("base", raw.base) ("parent", raw.parent)
  let fields ← pickOne document ("fields", raw.fields) ("members", raw.members)
  requireIfSome document base isIdentifier fun b => s!"'{b}' is not a valid base entity name"
  requireIfSome document raw.package isQualifiedName fun p => s!"'{p}' is not a valid package name"
  requireIfSome document raw.implements isQualifiedName
    fun i => s!"'{i}' is not a valid interface name"
  requireIfSome document raw.subdir isPlainRelativePath
    fun sd => s!"subdir '{sd}' must be a relative path without '..'"
  let fieldDecls ← fieldsToDecls s document sourceText 0 [] (fields.getD [])
  let decl : EntityDecl :=
    { name, kind, base, fields := fieldDecls, description := raw.description,
      namespaceName := raw.namespaceName, package := raw.package,
      implements := raw.implements, subdir := raw.subdir }
  checkKind document decl raw.values kind
  pure decl

/-- Reads one schema document into its declaration. -/
def Spellings.readDocument (s : Spellings) (document content : String) :
    Except SchemaError EntityDecl :=
  match Layout.read content with
  | .ok raw => raw.toDecl s document
  | .error m => .error (.malformed document none ("invalid JSON: " ++ m))

/-- Reads a schema document already decoded into a JSON value. -/
def Spellings.readDocumentValue (s : Spellings) (document : String) (v : Value) :
    Except SchemaError EntityDecl :=
  match Layout.ofValue v with
  | .ok raw => raw.toDecl s document
  | .error m => .error (.malformed document none ("invalid document: " ++ m))

end EntitySchema
