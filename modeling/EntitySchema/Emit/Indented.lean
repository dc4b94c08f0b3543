import EntitySchema.Text.Blank

/-!
# Indented text

A writer that indents every line it starts by the current depth. Text arrives in pieces; each
piece is cut into lines the usual way (at line feeds, a carriage return before a line feed
dropped), and a line is indented when it is not empty and starts a line of the output. A block
opens with ` {` (the space only when the line has begun), indents its body by four spaces more,
and closes with `}` on a line of its own.

On this writer sits a small model of a Rust source file: a scope of imports and items, where an
item is raw text, a struct with documented and annotated fields, or an impl block of functions
whose bodies are lines of text.
-/

namespace EntitySchema.Emit

/-- Text written so far and the current indentation in spaces. -/
structure Indented where
  text : String := ""
  spaces : Nat := 0

namespace Indented

def atLineStart (w : Indented) : Bool := w.text.isEmpty || w.text.endsWith "\n"

/-- Writes one piece of text, indenting each nonempty line that starts a line of the output. -/
def write (w : Indented) (piece : String) : Indented :=
  let pad := String.ofList (List.replicate w.spaces ' ')
  let step (acc : String × Bool × Bool) (line : String) : String × Bool × Bool :=
    let (text, first, startsLine) := acc
    let text := if first then text else text ++ "\n"
    let text := if startsLine && !line.isEmpty && w.spaces > 0 then text ++ pad else text
    (text ++ line, false, true)
  let (text, _, _) := (Text.splitLines piece).foldl step (w.text, true, w.atLineStart)
  { w with text := if piece.endsWith "\n" then text ++ "\n" else text }

def writeAll (w : Indented) (pieces : List String) : Indented := pieces.foldl write w

/-- A block: ` {`, the body four spaces deeper, and `}` on its own line. -/
def block (w : Indented) (body : Indented → Indented) : Indented :=
  let w := if w.atLineStart then w else w.write " "
  let inner := body { w.write "\x7b\n" with spaces := w.spaces + 4 }
  { inner with spaces := w.spaces }.write "\x7d\n"

def writeDocs (w : Indented) (docs : String) : Indented :=
  (Text.splitLines docs).foldl (fun w line => w.writeAll ["/// ", line, "\n"]) w

end Indented

/-- A field of a struct. -/
structure FieldDef where
  name : String
  type : String
  docs : List String := []
  annotations : List String := []

/-- A public struct. -/
structure StructDef where
  name : String
  docs : Option String := none
  derives : List String := []
  fields : List FieldDef := []

/-- A function whose body is given as lines. -/
structure FnDef where
  name : String
  returns : Option String := none
  body : List String := []

/-- An impl block, of a trait or inherent. -/
structure ImplDef where
  target : String
  traitName : Option String := none
  fns : List FnDef := []

/-- An item of a source file. -/
inductive Item where
  | raw (text : String)
  | structDef (s : StructDef)
  | implDef (i : ImplDef)

/-- A source file: imports grouped by path, then items. -/
structure Scope where
  imports : List (String × List String) := []
  items : List Item := []

namespace Scope

/-- Adds an import of `name` from `path`, once. -/
def addImport (s : Scope) (path name : String) : Scope :=
  if s.imports.any (·.1 == path) then
    { s with imports := s.imports.map fun (p, names) =>
        if p == path && !names.contains name then (p, names ++ [name]) else (p, names) }
  else { s with imports := s.imports ++ [(path, [name])] }

def push (s : Scope) (item : Item) : Scope := { s with items := s.items ++ [item] }

end Scope

namespace Indented

/-- Writes a struct: documentation, derives, and the fields in a block, or `;` without fields. -/
def writeStruct (w : Indented) (s : StructDef) : Indented :=
  let w := match s.docs with
    | some d => w.writeDocs d
    | none => w
  let w := if s.derives.isEmpty then w else w.write ("#[derive(" ++ ", ".intercalate s.derives ++ ")]\n")
  let w := w.writeAll ["pub ", "struct ", s.name]
  if s.fields.isEmpty then w.write ";\n"
  else w.block fun w => s.fields.foldl
    (fun w f =>
      let w := f.docs.foldl (fun w d => w.writeAll ["/// ", d, "\n"]) w
      let w := f.annotations.foldl (fun w a => w.writeAll [a, "\n"]) w
      w.writeAll [f.name, ": ", f.type, ",\n"])
    w

/-- Writes a function with its body in a block. -/
def writeFn (w : Indented) (f : FnDef) : Indented :=
  let w := w.writeAll ["fn ", f.name, "(", ")"]
  let w := match f.returns with
    | some r => w.writeAll [" -> ", r]
    | none => w
  w.block fun w => f.body.foldl (fun w line => w.writeAll [line, "\n"]) w

/-- Writes an impl block. -/
def writeImpl (w : Indented) (i : ImplDef) : Indented :=
  let w := w.write "impl"
  let w := match i.traitName with
    | some t => w.writeAll [" ", t, " for"]
    | none => w
  let w := w.writeAll [" ", i.target]
  w.block fun w => (i.fns.zipIdx.foldl
    (fun w (f, k) => (if k == 0 then w else w.write "\n").writeFn f) w)

def writeItem (w : Indented) : Item → Indented
  | .raw text => w.writeAll [text, "\n"]
  | .structDef s => w.writeStruct s
  | .implDef i => w.writeImpl i

/-- Writes the imports of a scope, one `use` line a path. -/
def writeImports (w : Indented) (imports : List (String × List String)) : Indented :=
  imports.foldl
    (fun w (path, names) => match names with
      | [] => w
      | [name] => w.writeAll ["use ", path, "::", name, ";\n"]
      | _ => w.writeAll ["use ", path, "::", "\x7b", ", ".intercalate names, "\x7d;\n"])
    w

end Indented

/-- The text of a scope: imports, a blank line after them, and the items separated by line
feeds, without the last line feed. -/
def Scope.render (s : Scope) : String :=
  let w := ({} : Indented).writeImports s.imports
  let w := if s.imports.isEmpty then w else w.write "\n"
  let w := s.items.zipIdx.foldl (fun w (item, k) => (if k == 0 then w else w.write "\n").writeItem item) w
  if w.text.endsWith "\n" then String.ofList w.text.toList.dropLast else w.text

end EntitySchema.Emit
