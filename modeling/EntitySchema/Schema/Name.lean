/-!
# Names in schemas

Entity, field, base and enumerator names are ASCII identifiers: a letter or underscore, then
letters, digits or underscores. Package and interface names are identifiers joined by dots.
`reservedWords` lists words that are keywords of some target language; a field of such a name is
written escaped in the code generated for it.
-/

namespace EntitySchema

def isIdentStart (c : Char) : Bool := c.isAlpha || c == '_'

def isIdentPart (c : Char) : Bool := c.isAlphanum || c == '_'

/-- An ASCII identifier: a letter or underscore, then letters, digits or underscores. -/
def isIdentifier (s : String) : Bool :=
  match s.toList with
  | [] => false
  | c :: rest => isIdentStart c && rest.all isIdentPart

/-- Identifiers joined by dots, such as `com.acme.models`. -/
def isQualifiedName (s : String) : Bool := (s.splitOn ".").all isIdentifier

/-- Words that are keywords in at least one target language. -/
def reservedWords : List String :=
  ["abstract", "as", "async", "await", "auto", "bool", "boolean", "break", "byte", "case",
   "catch", "char", "class", "const", "continue", "crate", "default", "delete", "do", "double",
   "dyn", "else", "enum", "event", "explicit", "extends", "extern", "false", "final", "float",
   "fn", "for", "friend", "goto", "if", "impl", "implements", "import", "in", "int", "interface",
   "let", "long", "loop", "match", "mod", "move", "mut", "namespace", "new", "null", "object",
   "operator", "override", "package", "private", "protected", "pub", "public", "ref", "return",
   "self", "short", "signed", "sizeof", "static", "string", "struct", "super", "switch",
   "template", "this", "throw", "trait", "true", "try", "type", "typedef", "typename", "union",
   "unsafe", "unsigned", "use", "using", "virtual", "void", "volatile", "where", "while"]

def isReservedWord (s : String) : Bool := reservedWords.contains s

end EntitySchema
