import EntitySchema.Target.Language

/-!
# Reserved words of the target languages

A schema name that is a reserved word of the language it is written in gets a mark, so that the
written model compiles: C++, Java and Rust append an underscore, C# puts an `@` in front.
-/

namespace EntitySchema.Target

/-- Reserved words of C++ that a member or enumerator may not be. -/
def cppKeywords : List String :=
  ["auto", "bool", "break", "case", "catch", "char", "class", "const", "continue", "default",
    "delete", "do", "double", "else", "enum", "explicit", "extern", "false", "float", "for",
    "friend", "goto", "if", "int", "long", "namespace", "new", "operator", "private", "protected",
    "public", "return", "short", "signed", "sizeof", "static", "struct", "switch", "template",
    "this", "throw", "true", "try", "typedef", "typename", "union", "unsigned", "using",
    "virtual", "void", "volatile", "while"]

/-- Reserved words of C#. -/
def csharpKeywords : List String :=
  ["abstract", "as", "base", "bool", "break", "byte", "case", "catch", "char", "class", "const",
    "continue", "default", "delegate", "do", "double", "else", "enum", "event", "explicit",
    "extern", "false", "finally", "float", "for", "foreach", "goto", "if", "in", "int",
    "interface", "internal", "is", "lock", "long", "namespace", "new", "null", "object",
    "operator", "out", "override", "private", "protected", "public", "readonly", "ref",
    "return", "sealed", "short", "sizeof", "static", "string", "struct", "switch", "this",
    "throw", "true", "try", "typeof", "uint", "using", "virtual", "void", "volatile", "while"]

/-- Reserved words of Java. -/
def javaKeywords : List String :=
  ["abstract", "boolean", "break", "byte", "case", "catch", "char", "class", "const",
    "continue", "default", "do", "double", "else", "enum", "extends", "false", "final",
    "finally", "float", "for", "goto", "if", "implements", "import", "instanceof", "int",
    "interface", "long", "native", "new", "null", "package", "private", "protected", "public",
    "return", "short", "static", "super", "switch", "synchronized", "this", "throw", "throws",
    "true", "try", "void", "volatile", "while"]

/-- Reserved words of Rust, the strict, reserved and edition ones together. -/
def rustKeywords : List String :=
  ["abstract", "as", "async", "await", "become", "box", "break", "const", "continue", "crate",
    "do", "dyn", "else", "enum", "extern", "false", "final", "fn", "for", "gen", "if", "impl",
    "in", "let", "loop", "macro", "match", "mod", "move", "mut", "override", "priv", "pub",
    "ref", "return", "self", "Self", "static", "struct", "super", "trait", "true", "try", "type",
    "typeof", "unsafe", "unsized", "use", "virtual", "where", "while", "yield"]

/-- The reserved words of a language. -/
def Language.keywords : Language → List String
  | .cpp => cppKeywords
  | .csharp => csharpKeywords
  | .java => javaKeywords
  | .rust => rustKeywords

/-- A name with an underscore appended when it is one of `keywords`. -/
def suffixKeyword (keywords : List String) (name : String) : String :=
  if keywords.contains name then name ++ "_" else name

/-- A name with an `@` in front when it is a reserved word of C#. -/
def verbatimName (name : String) : String :=
  if csharpKeywords.contains name then "@" ++ name else name

theorem suffixKeyword_of_not_mem {keywords : List String} {name : String}
    (h : name ∉ keywords) : suffixKeyword keywords name = name := by
  simp [suffixKeyword, h]

end EntitySchema.Target
