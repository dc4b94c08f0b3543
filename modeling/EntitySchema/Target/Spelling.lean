import EntitySchema.Target.Keywords
import EntitySchema.Schema.FieldType
import EntitySchema.Decimal.Binary64
import EntitySchema.Text.Words

/-!
# Spelling types, names and defaults in a target language

How each language writes the parts of a model: primitive types, references, collections, member
and enumerator names, and the default values of fields. C++, C# and Java quote strings the same
way and differ only in how they write an ASCII control character (an octal escape, or a `\u`
escape in C#); Rust writes strings as debug-quoted text turned into an owned string.

Java generics take only reference types, so a primitive inside a collection is written with its
boxed class; everywhere else a type is written the same inside and outside a collection.
-/

namespace EntitySchema.Target

open EntitySchema

/-- A Rust field name: the words of the name in snake case, marked when reserved. -/
def rustFieldName (name : String) : String := suffixKeyword rustKeywords (Text.snakeCase name)

/-- The Rust module, and file stem, of an entity: its name in snake case, marked when reserved. -/
def rustModuleName (name : String) : String := suffixKeyword rustKeywords (Text.snakeCase name)

def octal3 (n : Nat) : String :=
  String.ofList [Char.ofNat (48 + n / 64 % 8), Char.ofNat (48 + n / 8 % 8), Char.ofNat (48 + n % 8)]

def hex4 (n : Nat) : String :=
  let d := Nat.toDigits 16 n
  String.ofList (List.replicate (4 - d.length) '0' ++ d)

def isAsciiControl (c : Char) : Bool := c.toNat < 0x20 || c.toNat == 0x7F

/-- One character inside a C-family string literal; `control` writes the ASCII controls other
than line feed, carriage return and tab. -/
def quoteCChar (control : Char → String) (c : Char) : String :=
  match c with
  | '"' => "\\\""
  | '\\' => "\\\\"
  | '\n' => "\\n"
  | '\r' => "\\r"
  | '\t' => "\\t"
  | c => if isAsciiControl c then control c else c.toString

def quoteC (control : Char → String) (s : String) : String :=
  "\"" ++ String.join (s.toList.map (quoteCChar control)) ++ "\""

namespace Language

/-- The spelling of a primitive type. -/
def primitiveSpelling : Language → PrimitiveKind → String
  | .cpp, .string => "std::string"
  | .cpp, .u32 => "uint32_t"
  | .cpp, .i32 => "int32_t"
  | .cpp, .f32 => "float"
  | .cpp, .f64 => "double"
  | .cpp, .boolean => "bool"
  | .csharp, .string => "string"
  | .csharp, .u32 => "uint"
  | .csharp, .i32 => "int"
  | .csharp, .f32 => "float"
  | .csharp, .f64 => "double"
  | .csharp, .boolean => "bool"
  -- Java has no unsigned integers, so a u32 widens to a long
  | .java, .string => "String"
  | .java, .u32 => "long"
  | .java, .i32 => "int"
  | .java, .f32 => "float"
  | .java, .f64 => "double"
  | .java, .boolean => "boolean"
  | .rust, .string => "String"
  | .rust, .u32 => "u32"
  | .rust, .i32 => "i32"
  | .rust, .f32 => "f32"
  | .rust, .f64 => "f64"
  | .rust, .boolean => "bool"

/-- The spelling of a primitive type as the element of a collection: the boxed class in Java,
the plain spelling elsewhere. -/
def primitiveElementSpelling : Language → PrimitiveKind → String
  | .java, .string => "String"
  | .java, .u32 => "Long"
  | .java, .i32 => "Integer"
  | .java, .f32 => "Float"
  | .java, .f64 => "Double"
  | .java, .boolean => "Boolean"
  | l, k => l.primitiveSpelling k

/-- The spelling of a reference to an entity: its name. -/
def referenceSpelling (_ : Language) (name : String) : String := name

/-- The spelling of a collection whose elements are spelled `element`. -/
def collectionSpelling : Language → String → String
  | .cpp, e => "std::vector<" ++ e ++ ">"
  | .csharp, e => "List<" ++ e ++ ">"
  | .java, e => "ArrayList<" ++ e ++ ">"
  | .rust, e => "Vec<" ++ e ++ ">"

/-- The spelling of a field type. -/
def typeSpelling (l : Language) : FieldType → String
  | .primitive k => l.primitiveSpelling k
  | .reference n => l.referenceSpelling n
  | .collection (.primitive k) => l.collectionSpelling (l.primitiveElementSpelling k)
  | .collection t => l.collectionSpelling (l.typeSpelling t)

/-- The spelling of a field type as the element of a collection. -/
def elementSpelling (l : Language) : FieldType → String
  | .primitive k => l.primitiveElementSpelling k
  | t => l.typeSpelling t

/-- The member name of a schema field: C++ puts `m_` in front, which keeps every member clear of
the reserved words; the others mark reserved words, and Rust first turns the name to snake case. -/
def memberName : Language → String → String
  | .cpp, n => "m_" ++ n
  | .csharp, n => verbatimName n
  | .java, n => suffixKeyword javaKeywords n
  | .rust, n => rustFieldName n

/-- The declared name of an enumerator; defaults refer to it by the same name. Rust writes
enumerators in Pascal case. -/
def enumeratorName : Language → String → String
  | .cpp, v => suffixKeyword cppKeywords v
  | .csharp, v => verbatimName v
  | .java, v => suffixKeyword javaKeywords v
  | .rust, v => suffixKeyword rustKeywords (Text.pascalCase v)

def stringLiteral : Language → String → String
  | .csharp, s => quoteC (fun c => "\\u" ++ hex4 c.toNat) s
  | .rust, s => Text.debugQuote s ++ ".to_string()"
  | _, s => quoteC (fun c => "\\" ++ octal3 c.toNat) s

/-- An integer literal for a field of the given kind; Java marks a u32 value as a long. -/
def integerLiteral : Language → PrimitiveKind → Int → String
  | .java, .u32, n => toString n ++ "L"
  | _, _, n => toString n

/-- A floating literal for a field of the given kind; the C family marks a float32 value with
`f`, while Rust takes the type from the field. -/
def floatLiteral : Language → PrimitiveKind → Float → String
  | .rust, _, x => Literal.floatText x
  | _, .f32, x => Literal.floatText x ++ "f"
  | _, _, x => Literal.floatText x

/-- A value of an enumeration: the enumeration's name, a separator (`::` in C++ and Rust, `.`
elsewhere) and the enumerator's declared name. -/
def enumValueSpelling (l : Language) (enumName value : String) : String :=
  match l with
  | .cpp | .rust => enumName ++ "::" ++ l.enumeratorName value
  | .csharp | .java => enumName ++ "." ++ l.enumeratorName value

/-- The default value of a field of the given type. A string on a reference names an enumerator;
an integer on a floating field is written as a floating literal. -/
def defaultSpelling (l : Language) : FieldType → Literal → String
  | .reference name, .string v => l.enumValueSpelling name v
  | .primitive .f32, .integer n => l.floatLiteral .f32 (Decimal.ofInt n)
  | .primitive .f64, .integer n => l.floatLiteral .f64 (Decimal.ofInt n)
  | .primitive k, .integer n => l.integerLiteral k n
  | .primitive k, .float x => l.floatLiteral k x
  | _, .string v => l.stringLiteral v
  | _, .boolean b => if b then "true" else "false"
  | _, .integer n => toString n
  | _, .float x => Literal.floatText x

theorem typeSpelling_collection (l : Language) (t : FieldType) :
    l.typeSpelling (.collection t) = l.collectionSpelling (l.elementSpelling t) := by
  cases t <;> rfl

end Language

end EntitySchema.Target
