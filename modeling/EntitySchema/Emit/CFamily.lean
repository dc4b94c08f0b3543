import EntitySchema.Emit.Options
import EntitySchema.Target.Spelling
import EntitySchema.Text.Blank

/-!
# C++, C# and Java files

These languages keep inheritance: each file holds only the entity's own fields and names its
base. A file opens with a comment block that warns it is generated and carries the creation
date, the fingerprint and the description; then come the includes or imports the fields need,
and the declaration inside the entity's namespace or package.

A default is written where the language can hold a literal: on primitive fields and on
references to enumerations. Java gives every collection and every class reference a fresh
object instead.
-/

namespace EntitySchema.Emit

open EntitySchema.Target

/-- The comment block that opens every C-family file. -/
def banner (e : ResolvedEntity) (date fingerprint : Option String) : String :=
  let dateLines := match date with
    | some d => " *\n * Creation date: " ++ d ++ "\n"
    | none => ""
  let fingerprintLines := match fingerprint with
    | some f => " * " ++ fingerprintLabel ++ f ++ "\n"
    | none => ""
  let descriptionLines := match e.description with
    | some text =>
      " *\n" ++ String.join ((Text.splitLines text).map fun line =>
        if (Text.trimBlank line).isEmpty then " *\n" else " * " ++ line ++ "\n")
    | none => ""
  "/*\n * WARNING! This file was autogenerated. Do not modify it!\n" ++ dateLines ++
    fingerprintLines ++ descriptionLines ++ " */\n\n"

/-- Whether some field has a primitive of the given kinds under its collections. -/
def usesPrimitive (fields : List ResolvedField) (wanted : List PrimitiveKind) : Bool :=
  fields.any fun f => match f.type.baseType with
    | .primitive k => wanted.contains k
    | _ => false

def hasCollection (fields : List ResolvedField) : Bool := fields.any (·.type.isCollection)

/-- Whether a field's default is written: on primitives and on references to enumerations. -/
def defaultApplies (m : Model) (f : ResolvedField) : Bool :=
  match f.type with
  | .primitive _ => true
  | .reference n => m.isEnum n
  | .collection _ => false

/-- The enumerators of an enumeration, one a line after `indent`, separated by commas. -/
def enumeratorLines (l : Language) (e : ResolvedEntity) (indent : String) : String :=
  ",\n".intercalate (e.enumValues.map fun v => indent ++ l.enumeratorName v)

/-- ` = value` for a field whose default is written, nothing otherwise. -/
def initializer (l : Language) (m : Model) (f : ResolvedField) : String :=
  match f.default with
  | some d => if defaultApplies m f then " = " ++ l.defaultSpelling f.type d else ""
  | none => ""

/-- A name as part of an include guard: ASCII letters and digits in uppercase, anything else an
underscore. -/
def guardPart (name : String) : String :=
  name.map fun c => if c.isAlphanum then c.toUpper else '_'

/-- The include guard of an entity's C++ header: its namespace and its name as guard parts. -/
def cppGuard (o : EmitOptions) (e : ResolvedEntity) : String :=
  guardPart (o.namespaceFor e) ++ "_" ++ guardPart e.name ++ "_H"

/-- The entities a C++ header includes: its base, then every other entity its own fields refer
to. -/
def cppIncludes (e : ResolvedEntity) : List String :=
  e.parent?.toList ++ e.references.filter (some · != e.parent?)

/-- The C++ header of an entity. -/
def renderCpp (e : ResolvedEntity) (m : Model) (o : EmitOptions) (date fingerprint : Option String) :
    String :=
  let ns := o.namespaceFor e
  let guard := cppGuard o e
  let opening := banner e date fingerprint ++ "#ifndef " ++ guard ++ "\n#define " ++ guard ++ "\n\n"
  let (includes, body) :=
    if e.isEnum then
      ("#include <cstddef>\n\n",
        "\tenum class " ++ e.name ++ " \x7b\n" ++ enumeratorLines .cpp e "\t\t" ++ "\n\t\x7d;\n\n" ++
          "\tstatic const size_t " ++ e.name ++ "Count = " ++ toString e.enumValues.length ++ ";\n")
    else
      let own := e.ownFields
      let parent := e.parent?
      let lines :=
        (if hasCollection own then ["#include <vector>"] else []) ++
        (if usesPrimitive own [.string] then ["#include <string>"] else []) ++
        (if usesPrimitive own [.u32, .i32] then ["#include <cstdint>"] else []) ++
        (cppIncludes e).map fun r => "#include \"" ++ r ++ ".h\""
      let inherits := match parent with | some p => " : public " ++ p | none => ""
      (if lines.isEmpty then "" else "\n".intercalate lines ++ "\n\n",
        "\tstruct " ++ e.name ++ inherits ++ " \x7b\n" ++
          String.join (own.map fun f =>
            "\t\t" ++ Language.cpp.typeSpelling f.type ++ " " ++ Language.cpp.memberName f.name ++
              initializer .cpp m f ++ ";\n") ++
          "\t\x7d;\n")
  opening ++ includes ++ "namespace " ++ "::".intercalate (ns.splitOn ".") ++ " \x7b\n" ++ body ++
    "\x7d\n" ++ "\n#endif //" ++ guard ++ "\n"

/-- The C# file of an entity. -/
def renderCsharp (e : ResolvedEntity) (m : Model) (o : EmitOptions)
    (date fingerprint : Option String) : String :=
  let ns := o.namespaceFor e
  let (usings, body) :=
    if e.isEnum then
      ("", "    public enum " ++ e.name ++ " \x7b\n" ++ enumeratorLines .csharp e "        " ++
        "\n    \x7d\n")
    else
      let own := e.ownFields
      let inherits := match e.parent? with | some p => " : " ++ p | none => ""
      (if hasCollection own then "using System.Collections.Generic;\n\n" else "",
        "    public class " ++ e.name ++ inherits ++ " \x7b\n" ++
          String.join (own.map fun f =>
            "        public " ++ Language.csharp.typeSpelling f.type ++ " " ++
              Language.csharp.memberName f.name ++ initializer .csharp m f ++ ";\n") ++
          "    \x7d\n")
  banner e date fingerprint ++ usings ++ "namespace " ++ ns ++ " \x7b\n" ++ body ++ "\x7d\n"

/-- The simple name of the interface a Java class implements, with the import it needs. -/
def javaInterface (e : ResolvedEntity) (m : Model) (o : EmitOptions) (package : String) :
    Option (String × Option String) :=
  e.implements.map fun i =>
    match (i.splitOn ".").reverse with
    | simple :: before@(_ :: _) =>
      let path := ".".intercalate before.reverse
      (simple, if path != package then some i else none)
    | _ =>
      if i == "Serializable" then (i, some "java.io.Serializable")
      else
        let imported := (m.get? i).bind fun t =>
          let p := o.packageFor t
          if p != package then some (p ++ "." ++ i) else none
        (i, imported)

def pushNew (xs : List String) (x : String) : List String := if xs.contains x then xs else xs ++ [x]

/-- Adds the import of an entity the class uses, unless the entity is in the class's package. -/
def importEntity (m : Model) (o : EmitOptions) (package : String) (acc : List String)
    (name : String) : List String :=
  match m.get? name with
  | some t =>
    let p := o.packageFor t
    if p != package then pushNew acc ("import " ++ p ++ "." ++ name ++ ";") else acc
  | none => acc

/-- The imports of a Java class: `java.util.ArrayList` when an own field is a collection, its
base and the entities its own fields refer to from other packages, then its interface. -/
def javaImports (e : ResolvedEntity) (m : Model) (o : EmitOptions) : List String :=
  let package := o.packageFor e
  let imports := (e.parent?.toList ++ e.references).foldl (importEntity m o package)
    (if hasCollection e.ownFields then ["import java.util.ArrayList;"] else [])
  match javaInterface e m o package with
  | some (_, some path) => pushNew imports ("import " ++ path ++ ";")
  | _ => imports

/-- The Java file of an entity. -/
def renderJava (e : ResolvedEntity) (m : Model) (o : EmitOptions)
    (date fingerprint : Option String) : String :=
  let package := o.packageFor e
  let opening := banner e date fingerprint ++ "package " ++ package ++ ";\n\n"
  if e.isEnum then
    opening ++ "public enum " ++ e.name ++ " \x7b\n" ++ enumeratorLines .java e "    " ++ "\n\x7d\n"
  else
    let own := e.ownFields
    let interface := javaInterface e m o package
    let imports := javaImports e m o
    let inherits := match e.parent? with | some p => " extends " ++ p | none => ""
    let implementsText := match interface with | some (n, _) => " implements " ++ n | none => ""
    let member (f : ResolvedField) : String :=
      let spelled := Language.java.typeSpelling f.type
      let isClassReference := match f.type with
        | .reference n => !m.isEnum n
        | _ => false
      let init :=
        if f.type.isCollection || isClassReference then " = new " ++ spelled ++ "()"
        else initializer .java m f
      "    public " ++ spelled ++ " " ++ Language.java.memberName f.name ++ init ++ ";\n"
    opening ++ (if imports.isEmpty then "" else "\n".intercalate imports ++ "\n\n") ++
      "public class " ++ e.name ++ inherits ++ implementsText ++ " \x7b\n" ++
      String.join (own.map member) ++ "\x7d\n"

end EntitySchema.Emit
