import EntitySchema.Emit.CFamily
import EntitySchema.Emit.Rust
import EntitySchema.Digest.Sha256
import EntitySchema.Path.Basic

/-!
# Writing a model in one language

A generator writes each entity of a model in one language. A file's fingerprint is the SHA-256
of the file written without creation date and without fingerprint, so it changes exactly when
the content does; the written file carries it in its header. Files go under the destination,
in the entity's subdirectory except for Rust, whose modules stay flat beside `mod.rs`.
-/

namespace EntitySchema.Emit

open EntitySchema.Target

/-- Writes entities of a model in one language. -/
structure Generator where
  language : Language
  options : EmitOptions := {}

namespace Generator

/-- The file name of an entity: its module name for Rust, its own name elsewhere. -/
def fileName (g : Generator) (e : ResolvedEntity) : String :=
  match g.language with
  | .rust => rustModuleName e.name ++ ".rs"
  | l => e.name ++ "." ++ l.extension

def outputDir (g : Generator) (e : ResolvedEntity) (dst : String) : String :=
  match e.subdir, g.language with
  | some sub, .cpp | some sub, .csharp | some sub, .java => Path.join dst sub
  | _, _ => dst

def outputPath (g : Generator) (e : ResolvedEntity) (dst : String) : String :=
  Path.join (g.outputDir e dst) (g.fileName e)

/-- The file of an entity with the given date and fingerprint lines. -/
def render (g : Generator) (e : ResolvedEntity) (m : Model) (date fingerprint : Option String) :
    String :=
  match g.language with
  | .cpp => renderCpp e m g.options date fingerprint
  | .csharp => renderCsharp e m g.options date fingerprint
  | .java => renderJava e m g.options date fingerprint
  | .rust => renderRust e date fingerprint

/-- The fingerprint of an entity's file: the SHA-256 of the file without date and fingerprint. -/
def fingerprint (g : Generator) (e : ResolvedEntity) (m : Model) : String :=
  Digest.sha256HexOfText (g.render e m none none)

/-- The file of an entity written at time `now`, with its fingerprint. -/
def generateEntity (g : Generator) (e : ResolvedEntity) (m : Model) (now : String) : String :=
  g.render e m (g.options.creationDate now) (some (g.fingerprint e m))

/-- The module file of the model, for Rust only. -/
def moduleFile (g : Generator) (m : Model) : Option String :=
  match g.language with
  | .rust => some (rustModuleFile m)
  | _ => none

end Generator

end EntitySchema.Emit
