/-!
# Target languages

The languages a model can be written in, their names and file extensions, and the reading of a
language name given by a user: case is ignored for ASCII letters, and each language has a few
accepted spellings (`c++` for C++, `c#` and `cs` for C#, `rs` for Rust).
-/

namespace EntitySchema.Target

/-- A language that models are written in. -/
inductive Language where
  | cpp
  | csharp
  | java
  | rust
  deriving DecidableEq, Repr

namespace Language

/-- Every language, in the order they are written by default. -/
def all : List Language := [.cpp, .csharp, .java, .rust]

/-- The name of a language; it is also how the language is displayed. -/
def name : Language → String
  | .cpp => "cpp"
  | .csharp => "csharp"
  | .java => "java"
  | .rust => "rust"

/-- The extension of a model file, without the dot. -/
def extension : Language → String
  | .cpp => "h"
  | .csharp => "cs"
  | .java => "java"
  | .rust => "rs"

/-- The spellings accepted for each language, all in lowercase. -/
def spellings : List (String × Language) :=
  [("cpp", .cpp), ("c++", .cpp), ("cs", .csharp), ("csharp", .csharp), ("c#", .csharp),
    ("java", .java), ("rust", .rust), ("rs", .rust)]

/-- Reads a language name with ASCII letters in any case; an unknown name is refused with the
name in lowercase. -/
def parse (s : String) : Except String Language :=
  let lower := s.map Char.toLower
  match spellings.lookup lower with
  | some l => .ok l
  | none => .error ("Unknown target language: " ++ lower)

theorem parse_name (l : Language) : parse l.name = .ok l := by
  have h : (parse l.name).toOption = some l := by cases l <;> decide +kernel
  revert h
  cases parse l.name with
  | ok a => intro h; cases h; rfl
  | error e => intro h; cases h

end Language

end EntitySchema.Target
