import EntitySchema.Schema.Error

/-!
# Why work on files failed

An `IoError` is what the file system answers when it refuses an operation; its message is the
system's description followed by the error number. A `Failure` is what a command gives up with:
either the schema errors of a resolution, or a message with the causes beneath it. Each context
a failure passes through goes in front of it, so the chain reads from the outermost step in to
the root cause.
-/

namespace EntitySchema.Workspace

/-- Why the file system refused an operation. -/
inductive IoError where
  /-- A path, or a directory on the way to it, does not exist. -/
  | notFound
  /-- The entry to create is already there. -/
  | alreadyExists
  /-- A component on the way to an entry is a file. -/
  | notADirectory
  /-- A file operation was asked of a directory. -/
  | isADirectory
  /-- A text file holds bytes that are not UTF-8. -/
  | invalidUtf8
  /-- A path holds the character NUL, which no path may hold. -/
  | nulInName
  /-- A path, or one name in it, is longer than the system allows. -/
  | nameTooLong
  /-- Any other refusal, with the system's words. -/
  | other (text : String)
  deriving BEq, Repr

/-- The words of a refusal: the description and the error number. -/
def IoError.message : IoError → String
  | .notFound => "No such file or directory (os error 2)"
  | .alreadyExists => "File exists (os error 17)"
  | .notADirectory => "Not a directory (os error 20)"
  | .isADirectory => "Is a directory (os error 21)"
  | .invalidUtf8 => "stream did not contain valid UTF-8"
  | .nulInName => "file name contained an unexpected NUL byte"
  | .nameTooLong => "File name too long (os error 36)"
  | .other text => text

/-- What a command gives up with. -/
inductive Failure where
  /-- A resolution that found schema errors. -/
  | schema (errors : List SchemaError)
  /-- A message and the causes beneath it, outermost first. -/
  | message (text : String) (causes : List String)

namespace Failure

def plain (text : String) : Failure := .message text []

def ofIo (e : IoError) : Failure := .plain e.message

def chain : Failure → List String
  | .schema errors => [SchemaError.summary errors]
  | .message text causes => text :: causes

/-- The failure seen from one step further out, which says what it was doing. -/
def context (text : String) (f : Failure) : Failure := .message text f.chain

def inline (f : Failure) : String := ": ".intercalate f.chain

/-- The lines under `Caused by:`: one cause alone stands indented, several are numbered. -/
def causeLines : List String → List String
  | [c] => ["    " ++ c]
  | cs => (List.range cs.length).zip cs |>.map fun (i, c) => "    " ++ toString i ++ ": " ++ c

/-- The failure as a report: the message, then its causes under `Caused by:`. -/
def report (f : Failure) : String :=
  match f.chain with
  | [] => ""
  | [text] => text
  | text :: causes => text ++ "\n\nCaused by:\n" ++ "\n".intercalate (causeLines causes)

theorem chain_context (text : String) (f : Failure) : (f.context text).chain = text :: f.chain :=
  rfl

end Failure

end EntitySchema.Workspace
