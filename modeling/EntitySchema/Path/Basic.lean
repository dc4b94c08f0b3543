/-!
# Paths as text

A path is a string of components separated by `/`. `components` reads it the way a file system
does: a leading `/` is the root, empty components and `.` are dropped except a `.` that opens a
relative path, and `..` means the parent. `fileName` is the last component when it is a plain
name, and `fileStem` is that name without its last extension (a name that starts with its only
dot, such as `.json`, has none). `join` and `parent?` work on the text and keep the path as
it was written.
-/

namespace EntitySchema.Path

/-- One component of a path. -/
inductive Component where
  | root
  | current
  | parent
  | normal (name : String)
  deriving Repr, BEq, DecidableEq

def Component.isNormal : Component → Bool
  | .normal _ => true
  | _ => false

def pieces (p : String) : List String := (p.toList.splitOn '/').map String.ofList

def pieceComponent (part : String) : Option Component :=
  if part.isEmpty || part == "." then none
  else if part == ".." then some Component.parent
  else some (Component.normal part)

/-- What a path starts from: the root, or the current directory when it opens with a `.`
piece, or nothing. -/
def leading (p : String) : List Component :=
  if p.startsWith "/" then [Component.root]
  else match pieces p with
    | "." :: _ => [Component.current]
    | _ => []

def components (p : String) : List Component :=
  leading p ++ (pieces p).filterMap pieceComponent

def fileName? (p : String) : Option String :=
  match (components p).getLast? with
  | some (.normal name) => some name
  | _ => none

/-- A file name without its last extension; a name whose only dot leads keeps it. -/
def stemOf (name : String) : String :=
  match (name.splitOn ".").reverse with
  | [] | [_] => name
  | _ :: before =>
    let stem := ".".intercalate before.reverse
    if stem.isEmpty then name else stem

/-- The last extension of a file name: the text after its last dot, when that dot does not
start the name. -/
def extensionOf (name : String) : Option String :=
  match (name.splitOn ".").reverse with
  | [] | [_] => none
  | ext :: before => if ".".intercalate before.reverse == "" then none else some ext

def extension? (p : String) : Option String := (fileName? p).bind extensionOf

def fileStem? (p : String) : Option String := (fileName? p).map stemOf

def isAbsolute (p : String) : Bool := p.startsWith "/"

/-- `base` joined with `p`: an absolute `p` replaces `base`, an empty `base` gives `p`, and one
separator stands between them otherwise. -/
def join (base p : String) : String :=
  if isAbsolute p then p
  else if base.isEmpty then p
  else if base.endsWith "/" then base ++ p
  else base ++ "/" ++ p

/-- Whether a path ends in a `.` piece, trailing separators aside (`a/.`, `a/./`, `.`): such a
path names the directory before the `.`, which must then exist. -/
def endsInCurrent (p : String) : Bool :=
  let trimmed := (p.toList.reverse.dropWhile (· == '/')).reverse
  trimmed == ['.'] || trimmed.reverse.take 2 == ['.', '/']

/-- How many characters stand before the body of a path: a leading `/`, or a leading `.` that
is the whole path or is followed by `/`. -/
def headLength (p : String) : Nat :=
  if p.startsWith "/" || p == "." || p.startsWith "./" then 1 else 0

/-- The body of a path cut before its last piece: the text before the last separator, and the
piece after it (the whole body when it holds no separator). -/
def splitLast (body : List Char) : List Char × List Char :=
  let rev := body.reverse
  let piece := (rev.takeWhile (· != '/')).reverse
  match rev.dropWhile (· != '/') with
  | [] => ([], piece)
  | _ :: before => (before.reverse, piece)

/-- Whether a piece of a path names nothing: it is empty or `.`. -/
def isBlankPiece (piece : List Char) : Bool := piece.isEmpty || piece == ['.']

/-- The body without the pieces at its end that name nothing, with their separators. -/
def trimEnd : Nat → List Char → List Char
  | 0, body => body
  | fuel + 1, body =>
    if body.isEmpty then body
    else
      let (before, piece) := splitLast body
      if isBlankPiece piece then trimEnd fuel before else body

/-- The path without its last component, if it has one to drop. The text before that component
is kept as written, separators and `.` pieces at its end aside: the parent of `out//x/./a.h`
is `out//x`. The root has no parent, and a single name or `.` has the empty path. -/
def parent? (p : String) : Option String :=
  let cs := p.toList
  let head := headLength p
  let body := cs.drop head
  let trimmed := trimEnd (body.length + 1) body
  if trimmed.isEmpty then
    if p.startsWith "/" || head == 0 then none else some ""
  else
    let (before, _) := splitLast trimmed
    some (String.ofList (cs.take head ++ trimEnd (before.length + 1) before))

end EntitySchema.Path
