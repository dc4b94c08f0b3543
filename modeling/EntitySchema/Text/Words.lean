import EntitySchema.Text.CaseMap
import EntitySchema.Text.Grapheme

/-!
# Words of a name and their case styles

`splitWords` cuts a name into words at underscores, hyphens and spaces (which are dropped), and
between two grapheme clusters where a lowercase one meets an uppercase one, a letter meets a
digit or a digit a letter, and before the last capital of an acronym that a lowercase letter
follows (`HTTPServer` gives `HTTP`, `Server`). Empty words are dropped.

`snakeCase` writes the words in lowercase joined by `_`; `pascalCase` writes each word with its
first cluster in uppercase and the rest in lowercase, with nothing between them.
-/

namespace EntitySchema.Text

def isUpperCluster (g : String) : Bool := toUppercase g != toLowercase g && g == toUppercase g

def isLowerCluster (g : String) : Bool := toUppercase g != toLowercase g && g == toLowercase g

def isDigitCluster (g : String) : Bool := g.toList.all Char.isDigit

/-- The boundary that starts at the first of the given clusters, if any: where the word before
it ends, counted in clusters from there, and how many clusters the boundary itself takes. -/
def boundaryAt : List String → Option (Nat × Nat)
  | g :: rest =>
    if g == "_" || g == "-" || g == " " then some (0, 1)
    else match rest with
      | h :: more =>
        if (isLowerCluster g && isUpperCluster h) || (isLowerCluster g && isDigitCluster h) ||
            (isUpperCluster g && isDigitCluster h) || (isDigitCluster g && isLowerCluster h) ||
            (isDigitCluster g && isUpperCluster h) then some (1, 0)
        else match more with
          | k :: _ =>
            if isUpperCluster g && isUpperCluster h && isLowerCluster k then some (1, 0) else none
          | [] => none
      | [] => none
  | [] => none

/-- The cuts of a list of clusters: for each boundary, where the word before it ends and where
the next one starts. -/
def cutsOf (gs : List String) : List (Nat × Nat) :=
  (List.range gs.length).filterMap fun i =>
    (boundaryAt (gs.drop i)).map fun (start, len) =>
      (min gs.length (i + start), min gs.length (i + start + len))

def sliceJoin (gs : List String) (a b : Nat) : String := String.join ((gs.drop a).take (b - a))

/-- The words of a name, in order, none of them empty. -/
def splitWords (s : String) : List String :=
  let gs := clusters s
  let (last, words) := (cutsOf gs).foldl
    (fun (last, words) (stop, resume) => (resume, sliceJoin gs last stop :: words)) (0, [])
  (sliceJoin gs last gs.length :: words).reverse.filter (!·.isEmpty)

def snakeCase (s : String) : String := "_".intercalate ((splitWords s).map toLowercase)

/-- A word with its first cluster in uppercase and the rest in lowercase. -/
def capitalize (w : String) : String :=
  match clusters w with
  | [] => ""
  | g :: rest => toUppercase g ++ toLowercase (String.join rest)

def pascalCase (s : String) : String := String.join ((splitWords s).map capitalize)

end EntitySchema.Text
