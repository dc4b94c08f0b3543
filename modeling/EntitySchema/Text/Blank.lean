/-!
# Blank characters and line splitting

`isBlank` is the Unicode White_Space property (25 code points); core's `Char.isWhitespace` knows
only four of them. `trimBlank` strips such characters from both ends. `splitLines` cuts a text
at each line feed and drops one carriage return before it; a final line feed ends the last line
rather than opening an empty one.
-/

namespace EntitySchema.Text

/-- The Unicode White_Space property. -/
def isBlank (c : Char) : Bool :=
  let n := c.toNat
  (0x9 ≤ n ∧ n ≤ 0xD) ∨ n = 0x20 ∨ n = 0x85 ∨ n = 0xA0 ∨ n = 0x1680 ∨
    (0x2000 ≤ n ∧ n ≤ 0x200A) ∨ n = 0x2028 ∨ n = 0x2029 ∨ n = 0x202F ∨ n = 0x205F ∨
    n = 0x3000

def trimBlank (s : String) : String :=
  String.ofList ((s.toList.dropWhile isBlank).reverse.dropWhile isBlank).reverse

def dropBlanks (s : String) : String := String.ofList (s.toList.filter fun c => !isBlank c)

/-- Cuts off the lines of `cs`, each ended by a line feed or the end of text; `current` holds
the characters of the line being read, last first. -/
def splitLinesAux : List Char → List Char → List String
  | [], [] => []
  | [], current => [String.ofList current.reverse]
  | '\n' :: rest, current =>
    let line := match current with
      | '\r' :: before => before
      | _ => current
    String.ofList line.reverse :: splitLinesAux rest []
  | c :: rest, current => splitLinesAux rest (c :: current)

/-- The lines of a text: cut at each line feed, one carriage return before it dropped, and no
empty line after a final line feed. -/
def splitLines (s : String) : List String := splitLinesAux s.toList []

end EntitySchema.Text
