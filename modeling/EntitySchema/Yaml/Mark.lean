/-!
# Positions and syntax errors in YAML text

A `Mark` is a position in the text: the index of a character, its line and its column, all
counted from zero and in characters, and its offset in bytes of UTF-8. Messages give line and
column counted from one, and leave out a position at the very start of the text.

A `SyntaxError` names the problem and where it was found, and often the construct being read
and where that began; the construct's position is given only when it differs from the
problem's.
-/

namespace EntitySchema.Yaml

/-- A position in YAML text, counted from zero in characters; `offset` counts the bytes of
UTF-8 before it. -/
structure Mark where
  index : Nat := 0
  line : Nat := 0
  column : Nat := 0
  offset : Nat := 0
  deriving Repr, BEq, Inhabited

def Mark.text (m : Mark) : String :=
  "line " ++ toString (m.line + 1) ++ " column " ++ toString (m.column + 1)

/-- Whether a position is the very start of the text, which messages leave out. -/
def Mark.isStart (m : Mark) : Bool := m.line == 0 && m.column == 0

/-- A problem in the syntax of a YAML text. -/
structure SyntaxError where
  problem : String
  problemMark : Mark := {}
  /-- What was being read when the problem was found. -/
  context : Option String := none
  contextMark : Mark := {}
  /-- The byte offset of a character the text may not hold at all. -/
  offset : Nat := 0
  deriving Repr

/-- The message of a syntax error. -/
def SyntaxError.message (e : SyntaxError) : String :=
  let place :=
    if !e.problemMark.isStart then " at " ++ e.problemMark.text
    else if e.offset != 0 then " at position " ++ toString e.offset
    else ""
  let within := match e.context with
    | none => ""
    | some c =>
      let shown := !e.contextMark.isStart &&
        (e.contextMark.line != e.problemMark.line || e.contextMark.column != e.problemMark.column)
      ", " ++ c ++ (if shown then " at " ++ e.contextMark.text else "")
  e.problem ++ place ++ within

end EntitySchema.Yaml
