import EntitySchema.Decimal.Notation
import EntitySchema.Text.Quote

/-!
# Why a JSON text was refused

A `Fault` names the problem and, once known, the byte offset it is reported at. The offset is
written as a line (one plus the line feeds before it) and a column (the bytes since the last
line feed), so a fault in `{"a" 1}` reads `expected `:` at line 1 column 6`.

Faults about the shape of the data (`invalidType`, `invalidLength`, `duplicateField`) are
raised without an offset; the reader gives them the offset it stands at when the fault passes
the point where the value was read.
-/

namespace EntitySchema.Json

/-- What was found where something else was expected. -/
inductive Unexpected where
  | null
  | bool (b : Bool)
  | unsigned (n : Nat)
  | signed (n : Int)
  | float (x : Float)
  | string (s : String)
  | sequence
  | map

/-- A floating point number in plain notation, with `.0` added when it shows no point. -/
def pointedFloat (x : Float) : String :=
  let s := Decimal.Notation.plain.write x
  if x.isFinite && !s.toList.contains '.' then s ++ ".0" else s

/-- A floating point number as a message about a JSON value names it: as JSON writes it. -/
def reportedFloat (x : Float) : String := Decimal.Notation.compact.write x

/-- The description of an unexpected value in a fault message. -/
def Unexpected.describe : Unexpected → String
  | .null => "null"
  | .bool b => s!"boolean `{b}`"
  | .unsigned n => s!"integer `{n}`"
  | .signed n => s!"integer `{n}`"
  | .float x => "floating point `" ++ reportedFloat x ++ "`"
  | .string s => "string " ++ Text.debugQuote s
  | .sequence => "sequence"
  | .map => "map"

/-- The problems a JSON text can have. -/
inductive Problem where
  | eofWhileParsingList
  | eofWhileParsingObject
  | eofWhileParsingString
  | eofWhileParsingValue
  | expectedColon
  | expectedListCommaOrEnd
  | expectedObjectCommaOrEnd
  | expectedIdent
  | expectedValue
  | invalidEscape
  | invalidNumber
  | numberOutOfRange
  | controlCharacterInString
  | keyMustBeAString
  | loneLeadingSurrogate
  | trailingComma
  | trailingCharacters
  | unexpectedEndOfHexEscape
  | recursionLimitExceeded
  /-- A value of the wrong kind; `expected` describes the kind wanted. -/
  | invalidType (found : Unexpected) (expected : String)
  /-- A sequence of the wrong length. -/
  | invalidLength (length : Nat) (expected : String)
  /-- A member given twice. -/
  | duplicateField (name : String)

/-- The text of a problem. -/
def Problem.message : Problem → String
  | .eofWhileParsingList => "EOF while parsing a list"
  | .eofWhileParsingObject => "EOF while parsing an object"
  | .eofWhileParsingString => "EOF while parsing a string"
  | .eofWhileParsingValue => "EOF while parsing a value"
  | .expectedColon => "expected `:`"
  | .expectedListCommaOrEnd => "expected `,` or `]`"
  | .expectedObjectCommaOrEnd => "expected `,` or `\x7d`"
  | .expectedIdent => "expected ident"
  | .expectedValue => "expected value"
  | .invalidEscape => "invalid escape"
  | .invalidNumber => "invalid number"
  | .numberOutOfRange => "number out of range"
  | .controlCharacterInString => "control character (\\u0000-\\u001F) found while parsing a string"
  | .keyMustBeAString => "key must be a string"
  | .loneLeadingSurrogate => "lone leading surrogate in hex escape"
  | .trailingComma => "trailing comma"
  | .trailingCharacters => "trailing characters"
  | .unexpectedEndOfHexEscape => "unexpected end of hex escape"
  | .recursionLimitExceeded => "recursion limit exceeded"
  | .invalidType found expected => "invalid type: " ++ found.describe ++ ", expected " ++ expected
  | .invalidLength n expected => s!"invalid length {n}, expected {expected}"
  | .duplicateField name => s!"duplicate field `{name}`"

/-- A problem and the byte offset it is reported at, once known. -/
structure Fault where
  problem : Problem
  offset : Option Nat

/-- Line and column of a byte offset: one plus the line feeds before it, and the bytes since
the last of them. -/
def lineColumn (bytes : ByteArray) (offset : Nat) : Nat × Nat :=
  let before := (bytes.extract 0 offset).toList
  let lineStart := before.length - (before.reverse.takeWhile (· ≠ 10)).length
  (1 + before.count 10, offset - lineStart)

/-- The text of a fault in the text `bytes`. -/
def Fault.message (f : Fault) (bytes : ByteArray) : String :=
  match f.offset with
  | none => f.problem.message
  | some i =>
    let (line, column) := lineColumn bytes i
    f.problem.message ++ s!" at line {line} column {column}"

end EntitySchema.Json
