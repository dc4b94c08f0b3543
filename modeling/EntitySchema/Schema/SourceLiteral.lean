import EntitySchema.Schema.Literal
import EntitySchema.Schema.Name
import EntitySchema.Decimal.Read
import EntitySchema.Text.Blank
import EntitySchema.Json.Write

/-!
# Defaults written as values or as source text

A default is given either as a JSON value (`literalOfValue`) or, in documents that list their
fields under `members`, as a piece of source text (`decodeSourceLiteral`): `true`, `42`,
`1.5f`, `"John"` or an enumerator, possibly qualified as `Color::Blue` or `Color.Blue`.
-/

namespace EntitySchema

/-- Undoes the escapes of a quoted source string: `\n`, `\t`, `\r` and `\0` stand for their
characters, any other escaped character for itself. -/
def unescapeSource : List Char → Except String (List Char)
  | [] => .ok []
  | '\\' :: rest =>
    match rest with
    | [] => .error "string default ends with a lone backslash"
    | c :: more =>
      let d := match c with
        | 'n' => '\n'
        | 't' => '\t'
        | 'r' => '\r'
        | '0' => '\x00'
        | other => other
      (d :: ·) <$> unescapeSource more
  | c :: rest => (c :: ·) <$> unescapeSource rest

/-- Whether text looks like a number: it starts with a digit, a sign or a point, and holds only
digits, signs, points and exponent marks. -/
def looksNumeric (s : String) : Bool :=
  match s.toList with
  | [] => false
  | c :: _ =>
    (c.isDigit || c == '-' || c == '+' || c == '.') &&
      s.toList.all fun d => d.isDigit || d == '+' || d == '-' || d == '.' || d == 'e' || d == 'E'

/-- The text after the last `:` or `.`, or all of it. -/
def lastSegment (s : String) : String :=
  String.ofList (s.toList.reverse.takeWhile (fun c => c != ':' && c != '.')).reverse

/-- Decodes a default written as source text, trimmed of blanks first: a quoted string, a
boolean, a 64-bit integer, a number with an optional `f` suffix, or an enumerator. -/
def decodeSourceLiteral (raw : String) : Except String Literal :=
  let text := Text.trimBlank raw
  let cs := text.toList
  if cs.length ≥ 2 ∧ cs.head? = some '"' ∧ cs.getLast? = some '"' then
    (fun inner => Literal.string (String.ofList inner)) <$> unescapeSource (cs.drop 1).dropLast
  else if text == "true" then .ok (.boolean true)
  else if text == "false" then .ok (.boolean false)
  else match Decimal.readInt64? text with
    | some n => .ok (.integer n)
    | none =>
      let number :=
        if text.endsWith "f" || text.endsWith "F" then String.ofList cs.dropLast else text
      match (if looksNumeric number then Decimal.readFloat? number else none) with
      | some x => .ok (.float x)
      | none =>
        let enumerator := lastSegment text
        if isIdentifier enumerator then .ok (.string enumerator)
        else .error ("cannot read default '" ++ text ++ "'")

/-- Converts a JSON default into a literal: strings, booleans and numbers are taken as they are;
an integer beyond the signed 64-bit range is refused, as is any other value. -/
def literalOfValue (v : Json.Value) : Except String Literal :=
  match v with
  | .string s => .ok (.string s)
  | .bool b => .ok (.boolean b)
  | .number (.natural n) =>
    if n < Nat.pow 2 63 then .ok (.integer n)
    else .error ("integer default " ++ toString n ++ " is out of range")
  | .number (.negative n) => .ok (.integer n)
  | .number (.float x) => .ok (.float x)
  | _ => .error ("unsupported default value " ++ v.compact ++
      ", expected a string, number or boolean")

/-- Reads a literal from a JSON value by its shape alone: a boolean, an integer within the signed
64-bit range, any other number as the nearest double, or a string; other values are refused. -/
def Literal.ofJson (v : Json.Value) : Except String Literal :=
  match v with
  | .bool b => .ok (.boolean b)
  | .number (.natural n) =>
    if n < Nat.pow 2 63 then .ok (.integer n) else .ok (.float (Decimal.ofInt n))
  | .number (.negative n) => .ok (.integer n)
  | .number (.float x) => .ok (.float x)
  | .string s => .ok (.string s)
  | _ => .error "data did not match any variant of untagged enum Literal"

end EntitySchema
