import EntitySchema.Json.Value
import EntitySchema.Decimal.Notation

/-!
# Writing JSON

`Value.compact` writes a value with no blanks; `Value.pretty` puts each item and member on a
line of its own, indented by two spaces per level. Strings escape the quote, the backslash,
backspace, form feed, line feed, carriage return and tab by letter and other control characters
as `\u00XX`; everything else is written as it is. Doubles use the shortest digits in the
compact notation; a double without a value (an infinity or NaN) is written `null`.
-/

namespace EntitySchema.Json

def hex4 (n : Nat) : String :=
  let ds := Nat.toDigits 16 n
  String.ofList (List.replicate (4 - ds.length) '0' ++ ds)

/-- The escape of one character inside a JSON string. -/
def escapeChar (c : Char) : String :=
  match c with
  | '"' => "\\\""
  | '\\' => "\\\\"
  | '\x08' => "\\b"
  | '\x0c' => "\\f"
  | '\n' => "\\n"
  | '\r' => "\\r"
  | '\t' => "\\t"
  | _ => if c.toNat < 0x20 then "\\u" ++ hex4 c.toNat else String.singleton c

def quote (s : String) : String := "\"" ++ String.join (s.toList.map escapeChar) ++ "\""

def Number.text : Number → String
  | .natural n => toString n
  | .negative n => toString n
  | .float x => if x.isFinite then Decimal.Notation.compact.write x else "null"

mutual

/-- The value written with no blanks. -/
def Value.compact : Value → String
  | .null => "null"
  | .bool b => if b then "true" else "false"
  | .number n => n.text
  | .string s => quote s
  | .array items => "[" ++ compactItems items ++ "]"
  | .object members => "\x7b" ++ compactMembers members ++ "\x7d"

def compactItems : List Value → String
  | [] => ""
  | [v] => v.compact
  | v :: rest => v.compact ++ "," ++ compactItems rest

def compactMembers : List (String × Value) → String
  | [] => ""
  | [(k, v)] => quote k ++ ":" ++ v.compact
  | (k, v) :: rest => quote k ++ ":" ++ v.compact ++ "," ++ compactMembers rest

end

def indentOf (level : Nat) : String := String.ofList (List.replicate (2 * level) ' ')

mutual

/-- The value written one item or member per line at nesting level `level`. -/
def Value.prettyAt (level : Nat) : Value → String
  | .array [] => "[]"
  | .object [] => "\x7b\x7d"
  | .array items => "[\n" ++ prettyItems (level + 1) items ++ "\n" ++ indentOf level ++ "]"
  | .object members =>
    "\x7b\n" ++ prettyMembers (level + 1) members ++ "\n" ++ indentOf level ++ "\x7d"
  | .null => "null"
  | .bool b => if b then "true" else "false"
  | .number n => n.text
  | .string s => quote s

def prettyItems (level : Nat) : List Value → String
  | [] => ""
  | [v] => indentOf level ++ v.prettyAt level
  | v :: rest => indentOf level ++ v.prettyAt level ++ ",\n" ++ prettyItems level rest

/-- Members one per line at nesting level `level`. -/
def prettyMembers (level : Nat) : List (String × Value) → String
  | [] => ""
  | [(k, v)] => indentOf level ++ quote k ++ ": " ++ v.prettyAt level
  | (k, v) :: rest =>
    indentOf level ++ quote k ++ ": " ++ v.prettyAt level ++ ",\n" ++ prettyMembers level rest

end

/-- The value written one item or member per line, indented by two spaces per level. -/
def Value.pretty (v : Value) : String := v.prettyAt 0

end EntitySchema.Json
