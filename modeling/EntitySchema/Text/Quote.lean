import EntitySchema.Text.Unprintable
import EntitySchema.Text.GraphemeExtend

/-!
# Quoting text for debugging output

`debugQuote` writes a string between double quotes so that every character can be read off:
the quote, the backslash, tab, carriage return, line feed and NUL get a backslash escape, a
mark that combines with the one before it (Grapheme_Extend) or that would not show
(`isUnprintable`) is written `\u{hex}`, and everything else, apostrophes included, stands as
it is.
-/

namespace EntitySchema.Text

def hexDigits (n : Nat) : String := String.ofList (Nat.toDigits 16 n)

/-- The escape of one character inside a debugging quote. -/
def debugEscape (c : Char) : String :=
  match c with
  | '\x00' => "\\0"
  | '\t' => "\\t"
  | '\r' => "\\r"
  | '\n' => "\\n"
  | '\\' => "\\\\"
  | '"' => "\\\""
  | _ =>
    if isExtendingMark c || isUnprintable c then "\\u" ++ "\x7b" ++ hexDigits c.toNat ++ "\x7d"
    else String.singleton c

def debugQuote (s : String) : String :=
  "\"" ++ String.join (s.toList.map debugEscape) ++ "\""

end EntitySchema.Text
