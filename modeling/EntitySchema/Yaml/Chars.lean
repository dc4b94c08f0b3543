/-!
# Character classes of YAML

The classes the YAML reader and writer test characters against. A line break is a line feed,
a carriage return, a next-line character or a line or paragraph separator; a blank is a space
or a tab. The text's end reads as the character `\x00`, which no text may hold, so "blank or
end" and "break or end" are single tests.
-/

namespace EntitySchema.Yaml

def endChar : Char := '\x00'

def isBlank (c : Char) : Bool := c == ' ' || c == '\t'

def isBreak (c : Char) : Bool :=
  c == '\r' || c == '\n' || c == '\u0085' || c == '\u2028' || c == '\u2029'

def isEnd (c : Char) : Bool := c == endChar

def isBreakOrEnd (c : Char) : Bool := isBreak c || isEnd c

def isBlankOrEnd (c : Char) : Bool := isBlank c || isBreakOrEnd c

/-- A character of an anchor name or tag handle: an ASCII letter, digit, `_` or `-`. -/
def isWordChar (c : Char) : Bool := c.isAlphanum || c == '_' || c == '-'

def isHexDigit (c : Char) : Bool :=
  c.isDigit || ('a' ≤ c && c ≤ 'f') || ('A' ≤ c && c ≤ 'F')

def hexValue (c : Char) : Nat :=
  if c.isDigit then c.toNat - '0'.toNat
  else if 'a' ≤ c && c ≤ 'f' then c.toNat - 'a'.toNat + 10
  else c.toNat - 'A'.toNat + 10

def byteOrderMark : Char := '\uFEFF'

/-- A character a YAML text may hold: tab, line feed, carriage return, printable ASCII, the
next-line character, and the rest of Unicode but surrogates, the C1 controls and the two
non-characters at the end of the basic plane. -/
def isAllowedInText (c : Char) : Bool :=
  let n := c.toNat
  n == 0x09 || n == 0x0A || n == 0x0D || (0x20 ≤ n && n ≤ 0x7E) || n == 0x85 ||
  (0xA0 ≤ n && n ≤ 0xD7FF) || (0xE000 ≤ n && n ≤ 0xFFFD) || (0x10000 ≤ n && n ≤ 0x10FFFF)

/-- A character the writer may show as it is: line feed, printable ASCII, the basic plane from
U+00A0 on but the surrogates, the byte order mark and the two non-characters at its end, and
every plane above it. -/
def isPrintable (c : Char) : Bool :=
  let n := c.toNat
  n == 0x0A || (0x20 ≤ n && n ≤ 0x7E) || (0xA0 ≤ n && n ≤ 0xD7FF) ||
  (0xE000 ≤ n && n ≤ 0xFFFD && n != 0xFEFF) || 0x10000 ≤ n

end EntitySchema.Yaml
