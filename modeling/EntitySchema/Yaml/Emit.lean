import EntitySchema.Yaml.Scalar
import EntitySchema.Yaml.Chars

/-!
# Writing YAML scalars

A string is written plain when it reads back as the same string, else in single quotes, else
in double quotes with escapes; a string with a line feed is written as a literal block.

A plain string must not read back as null, a boolean or a number, must not start or end with a
blank or a line break, must not start with an indicator, must not hold `: ` or ` #`, and must
hold only printable characters. Single quotes take any printable text without a blank next to
a line break. Double quotes take everything: `"`, `\` and characters that are not printable
are escaped, by a letter where YAML has one and by their code otherwise.

Lines are never folded, however long. The writer keeps track of its column: a line or paragraph
separator in a single-quoted scalar or a literal block is written as it is and ends the line,
and the text goes on at the indentation.
-/

namespace EntitySchema.Yaml

/-- The styles a scalar may be written in, as far as its text allows. -/
structure ScalarFit where
  multiline : Bool
  flowPlain : Bool
  blockPlain : Bool
  singleQuoted : Bool
  block : Bool

/-- Characters that start an indicator at the start of a scalar, in flow and block context. -/
def isLeadingIndicator (c : Char) : Bool := "#,[]{}&*!|>'\"%@".toList.contains c || c == '\x60'

/-- Looks at a scalar's text to see which styles fit it. -/
def ScalarFit.of (s : String) : ScalarFit :=
  let cs := s.toList
  if cs.isEmpty then
    { multiline := false, flowPlain := false, blockPlain := true, singleQuoted := true,
      block := false }
  else
    let n := cs.length
    let charAt (i : Nat) : Char := cs.getD i endChar
    let marker := (cs.take 3 == ['-', '-', '-']) || (cs.take 3 == ['.', '.', '.'])
    let step (acc : Bool × Bool × Bool × Bool × Bool × Bool × Bool × Bool × Bool × Bool × Bool)
        (i : Nat) :=
      let (flowInd, blockInd, special, breaks, leadSpace, leadBreak, trailSpace, trailBreak,
           breakSpace, spaceBreak, _) := acc
      let c := charAt i
      let preceded := i == 0 || isBlankOrEnd (charAt (i - 1))
      let followed := isBlankOrEnd (charAt (i + 1))
      let (fi, bi) :=
        if i == 0 then
          let both := isLeadingIndicator c || (c == '-' && followed)
          let colon := c == '?' || c == ':'
          (both || colon, both || (colon && followed))
        else
          let flowOnly := ",?[]{}".toList.contains c
          let colon := c == ':'
          let hash := c == '#' && preceded
          (flowOnly || colon || hash, (colon && followed) || hash)
      let isSpace := c == ' '
      let isBr := isBreak c
      let prevSpace := i > 0 && charAt (i - 1) == ' '
      let prevBreak := i > 0 && isBreak (charAt (i - 1))
      (flowInd || fi, blockInd || bi, special || !isPrintable c, breaks || isBr,
       leadSpace || (isSpace && i == 0), leadBreak || (isBr && i == 0),
       trailSpace || (isSpace && i + 1 == n), trailBreak || (isBr && i + 1 == n),
       breakSpace || (isSpace && prevBreak), spaceBreak || (isBr && prevSpace), false)
    let init := (marker, marker, false, false, false, false, false, false, false, false, false)
    let (flowInd, blockInd, special, breaks, leadSpace, leadBreak, trailSpace, trailBreak,
         breakSpace, spaceBreak, _) := (List.range n).foldl step init
    let edges := leadSpace || leadBreak || trailSpace || trailBreak
    let noPlain := edges || breakSpace || spaceBreak || special || breaks
    { multiline := breaks,
      flowPlain := !noPlain && !flowInd,
      blockPlain := !noPlain && !blockInd,
      singleQuoted := !(breakSpace || spaceBreak || special),
      block := !(trailSpace || spaceBreak || special) }

/-- Whether a string would read back as something else when written plain. -/
def needsQuotes (s : String) : Bool :=
  match PlainValue.of s with
  | .string => digitsButNotNumber s
  | _ => true

def upperHex (width n : Nat) : String :=
  let digits := (Nat.toDigits 16 n).map Char.toUpper
  String.ofList (List.replicate (width - digits.length) '0' ++ digits)

/-- The escape of a character in double quotes. -/
def doubleEscape (c : Char) : String :=
  match c with
  | '\x00' => "\\0"
  | '\x07' => "\\a"
  | '\x08' => "\\b"
  | '\t' => "\\t"
  | '\n' => "\\n"
  | '\x0b' => "\\v"
  | '\x0c' => "\\f"
  | '\r' => "\\r"
  | '\x1b' => "\\e"
  | '"' => "\\\""
  | '\\' => "\\\\"
  | '\u0085' => "\\N"
  | '\u00A0' => "\\_"
  | '\u2028' => "\\L"
  | '\u2029' => "\\P"
  | _ =>
    let n := c.toNat
    if n ≤ 0xFF then "\\x" ++ upperHex 2 n
    else if n ≤ 0xFFFF then "\\u" ++ upperHex 4 n
    else "\\U" ++ upperHex 8 n

/-- A writer partway through a scalar: the text so far, the column of the next character,
whether the current line holds only indentation, and whether the writer stands after a blank. -/
structure Pen where
  text : String
  column : Nat
  indention : Bool
  whitespace : Bool

namespace Pen

def after (column : Nat) : Pen := { text := "", column, indention := false, whitespace := false }

def put (p : Pen) (c : Char) : Pen := { p with text := p.text.push c, column := p.column + 1 }

def putText (p : Pen) (s : String) : Pen := s.toList.foldl put p

def newline (p : Pen) : Pen := { p with text := p.text.push '\n', column := 0 }

/-- Writes a line break of the scalar: a line feed ends the line, any other break is written as
it is and starts a line too. -/
def lineBreak (p : Pen) (c : Char) : Pen :=
  if c == '\n' then p.newline else { p with text := p.text.push c, column := 0 }

/-- Goes to `indent` on a fresh line: a new line is started unless the current one holds only
indentation that has not passed `indent`, then spaces fill up to it. -/
def indentTo (p : Pen) (indent : Nat) : Pen :=
  let p := if !p.indention || p.column > indent || (p.column == indent && !p.whitespace)
    then p.newline else p
  let p := p.putText (String.ofList (List.replicate (indent - p.column) ' '))
  { p with whitespace := true, indention := true }

/-- Writes an indicator, after a space when `spaced` and the pen is not after a blank;
`blank` says whether the pen stands after a blank then. -/
def indicator (p : Pen) (s : String) (spaced blank : Bool) : Pen :=
  let p := if spaced && !p.whitespace then p.put ' ' else p
  { p.putText s with whitespace := blank, indention := false }

end Pen

/-- The writer within a scalar: the pen, and whether the last character was a line break. -/
structure Run where
  pen : Pen
  breaks : Bool

/-- Writes the text shown for a character that is not a line break; the line goes on at
`indent` after a break. -/
def Run.shown (r : Run) (indent : Nat) (text : String) : Run :=
  let pen := if r.breaks then r.pen.indentTo indent else r.pen
  { pen := { pen.putText text with indention := false }, breaks := false }

/-- Writes a line break within a quoted or plain scalar; a line feed after a character that is
not a break is written twice, since one alone would fold into a space. -/
def Run.breakChar (r : Run) (c : Char) : Run :=
  let pen := if !r.breaks && c == '\n' then r.pen.newline else r.pen
  { pen := { pen.lineBreak c with indention := true }, breaks := true }

def plainChars (indent : Nat) : List Char → Run → Run
  | [], r => r
  | c :: rest, r =>
    plainChars indent rest (if isBreak c then r.breakChar c else r.shown indent c.toString)

def writePlain (p : Pen) (s : String) (indent : Nat) : Pen :=
  let p := if !p.whitespace && !s.isEmpty then p.put ' ' else p
  let r := plainChars indent s.toList { pen := p, breaks := false }
  { r.pen with whitespace := false, indention := false }

/-- The characters of a single-quoted scalar; a quote is written twice. -/
def singleQuotedChars (indent : Nat) : List Char → Run → Run
  | [], r => r
  | c :: rest, r =>
    singleQuotedChars indent rest
      (if isBreak c then r.breakChar c
       else r.shown indent (if c == '\'' then "''" else c.toString))

/-- A single-quoted scalar; after a closing line break the line goes on at `indent`. -/
def writeSingleQuoted (p : Pen) (s : String) (indent : Nat) : Pen :=
  let r := singleQuotedChars indent s.toList { pen := p.indicator "'" true false, breaks := false }
  let pen := if r.breaks then r.pen.indentTo indent else r.pen
  pen.indicator "'" false false

def escapedInDoubleQuotes (c : Char) : Bool :=
  !isPrintable c || c == byteOrderMark || isBreak c || c == '"' || c == '\\'

/-- A double-quoted scalar: all on one line, with the escapes of `doubleEscape`. -/
def writeDoubleQuoted (p : Pen) (s : String) : Pen :=
  let p := p.indicator "\"" true false
  let p := s.toList.foldl (fun p c =>
    if escapedInDoubleQuotes c then p.putText (doubleEscape c) else p.put c) p
  p.indicator "\"" false false

/-- The characters of a literal block: each line break is written as it is, and each line that
holds something starts at `indent`. -/
def literalChars (indent : Nat) : List Char → Run → Run
  | [], r => r
  | c :: rest, r =>
    let r :=
      if isBreak c then
        let pen := r.pen.lineBreak c
        { pen := { pen with indention := true }, breaks := true }
      else r.shown indent c.toString
    literalChars indent rest r

/-- A literal block: the indicator `|`, the indentation when the text starts with a blank or a
line break, and `-` to drop the last line break when there is none, or `+` to keep the breaks
when the text ends in more than one; then the text on the following lines. -/
def writeLiteral (p : Pen) (s : String) (indent : Nat) : Pen :=
  let cs := s.toList
  let p := p.indicator "|" true false
  let p := match cs.head? with
    | some c => if c == ' ' || isBreak c then p.indicator "2" false false else p
    | none => p
  let chomp := match cs.reverse with
    | [] => "-"
    | c :: rest =>
      if !isBreak c then "-"
      else match rest with
        | [] => "+"
        | d :: _ => if isBreak d then "+" else ""
  let p := if chomp.isEmpty then p else p.indicator chomp false false
  let p := { p.newline with indention := true, whitespace := true }
  (literalChars indent cs { pen := p, breaks := true }).pen

/-- A string written as a value in block context, in the style that fits it, by a pen standing
after an indicator; lines after the first are indented by `indent`. -/
def writeBlockScalar (p : Pen) (s : String) (indent : Nat) : Pen :=
  let fit := ScalarFit.of s
  if s.toList.contains '\n' then
    if fit.block then writeLiteral p s indent else writeDoubleQuoted p s
  else if !needsQuotes s && fit.blockPlain then writePlain p s indent
  else if fit.singleQuoted then writeSingleQuoted p s indent
  else writeDoubleQuoted p s

/-- A string written as a value in block context after an indicator ending at `column`, its
further lines indented by `indent`: the text starts with the space after the indicator and ends
at the start of the next line. A literal block that ends in a line break needs no other. -/
def blockValue (s : String) (column indent : Nat) : String :=
  let p := writeBlockScalar (Pen.after column) s indent
  if p.indention && p.column == 0 then p.text else p.text ++ "\n"

end EntitySchema.Yaml
