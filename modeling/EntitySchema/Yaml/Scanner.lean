import EntitySchema.Yaml.Token
import EntitySchema.Yaml.Chars

/-!
# Cutting YAML text into tokens

The scanner reads a YAML text one token at a time, on demand. Structure in block context is
carried by indentation: when a line starts further in, the scanner opens a block collection,
and when it starts further out, it closes the open ones (`blockEnd`). A key written without
`?` is only known to be a key when the `:` after it is found, so the scanner remembers where a
key may have started (a *simple key*) and inserts the `key` token, and if needed the start of
a block mapping, at that place once the `:` arrives. A token is handed out only when no such
insertion can come before it any more.

A simple key lies on one line and spans at most 1024 bytes; one that must be a key,
because it starts a line at the current indentation, is an error when its `:` never comes.

Every loop reads at least one character per round or stops, so each is given one round more
than the text has characters.
-/

namespace EntitySchema.Yaml

/-- A place where a key written without `?` may have started. -/
structure SimpleKey where
  possible : Bool := false
  /-- The key starts a line at the current indentation, so it must be one. -/
  required : Bool := false
  /-- The number of the token the key would be inserted before. -/
  tokenNumber : Nat := 0
  mark : Mark := {}

/-- The state of a scanner. -/
structure Scanner where
  input : Array Char
  mark : Mark := {}
  streamStartProduced : Bool := false
  streamEndProduced : Bool := false
  /-- How many flow collections are open. -/
  flowLevel : Nat := 0
  /-- Tokens scanned and not yet handed out. -/
  queue : List Token := []
  /-- How many tokens were handed out. -/
  tokensParsed : Nat := 0
  tokenAvailable : Bool := false
  /-- The column of the innermost open block collection, `-1` outside all. -/
  indent : Int := -1
  /-- The indentations of the enclosing block collections, innermost first. -/
  indents : List Int := []
  simpleKeyAllowed : Bool := false
  /-- One possible simple key per flow level, the innermost last. -/
  simpleKeys : Array SimpleKey := #[]

/-- A scanner at the start of a text; a byte order mark in front is not part of it. -/
def Scanner.ofText (text : String) : Scanner :=
  let cs := text.toList
  { input := (if cs.head? == some byteOrderMark then cs.drop 1 else cs).toArray }

def Scanner.ahead (s : Scanner) (k : Nat) : Char := s.input.getD (s.mark.index + k) endChar

abbrev ScanM := StateT Scanner (Except SyntaxError)

namespace Scan

def peekAt (k : Nat) : ScanM Char := return (← get).ahead k

def here : ScanM Mark := return (← get).mark

/-- Enough rounds for any loop that reads a character per round. -/
def budget : ScanM Nat := return (← get).input.size + 2

def advance : ScanM Unit :=
  modify fun s => { s with mark := { s.mark with index := s.mark.index + 1,
                                                  column := s.mark.column + 1,
                                                  offset := s.mark.offset + (s.ahead 0).utf8Size } }

/-- Moves past a line break of `width` characters. -/
def newLine (width : Nat) : ScanM Unit :=
  modify fun s =>
    let bytes := (List.range width).foldl (fun acc k => acc + (s.ahead k).utf8Size) 0
    { s with mark := { index := s.mark.index + width, line := s.mark.line + 1, column := 0,
                       offset := s.mark.offset + bytes } }

/-- Moves past a line break, a carriage return and line feed counting as one. -/
def skipLine : ScanM Unit := do
  let c0 ← peekAt 0
  let c1 ← peekAt 1
  if c0 == '\r' && c1 == '\n' then newLine 2
  else if isBreak c0 then newLine 1

def readInto (acc : String) : ScanM String := do
  let c ← peekAt 0
  advance
  return acc.push c

/-- Appends the current line break to `acc` and moves past it; carriage returns and the
next-line character are read as a line feed. -/
def readLineInto (acc : String) : ScanM String := do
  let c0 ← peekAt 0
  let c1 ← peekAt 1
  if c0 == '\r' && c1 == '\n' then
    newLine 2
    return acc.push '\n'
  else if c0 == '\r' || c0 == '\n' || c0 == '\u0085' then
    newLine 1
    return acc.push '\n'
  else if c0 == '\u2028' || c0 == '\u2029' then
    newLine 1
    return acc.push c0
  else
    return acc

def fail {α : Type} (context : Option String) (contextMark : Mark) (problem : String) :
    ScanM α := do
  throw { problem, problemMark := (← get).mark, context, contextMark }

/-- Moves past characters while they pass `p`. -/
def skipWhile (p : Char → Bool) : Nat → ScanM Unit
  | 0 => pure ()
  | fuel + 1 => do
    if p (← peekAt 0) then
      advance
      skipWhile p fuel

def readWhile (p : Char → Bool) : Nat → String → ScanM String
  | 0, acc => pure acc
  | fuel + 1, acc => do
    if p (← peekAt 0) then readWhile p fuel (← readInto acc) else pure acc

/-- Whether the next four characters are the document marker `---` or `...` at the start of a
line, followed by a blank or the end. -/
def atDocumentMarker : ScanM Bool := do
  let s ← get
  let c0 := s.ahead 0
  let c1 := s.ahead 1
  let c2 := s.ahead 2
  return s.mark.column == 0 &&
    ((c0 == '-' && c1 == '-' && c2 == '-') || (c0 == '.' && c1 == '.' && c2 == '.')) &&
    isBlankOrEnd (s.ahead 3)

/-! ## The token queue, indentation and simple keys -/

def enqueue (t : Token) : ScanM Unit := modify fun s => { s with queue := s.queue ++ [t] }

def insertAt (t : Token) : Nat → List Token → List Token
  | 0, ts => t :: ts
  | _ + 1, [] => [t]
  | n + 1, u :: us => u :: insertAt t n us

def insertToken (n : Nat) (t : Token) : ScanM Unit :=
  modify fun s => { s with queue := insertAt t n s.queue }

/-- Opens a block collection when `column` lies further in than the current indentation; its
start token goes to the end of the queue, or before token number `number`. -/
def rollIndent (column : Int) (number : Option Nat) (kind : TokenKind) (mark : Mark) :
    ScanM Unit := do
  let s ← get
  if s.flowLevel == 0 && s.indent < column then
    set { s with indents := s.indent :: s.indents, indent := column }
    match number with
    | none => enqueue ⟨kind, mark, mark⟩
    | some n => insertToken (n - s.tokensParsed) ⟨kind, mark, mark⟩

/-- The block ends for every indentation further in than `column`, and what stays open. -/
def closeLevels (column : Int) (mark : Mark) : Int → List Int → List Token × Int × List Int
  | indent, [] => ([], indent, [])
  | indent, outer :: rest =>
    if indent > column then
      let (ends, i, is) := closeLevels column mark outer rest
      (⟨.blockEnd, mark, mark⟩ :: ends, i, is)
    else ([], indent, outer :: rest)

/-- Closes every block collection further in than `column`. -/
def unrollIndent (column : Int) : ScanM Unit := do
  let s ← get
  if s.flowLevel == 0 then
    let (ends, indent, indents) := closeLevels column s.mark s.indent s.indents
    set { s with queue := s.queue ++ ends, indent, indents }

/-- Forgets the simple key of the innermost level; one that must be a key is an error. -/
def removeSimpleKey : ScanM Unit := do
  let s ← get
  match s.simpleKeys.back? with
  | none => pure ()
  | some k =>
    if k.possible && k.required then
      fail (some "while scanning a simple key") k.mark "could not find expected ':'"
    set { s with simpleKeys := s.simpleKeys.modify (s.simpleKeys.size - 1)
                                fun k => { k with possible := false } }

/-- Remembers that a simple key may start here, if one may. -/
def saveSimpleKey : ScanM Unit := do
  let s ← get
  if s.simpleKeyAllowed then
    let key : SimpleKey :=
      { possible := true, required := s.flowLevel == 0 && s.indent == (s.mark.column : Int),
        tokenNumber := s.tokensParsed + s.queue.length, mark := s.mark }
    removeSimpleKey
    modify fun s => { s with simpleKeys := s.simpleKeys.modify (s.simpleKeys.size - 1)
                                             fun _ => key }

/-- A possible simple key seen from `mark`: it lapses once a line or more than 1024 bytes lie
between, and one that must be a key is then an error. -/
def staleKey (mark : Mark) (k : SimpleKey) : Except SyntaxError SimpleKey :=
  if k.possible && (k.mark.line < mark.line || k.mark.offset + 1024 < mark.offset) then
    if k.required then
      .error { problem := "could not find expected ':'", problemMark := mark,
               context := some "while scanning a simple key", contextMark := k.mark }
    else .ok { k with possible := false }
  else .ok k

def staleSimpleKeys : ScanM Unit := do
  let s ← get
  let keys ← (s.simpleKeys.mapM (staleKey s.mark) : Except SyntaxError (Array SimpleKey))
  set { s with simpleKeys := keys }

def increaseFlowLevel : ScanM Unit :=
  modify fun s => { s with simpleKeys := s.simpleKeys.push {}, flowLevel := s.flowLevel + 1 }

def decreaseFlowLevel : ScanM Unit :=
  modify fun s =>
    if s.flowLevel > 0 then { s with flowLevel := s.flowLevel - 1, simpleKeys := s.simpleKeys.pop }
    else s

def allowSimpleKey (b : Bool) : ScanM Unit := modify fun s => { s with simpleKeyAllowed := b }

/-! ## Plain scalars -/

/-- What a scalar has read so far: its text, and the blanks and line breaks that wait to be
joined into it, folded, when more of it follows. -/
structure Pending where
  text : String := ""
  whitespaces : String := ""
  leadingBreak : String := ""
  trailingBreaks : String := ""
  leadingBlanks : Bool := false
  stop : Mark := {}

/-- Joins the waiting line breaks into the text: one line feed alone becomes a space, more of
them stay as they are but the first. -/
def Pending.foldBreaks (p : Pending) : Pending :=
  if p.leadingBreak.startsWith "\n" then
    if p.trailingBreaks.isEmpty then
      { p with text := p.text.push ' ', leadingBreak := "" }
    else
      { p with text := p.text ++ p.trailingBreaks, trailingBreaks := "", leadingBreak := "" }
  else
    { p with text := p.text ++ p.leadingBreak ++ p.trailingBreaks, leadingBreak := "",
             trailingBreaks := "" }

/-- Joins what waits into the text: folded line breaks, or the blanks as they are. -/
def Pending.join (p : Pending) : Pending :=
  if p.leadingBlanks then { p.foldBreaks with leadingBlanks := false }
  else { p with text := p.text ++ p.whitespaces, whitespaces := "" }

def isFlowIndicator (c : Char) : Bool := c == ',' || c == '[' || c == ']' || c == '{' || c == '}'

/-- Reads the characters of a plain scalar up to a blank, a `: `, or in flow context a flow
indicator. -/
def plainChars (start : Mark) : Nat → Pending → ScanM Pending
  | 0, p => pure p
  | fuel + 1, p => do
    let s ← get
    let c := s.ahead 0
    let next := s.ahead 1
    if isBlankOrEnd c then return p
    if s.flowLevel > 0 && c == ':' && (isFlowIndicator next || next == '?') then
      fail (some "while scanning a plain scalar") start "found unexpected ':'"
    if (c == ':' && isBlankOrEnd next) || (s.flowLevel > 0 && isFlowIndicator c) then return p
    let p := if p.leadingBlanks || !p.whitespaces.isEmpty then p.join else p
    let text ← readInto p.text
    plainChars start fuel { p with text, stop := (← here) }

/-- Reads the blanks and line breaks after a part of a plain scalar. -/
def plainBlanks (start : Mark) (indent : Int) : Nat → Pending → ScanM Pending
  | 0, p => pure p
  | fuel + 1, p => do
    let s ← get
    let c := s.ahead 0
    if isBlank c then
      if p.leadingBlanks && (s.mark.column : Int) < indent && c == '\t' then
        fail (some "while scanning a plain scalar") start
          "found a tab character that violates indentation"
      if p.leadingBlanks then
        advance
        plainBlanks start indent fuel p
      else
        plainBlanks start indent fuel { p with whitespaces := ← readInto p.whitespaces }
    else if isBreak c then
      if p.leadingBlanks then
        plainBlanks start indent fuel { p with trailingBreaks := ← readLineInto p.trailingBreaks }
      else
        let leadingBreak ← readLineInto ""
        plainBlanks start indent fuel { p with whitespaces := "", leadingBreak, leadingBlanks := true }
    else return p

/-- Reads a plain scalar, part by part, until a document marker, a comment, an indicator, or in
block context a line indented no further than the enclosing collection. -/
def plainParts (start : Mark) (indent : Int) : Nat → Pending → ScanM Pending
  | 0, p => pure p
  | fuel + 1, p => do
    if ← atDocumentMarker then return p
    if (← peekAt 0) == '#' then return p
    let rounds ← budget
    let p ← plainChars start rounds p
    let c ← peekAt 0
    if !(isBlank c || isBreak c) then return p
    let p ← plainBlanks start indent rounds p
    let s ← get
    if s.flowLevel == 0 && (s.mark.column : Int) < indent then return p
    plainParts start indent fuel p

/-- Scans a plain scalar. After one that ran over a line break, a simple key may start. -/
def scanPlainScalar : ScanM Token := do
  let s ← get
  let start := s.mark
  let p ← plainParts start (s.indent + 1) (← budget) { stop := start }
  if p.leadingBlanks then allowSimpleKey true
  return ⟨.scalar p.text .plain, start, p.stop⟩

/-! ## Quoted scalars -/

/-- The character an escape letter of a double-quoted scalar stands for, or the number of hex
digits of a character code that follows it. -/
def escapeOf : Char → Option (Sum Char Nat)
  | '0' => some (.inl '\x00')
  | 'a' => some (.inl '\x07')
  | 'b' => some (.inl '\x08')
  | 't' => some (.inl '\t')
  | '\t' => some (.inl '\t')
  | 'n' => some (.inl '\n')
  | 'v' => some (.inl '\x0b')
  | 'f' => some (.inl '\x0c')
  | 'r' => some (.inl '\r')
  | 'e' => some (.inl '\x1b')
  | ' ' => some (.inl ' ')
  | '"' => some (.inl '"')
  | '/' => some (.inl '/')
  | '\'' => some (.inl '\'')
  | '\\' => some (.inl '\\')
  | 'N' => some (.inl '\u0085')
  | '_' => some (.inl '\u00A0')
  | 'L' => some (.inl '\u2028')
  | 'P' => some (.inl '\u2029')
  | 'x' => some (.inr 2)
  | 'u' => some (.inr 4)
  | 'U' => some (.inr 8)
  | _ => none

/-- The value of `width` hex digits ahead, if they are hex digits. -/
def hexAhead (s : Scanner) (width : Nat) : Option Nat :=
  (List.range width).foldl (fun acc k =>
    acc.bind fun v => if isHexDigit (s.ahead k) then some (16 * v + hexValue (s.ahead k)) else none)
    (some 0)

/-- Reads the characters of a quoted scalar up to a blank or its closing quote, resolving
escapes; an escaped line break ends the part. -/
def quotedChars (single : Bool) (start : Mark) : Nat → Pending → ScanM Pending
  | 0, p => pure p
  | fuel + 1, p => do
    let s ← get
    let c := s.ahead 0
    let quote := if single then '\'' else '"'
    if isBlankOrEnd c then return p
    if single && c == '\'' && s.ahead 1 == '\'' then
      advance
      advance
      quotedChars single start fuel { p with text := p.text.push '\'' }
    else if c == quote then return p
    else if !single && c == '\\' && isBreak (s.ahead 1) then
      advance
      skipLine
      return { p with leadingBlanks := true }
    else if !single && c == '\\' then
      match escapeOf (s.ahead 1) with
      | none => fail (some "while parsing a quoted scalar") start "found unknown escape character"
      | some (.inl e) =>
        advance
        advance
        quotedChars single start fuel { p with text := p.text.push e }
      | some (.inr width) =>
        advance
        advance
        match hexAhead (← get) width with
        | none =>
          fail (some "while parsing a quoted scalar") start
            "did not find expected hexadecimal number"
        | some v =>
          if (0xD800 ≤ v && v ≤ 0xDFFF) || v > 0x10FFFF then
            fail (some "while parsing a quoted scalar") start
              "found invalid Unicode character escape code"
          for _ in List.range width do advance
          quotedChars single start fuel { p with text := p.text.push (Char.ofNat v) }
    else
      quotedChars single start fuel { p with text := ← readInto p.text }

/-- Reads the blanks and line breaks inside a quoted scalar. -/
def quotedBlanks : Nat → Pending → ScanM Pending
  | 0, p => pure p
  | fuel + 1, p => do
    let c ← peekAt 0
    if isBlank c then
      if p.leadingBlanks then
        advance
        quotedBlanks fuel p
      else
        quotedBlanks fuel { p with whitespaces := ← readInto p.whitespaces }
    else if isBreak c then
      if p.leadingBlanks then
        quotedBlanks fuel { p with trailingBreaks := ← readLineInto p.trailingBreaks }
      else
        let leadingBreak ← readLineInto ""
        quotedBlanks fuel { p with whitespaces := "", leadingBreak, leadingBlanks := true }
    else return p

/-- Reads a quoted scalar, part by part, up to its closing quote. -/
def quotedParts (single : Bool) (start : Mark) : Nat → Pending → ScanM Pending
  | 0, p => pure p
  | fuel + 1, p => do
    if ← atDocumentMarker then
      fail (some "while scanning a quoted scalar") start "found unexpected document indicator"
    if isEnd (← peekAt 0) then
      fail (some "while scanning a quoted scalar") start "found unexpected end of stream"
    let rounds ← budget
    let p ← quotedChars single start rounds { p with leadingBlanks := false }
    if (← peekAt 0) == (if single then '\'' else '"') then return p
    let p ← quotedBlanks rounds p
    quotedParts single start fuel p.join

/-- Scans a single- or double-quoted scalar. -/
def scanQuotedScalar (single : Bool) : ScanM Token := do
  let start ← here
  advance
  let p ← quotedParts single start (← budget) {}
  advance
  return ⟨.scalar p.text (if single then .singleQuoted else .doubleQuoted), start, ← here⟩

/-! ## Block scalars -/

/-- Moves past the spaces of a block scalar's indentation: all of them while the indentation
is not known, else those short of it. -/
def indentSpaces (indent : Nat) : Nat → ScanM Unit
  | 0 => pure ()
  | fuel + 1 => do
    let s ← get
    if (indent == 0 || s.mark.column < indent) && s.ahead 0 == ' ' then
      advance
      indentSpaces indent fuel

/-- Reads the indentation and empty lines before a line of a block scalar. Without a known
indentation, it becomes the deepest seen, at least one past the enclosing collection. -/
def blockBreaks (start : Mark) (outer : Int) : Nat → Nat → Nat → String → Mark →
    ScanM (Nat × String × Mark)
  | 0, indent, _, breaks, stop => pure (indent, breaks, stop)
  | fuel + 1, indent, deepest, breaks, stop => do
    indentSpaces indent (← budget)
    let s ← get
    let deepest := max deepest s.mark.column
    let c := s.ahead 0
    if (indent == 0 || s.mark.column < indent) && c == '\t' then
      fail (some "while scanning a block scalar") start
        "found a tab character where an indentation space is expected"
    if !isBreak c then
      let indent :=
        if indent != 0 then indent
        else max (max deepest (outer + 1).toNat) 1
      return (indent, breaks, stop)
    let breaks ← readLineInto breaks
    blockBreaks start outer fuel indent deepest breaks (← here)

/-- Reads the lines of a block scalar while they are indented to `indent`. -/
def blockLines (start : Mark) (literal : Bool) (outer : Int) : Nat → Nat → Pending → Bool →
    ScanM Pending
  | 0, _, p, _ => pure p
  | fuel + 1, indent, p, leadingBlank => do
    let s ← get
    if s.mark.column != indent || isEnd (s.ahead 0) then return p
    let trailingBlank := isBlank (s.ahead 0)
    let p :=
      if !literal && p.leadingBreak.startsWith "\n" && !leadingBlank && !trailingBlank then
        { p with text := if p.trailingBreaks.isEmpty then p.text.push ' ' else p.text,
                 leadingBreak := "" }
      else { p with text := p.text ++ p.leadingBreak, leadingBreak := "" }
    let p := { p with text := p.text ++ p.trailingBreaks, trailingBreaks := "" }
    let leadingBlank := isBlank (s.ahead 0)
    let text ← readWhile (fun c => !isBreakOrEnd c) (← budget) p.text
    let leadingBreak ← readLineInto ""
    let (indent, trailingBreaks, stop) ← blockBreaks start outer (← budget) indent 0 "" p.stop
    blockLines start literal outer fuel indent
      { p with text, leadingBreak, trailingBreaks, stop } leadingBlank

/-- Scans a literal (`|`) or folded (`>`) block scalar with its chomping and indentation
indicators. -/
def scanBlockScalar (literal : Bool) : ScanM Token := do
  let start ← here
  advance
  let chompOf (c : Char) : Int := if c == '+' then 1 else -1
  let indicatorZero : ScanM Unit :=
    fail (some "while scanning a block scalar") start "found an indentation indicator equal to 0"
  let c ← peekAt 0
  let (chomping, increment) ← do
    if c == '+' || c == '-' then
      advance
      let d ← peekAt 0
      if d.isDigit then
        if d == '0' then indicatorZero
        advance
        pure (chompOf c, d.toNat - '0'.toNat)
      else pure (chompOf c, 0)
    else if c.isDigit then
      if c == '0' then indicatorZero
      advance
      let d ← peekAt 0
      if d == '+' || d == '-' then
        advance
        pure (chompOf d, c.toNat - '0'.toNat)
      else pure ((0 : Int), c.toNat - '0'.toNat)
    else pure ((0 : Int), 0)
  skipWhile isBlank (← budget)
  if (← peekAt 0) == '#' then skipWhile (fun c => !isBreakOrEnd c) (← budget)
  if !isBreakOrEnd (← peekAt 0) then
    fail (some "while scanning a block scalar") start "did not find expected comment or line break"
  if isBreak (← peekAt 0) then skipLine
  let stop ← here
  let outer := (← get).indent
  let indent := if increment == 0 then 0
    else if outer ≥ 0 then (outer + increment).toNat else increment
  let (indent, trailingBreaks, stop) ← blockBreaks start outer (← budget) indent 0 "" stop
  let p ← blockLines start literal outer (← budget) indent { trailingBreaks, stop } false
  let text := if chomping != -1 then p.text ++ p.leadingBreak else p.text
  let text := if chomping == 1 then text ++ p.trailingBreaks else text
  return ⟨.scalar text (if literal then .literal else .folded), start, p.stop⟩

/-! ## Anchors, aliases and tags -/

def endsName (c : Char) : Bool :=
  isBlankOrEnd c || c == '?' || c == ':' || c == ',' || c == ']' || c == '}' || c == '%' ||
  c == '@' || c == '\x60'

/-- Scans an anchor (`&name`) or an alias (`*name`). -/
def scanAnchor (isAlias : Bool) : ScanM Token := do
  let start ← here
  advance
  let name ← readWhile isWordChar (← budget) ""
  let stop ← here
  if name.isEmpty || !endsName (← peekAt 0) then
    fail (some (if isAlias then "while scanning an alias" else "while scanning an anchor")) start
      "did not find expected alphabetic or numeric character"
  return ⟨if isAlias then .aliasOf name else .anchor name, start, stop⟩

/-- Scans a tag handle: `!`, `!!` or `!word!`. In a directive, anything else is an error. -/
def scanTagHandle (directive : Bool) (start : Mark) : ScanM String := do
  if (← peekAt 0) != '!' then
    fail (some (if directive then "while scanning a tag directive" else "while scanning a tag"))
      start "did not find expected '!'"
  let h ← readInto ""
  let h ← readWhile isWordChar (← budget) h
  if (← peekAt 0) == '!' then readInto h
  else
    if directive && h != "!" then
      fail (some "while parsing a tag directive") start "did not find expected '!'"
    return h

/-- Characters of a URI in a tag; within `!<...>` also `,`, `[` and `]`. -/
def isUriChar (verbatim : Bool) (c : Char) : Bool :=
  isWordChar c || ";/?:@&=+$.%!~*'()".toList.contains c ||
  (verbatim && (c == ',' || c == '[' || c == ']'))

def tagContext (directive : Bool) : String :=
  if directive then "while parsing a %TAG directive" else "while parsing a tag"

/-- Reads the octets of one `%`-escaped UTF-8 character. -/
def uriEscape (directive : Bool) (start : Mark) : Nat → Nat → List UInt8 → ScanM (List UInt8)
  | 0, _, acc => pure acc
  | fuel + 1, width, acc => do
    let s ← get
    if !(s.ahead 0 == '%' && isHexDigit (s.ahead 1) && isHexDigit (s.ahead 2)) then
      fail (some (tagContext directive)) start "did not find URI escaped octet"
    let octet := 16 * hexValue (s.ahead 1) + hexValue (s.ahead 2)
    let width ←
      if width == 0 then
        let w := if octet < 0x80 then 1 else if octet / 32 == 6 then 2
          else if octet / 16 == 14 then 3 else if octet / 8 == 30 then 4 else 0
        if w == 0 then
          fail (some (tagContext directive)) start "found an incorrect leading UTF-8 octet"
        pure w
      else
        if octet / 64 != 2 then
          fail (some (tagContext directive)) start "found an incorrect trailing UTF-8 octet"
        pure width
    advance
    advance
    advance
    let acc := acc ++ [octet.toUInt8]
    if width == 1 then return acc else uriEscape directive start fuel (width - 1) acc

/-- Reads the URI part of a tag after `head`, whose leading `!` is dropped. -/
def tagUri (verbatim directive : Bool) (start : Mark) : Nat → String → Nat → ScanM (String × Nat)
  | 0, acc, length => pure (acc, length)
  | fuel + 1, acc, length => do
    let c ← peekAt 0
    if !isUriChar verbatim c then return (acc, length)
    if c == '%' then
      let octets ← uriEscape directive start 4 0 []
      let text := (String.fromUTF8? (ByteArray.mk octets.toArray)).getD "\uFFFD"
      tagUri verbatim directive start fuel (acc ++ text) (length + 1)
    else
      tagUri verbatim directive start fuel (← readInto acc) (length + 1)

/-- Scans the URI of a tag; an empty one is an error. -/
def scanTagUri (verbatim directive : Bool) (head : String) (start : Mark) : ScanM String := do
  let (uri, length) ← tagUri verbatim directive start (← budget) (head.drop 1).toString head.length
  if length == 0 then fail (some (tagContext directive)) start "did not find expected tag URI"
  return uri

/-- Scans a tag: `!<uri>`, `!handle!suffix`, `!suffix` or `!` alone. -/
def scanTag : ScanM Token := do
  let start ← here
  let (handle, suffix) ← do
    if (← peekAt 1) == '<' then
      advance
      advance
      let suffix ← scanTagUri true false "" start
      if (← peekAt 0) != '>' then
        fail (some "while scanning a tag") start "did not find the expected '>'"
      advance
      pure ("", suffix)
    else
      let h ← scanTagHandle false start
      if h.length > 1 && h.endsWith "!" then
        pure (h, ← scanTagUri false false "" start)
      else
        let suffix ← scanTagUri false false h start
        pure (if suffix.isEmpty then ("", "!") else ("!", suffix))
  let c ← peekAt 0
  if !isBlankOrEnd c && ((← get).flowLevel == 0 || c != ',') then
    fail (some "while scanning a tag") start "did not find expected whitespace or line break"
  return ⟨.tag handle suffix, start, ← here⟩

/-! ## Directives -/

/-- Reads a version number of at most nine digits. -/
def versionNumber (start : Mark) : ScanM Nat := do
  let digits ← readWhile Char.isDigit (← budget) ""
  if digits.length > 9 then
    fail (some "while scanning a %YAML directive") start "found extremely long version number"
  if digits.isEmpty then
    fail (some "while scanning a %YAML directive") start "did not find expected version number"
  return digits.toNat!

/-- Scans a `%YAML` or `%TAG` directive and the rest of its line. -/
def scanDirective : ScanM Token := do
  let start ← here
  advance
  let name ← readWhile isWordChar (← budget) ""
  if name.isEmpty then
    fail (some "while scanning a directive") start "could not find expected directive name"
  if !isBlankOrEnd (← peekAt 0) then
    fail (some "while scanning a directive") start "found unexpected non-alphabetical character"
  let kind ← do
    if name == "YAML" then
      skipWhile isBlank (← budget)
      let major ← versionNumber start
      if (← peekAt 0) != '.' then
        fail (some "while scanning a %YAML directive") start
          "did not find expected digit or '.' character"
      advance
      let minor ← versionNumber start
      pure (TokenKind.versionDirective major minor)
    else if name == "TAG" then
      skipWhile isBlank (← budget)
      let handle ← scanTagHandle true start
      if !isBlank (← peekAt 0) then
        fail (some "while scanning a %TAG directive") start "did not find expected whitespace"
      skipWhile isBlank (← budget)
      let pfx ← scanTagUri true true "" start
      if !isBlankOrEnd (← peekAt 0) then
        fail (some "while scanning a %TAG directive") start
          "did not find expected whitespace or line break"
      pure (TokenKind.tagDirective handle pfx)
    else
      fail (some "while scanning a directive") start "found unknown directive name"
  let stop ← here
  skipWhile isBlank (← budget)
  if (← peekAt 0) == '#' then skipWhile (fun c => !isBreakOrEnd c) (← budget)
  if !isBreakOrEnd (← peekAt 0) then
    fail (some "while scanning a directive") start "did not find expected comment or line break"
  if isBreak (← peekAt 0) then skipLine
  return ⟨kind, start, stop⟩

/-! ## Fetching tokens -/

/-- Moves past blanks, comments and line breaks to the next token; a line break in block
context lets a simple key start. -/
def toNextToken : Nat → ScanM Unit
  | 0 => pure ()
  | fuel + 1 => do
    let s ← get
    if s.mark.column == 0 && s.ahead 0 == byteOrderMark then advance
    let s ← get
    let tabsAllowed := s.flowLevel > 0 || !s.simpleKeyAllowed
    skipWhile (fun c => c == ' ' || (tabsAllowed && c == '\t')) (← budget)
    if (← peekAt 0) == '#' then skipWhile (fun c => !isBreakOrEnd c) (← budget)
    if isBreak (← peekAt 0) then
      skipLine
      if (← get).flowLevel == 0 then allowSimpleKey true
      toNextToken fuel

def indicator (kind : TokenKind) : ScanM Unit := do
  let start ← here
  advance
  enqueue ⟨kind, start, ← here⟩

def isIndicator (c : Char) : Bool :=
  "-?:,[]{}#&*!|>'\"%@".toList.contains c || c == '\x60'

/-- Scans the next token into the queue. -/
def fetchNextToken : ScanM Unit := do
  if !(← get).streamStartProduced then
    modify fun s => { s with indent := -1, simpleKeys := s.simpleKeys.push {},
                             simpleKeyAllowed := true, streamStartProduced := true }
    let m ← here
    enqueue ⟨.streamStart, m, m⟩
    return
  toNextToken (← budget)
  staleSimpleKeys
  unrollIndent (← get).mark.column
  let s ← get
  let c := s.ahead 0
  let next := s.ahead 1
  let inFlow := s.flowLevel > 0
  if isEnd c then
    if s.mark.column != 0 then
      set { s with mark := { s.mark with column := 0, line := s.mark.line + 1 } }
    unrollIndent (-1)
    removeSimpleKey
    allowSimpleKey false
    let m ← here
    enqueue ⟨.streamEnd, m, m⟩
  else if s.mark.column == 0 && c == '%' then
    unrollIndent (-1)
    removeSimpleKey
    allowSimpleKey false
    enqueue (← scanDirective)
  else if ← atDocumentMarker then
    unrollIndent (-1)
    removeSimpleKey
    allowSimpleKey false
    let start ← here
    advance
    advance
    advance
    enqueue ⟨if c == '-' then .documentStart else .documentEnd, start, ← here⟩
  else if c == '[' || c == '{' then
    saveSimpleKey
    increaseFlowLevel
    allowSimpleKey true
    indicator (if c == '[' then .flowSequenceStart else .flowMappingStart)
  else if c == ']' || c == '}' then
    removeSimpleKey
    decreaseFlowLevel
    allowSimpleKey false
    indicator (if c == ']' then .flowSequenceEnd else .flowMappingEnd)
  else if c == ',' then
    removeSimpleKey
    allowSimpleKey true
    indicator .flowEntry
  else if c == '-' && isBlankOrEnd next then
    if !inFlow then
      if !s.simpleKeyAllowed then
        fail none s.mark "block sequence entries are not allowed in this context"
      rollIndent s.mark.column none .blockSequenceStart s.mark
    removeSimpleKey
    allowSimpleKey true
    indicator .blockEntry
  else if c == '?' && (inFlow || isBlankOrEnd next) then
    if !inFlow then
      if !s.simpleKeyAllowed then
        fail none s.mark "mapping keys are not allowed in this context"
      rollIndent s.mark.column none .blockMappingStart s.mark
    removeSimpleKey
    allowSimpleKey !inFlow
    indicator .key
  else if c == ':' && (inFlow || isBlankOrEnd next) then
    match s.simpleKeys.back?.filter (·.possible) with
    | some k =>
      insertToken (k.tokenNumber - s.tokensParsed) ⟨.key, k.mark, k.mark⟩
      rollIndent k.mark.column (some k.tokenNumber) .blockMappingStart k.mark
      modify fun s => { s with simpleKeys := s.simpleKeys.modify (s.simpleKeys.size - 1)
                                               fun k => { k with possible := false } }
      allowSimpleKey false
    | none =>
      if !inFlow then
        if !s.simpleKeyAllowed then
          fail none s.mark "mapping values are not allowed in this context"
        rollIndent s.mark.column none .blockMappingStart s.mark
      allowSimpleKey !inFlow
    indicator .value
  else if c == '*' || c == '&' then
    saveSimpleKey
    allowSimpleKey false
    enqueue (← scanAnchor (c == '*'))
  else if c == '!' then
    saveSimpleKey
    allowSimpleKey false
    enqueue (← scanTag)
  else if (c == '|' || c == '>') && !inFlow then
    removeSimpleKey
    allowSimpleKey true
    enqueue (← scanBlockScalar (c == '|'))
  else if c == '\'' || c == '"' then
    saveSimpleKey
    allowSimpleKey false
    enqueue (← scanQuotedScalar (c == '\''))
  else if !(isBlankOrEnd c || isIndicator c) || (c == '-' && !isBlank next) ||
      (!inFlow && (c == '?' || c == ':') && !isBlankOrEnd next) then
    saveSimpleKey
    allowSimpleKey false
    enqueue (← scanPlainScalar)
  else
    fail (some "while scanning for the next token") s.mark
      "found character that cannot start any token"

/-- Whether the token at the head of the queue may still change: the queue is empty, or a
simple key may be inserted before it. -/
def needMoreTokens : ScanM Bool := do
  if (← get).queue.isEmpty then return true
  staleSimpleKeys
  let s ← get
  return s.simpleKeys.any fun k => k.possible && k.tokenNumber == s.tokensParsed

/-- Scans until the token at the head of the queue is settled. -/
def fetchMoreTokens : Nat → ScanM Unit
  | 0 => pure ()
  | fuel + 1 => do
    if ← needMoreTokens then
      fetchNextToken
      fetchMoreTokens fuel

end Scan

namespace Scanner

/-- The next token, scanning as far as needed to settle it. -/
def peekToken : ScanM Token := do
  if !(← get).tokenAvailable then
    Scan.fetchMoreTokens (2 * (← Scan.budget))
    modify fun s => { s with tokenAvailable := true }
  match (← get).queue with
  | t :: _ => return t
  | [] => let m ← Scan.here; return ⟨.streamEnd, m, m⟩

/-- Hands out the next token. -/
def skipToken : ScanM Unit :=
  modify fun s => match s.queue with
    | t :: rest => { s with queue := rest, tokenAvailable := false,
                            tokensParsed := s.tokensParsed + 1,
                            streamEndProduced := t.kind == .streamEnd }
    | [] => s

end Scanner

end EntitySchema.Yaml
