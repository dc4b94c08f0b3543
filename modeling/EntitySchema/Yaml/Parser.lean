import EntitySchema.Yaml.Scanner

/-!
# From tokens to events

The parser reads tokens and hands out events, one at a time: the starts and ends of the stream,
of documents, of sequences and of mappings, scalars and aliases. It is a state machine whose
state says what may come next; a stack holds the state to return to when a node is complete,
and another the start of each open collection, which errors name as their context.

A key or value left out, and a node that is only an anchor or a tag, read as the empty plain
scalar. Tags are resolved against the `%TAG` directives of the document and the two standard
handles `!` and `!!`.
-/

namespace EntitySchema.Yaml

/-- The kinds of event. -/
inductive EventKind where
  | streamStart
  | streamEnd
  | documentStart
  | documentEnd
  | aliasOf (name : String)
  | scalar (anchor tag : Option String) (text : String) (style : ScalarStyle)
  | sequenceStart (anchor tag : Option String)
  | sequenceEnd
  | mappingStart (anchor tag : Option String)
  | mappingEnd
  deriving Repr, BEq

/-- An event and where it starts. -/
structure Event where
  kind : EventKind
  start : Mark
  deriving Repr

/-- What the parser expects next. -/
inductive ParseState where
  | streamStart
  | implicitDocumentStart
  | documentStart
  | documentContent
  | documentEnd
  | blockNode
  | blockNodeOrIndentlessSequence
  | flowNode
  | blockSequenceFirstEntry
  | blockSequenceEntry
  | indentlessSequenceEntry
  | blockMappingFirstKey
  | blockMappingKey
  | blockMappingValue
  | flowSequenceFirstEntry
  | flowSequenceEntry
  | flowSequenceEntryMappingKey
  | flowSequenceEntryMappingValue
  | flowSequenceEntryMappingEnd
  | flowMappingFirstKey
  | flowMappingKey
  | flowMappingValue
  | flowMappingEmptyValue
  | finished
  deriving Repr, BEq, Inhabited

/-- The state of a parser. -/
structure Parser where
  scanner : Scanner
  state : ParseState := .streamStart
  /-- States to return to, innermost first. -/
  states : List ParseState := []
  /-- Starts of the open collections, innermost first. -/
  marks : List Mark := []
  /-- Tag handles and their prefixes in the current document. -/
  tagDirectives : List (String × String) := []

def Parser.ofText (text : String) : Parser := { scanner := Scanner.ofText text }

abbrev ParseM := StateT Parser (Except SyntaxError)

namespace Parse

/-- Runs a step of the scanner. -/
def liftScan {α : Type} (x : ScanM α) : ParseM α := do
  let p ← get
  let (a, s) ← (x.run p.scanner : Except SyntaxError (α × Scanner))
  set { p with scanner := s }
  return a

def peekToken : ParseM Token := liftScan Scanner.peekToken

def skipToken : ParseM Unit := liftScan Scanner.skipToken

def failAt {α : Type} (problem : String) (mark : Mark) : ParseM α :=
  throw { problem, problemMark := mark }

/-- Fails with a problem at `mark` found while reading what began at `contextMark`. -/
def failIn {α : Type} (context : String) (contextMark : Mark) (problem : String) (mark : Mark) :
    ParseM α :=
  throw { problem, problemMark := mark, context := some context, contextMark }

def goTo (st : ParseState) : ParseM Unit := modify fun p => { p with state := st }

def pushState (st : ParseState) : ParseM Unit := modify fun p => { p with states := st :: p.states }

def popState : ParseM Unit :=
  modify fun p => match p.states with
    | st :: rest => { p with state := st, states := rest }
    | [] => { p with state := .finished }

def pushMark (m : Mark) : ParseM Unit := modify fun p => { p with marks := m :: p.marks }

def popMark : ParseM Mark :=
  modifyGet fun p => match p.marks with
    | m :: rest => (m, { p with marks := rest })
    | [] => ({}, p)

def emptyScalar (mark : Mark) : Event := ⟨.scalar none none "" .plain, mark⟩

def standardTags : List (String × String) := [("!", "!"), ("!!", "tag:yaml.org,2002:")]

/-- Reads the directives before a document, then adds the standard handles. -/
def directives : Nat → Bool → ParseM Unit
  | 0, _ => pure ()
  | fuel + 1, sawVersion => do
    let t ← peekToken
    match t.kind with
    | .versionDirective major minor =>
      if sawVersion then failAt "found duplicate %YAML directive" t.start
      if major != 1 || (minor != 1 && minor != 2) then
        failAt "found incompatible YAML document" t.start
      skipToken
      directives fuel true
    | .tagDirective handle pfx =>
      if (← get).tagDirectives.any (·.1 == handle) then
        failAt "found duplicate %TAG directive" t.start
      modify fun p => { p with tagDirectives := p.tagDirectives ++ [(handle, pfx)] }
      skipToken
      directives fuel sawVersion
    | _ =>
      modify fun p =>
        let missing := standardTags.filter fun (h, _) => !p.tagDirectives.any (·.1 == h)
        { p with tagDirectives := p.tagDirectives ++ missing }

/-- Moves past document end markers. -/
def skipDocumentEnds : Nat → ParseM Token
  | 0 => peekToken
  | fuel + 1 => do
    let t ← peekToken
    if t.kind == .documentEnd then
      skipToken
      skipDocumentEnds fuel
    else return t

/-- The start of a document, or the end of the stream. -/
def documentStart (implicit : Bool) : ParseM Event := do
  let t ← if implicit then peekToken else skipDocumentEnds (← liftScan Scan.budget)
  let opensExplicitly := match t.kind with
    | .versionDirective _ _ | .tagDirective _ _ | .documentStart | .streamEnd => true
    | _ => false
  if implicit && !opensExplicitly then
    directives (← liftScan Scan.budget) false
    pushState .documentEnd
    goTo .blockNode
    return ⟨.documentStart, t.start⟩
  else if t.kind != .streamEnd then
    directives (← liftScan Scan.budget) false
    let t' ← peekToken
    if t'.kind != .documentStart then failAt "did not find expected <document start>" t'.start
    pushState .documentEnd
    goTo .documentContent
    skipToken
    return ⟨.documentStart, t.start⟩
  else
    goTo .finished
    skipToken
    return ⟨.streamEnd, t.start⟩

/-- The end of a document, marked or not. -/
def documentEnd : ParseM Event := do
  let t ← peekToken
  if t.kind == .documentEnd then skipToken
  modify fun p => { p with tagDirectives := [], state := .documentStart }
  return ⟨.documentEnd, t.start⟩

/-- The full tag of a handle and suffix; an empty handle means the suffix is the tag. -/
def resolveTag (handle suffix : String) (start tagMark : Mark) : ParseM String := do
  if handle.isEmpty then return suffix
  match (← get).tagDirectives.find? (·.1 == handle) with
  | some (_, pfx) => return pfx ++ suffix
  | none => failIn "while parsing a node" start "found undefined tag handle" tagMark

/-- A node: an alias, a scalar, or the start of a collection, with its anchor and tag. -/
def node (block indentlessSequence : Bool) : ParseM Event := do
  let t ← peekToken
  if let .aliasOf name := t.kind then
    popState
    skipToken
    return ⟨.aliasOf name, t.start⟩
  let start := t.start
  -- the anchor and tag, in either order
  let (anchor, tagged, t) ← do
    match t.kind with
    | .anchor name =>
      skipToken
      let t ← peekToken
      match t.kind with
      | .tag h s =>
        skipToken
        pure (some name, some (h, s, t.start), ← peekToken)
      | _ => pure (some name, none, t)
    | .tag h s =>
      skipToken
      let t' ← peekToken
      match t'.kind with
      | .anchor name =>
        skipToken
        pure (some name, some (h, s, t.start), ← peekToken)
      | _ => pure (none, some (h, s, t.start), t')
    | _ => pure (none, none, t)
  let tag ← match tagged with
    | some (h, s, m) => some <$> resolveTag h s start m
    | none => pure none
  if indentlessSequence && t.kind == .blockEntry then
    goTo .indentlessSequenceEntry
    return ⟨.sequenceStart anchor tag, start⟩
  match t.kind with
  | .scalar text style =>
    popState
    skipToken
    return ⟨.scalar anchor tag text style, start⟩
  | .flowSequenceStart =>
    goTo .flowSequenceFirstEntry
    return ⟨.sequenceStart anchor tag, start⟩
  | .flowMappingStart =>
    goTo .flowMappingFirstKey
    return ⟨.mappingStart anchor tag, start⟩
  | .blockSequenceStart =>
    if block then
      goTo .blockSequenceFirstEntry
      return ⟨.sequenceStart anchor tag, start⟩
  | .blockMappingStart =>
    if block then
      goTo .blockMappingFirstKey
      return ⟨.mappingStart anchor tag, start⟩
  | _ => pure ()
  if anchor.isSome || tag.isSome then
    popState
    return ⟨.scalar anchor tag "" .plain, start⟩
  failIn (if block then "while parsing a block node" else "while parsing a flow node") start
    "did not find expected node content" t.start

/-- The content of a document that opened with `---`: a node, or an empty scalar when none
follows. -/
def documentContent : ParseM Event := do
  let t ← peekToken
  match t.kind with
  | .versionDirective _ _ | .tagDirective _ _ | .documentStart | .documentEnd | .streamEnd =>
    popState
    return emptyScalar t.start
  | _ => node true false

/-- Opens a collection on its first turn: remembers its start and moves past its start token. -/
def openCollection (first : Bool) : ParseM Unit := do
  if first then
    pushMark (← peekToken).start
    skipToken

/-- An entry of a block sequence, or its end. -/
def blockSequenceEntry (first : Bool) : ParseM Event := do
  openCollection first
  let t ← peekToken
  match t.kind with
  | .blockEntry =>
    skipToken
    let t' ← peekToken
    if t'.kind != .blockEntry && t'.kind != .blockEnd then
      pushState .blockSequenceEntry
      node true false
    else
      goTo .blockSequenceEntry
      return emptyScalar t.stop
  | .blockEnd =>
    popState
    let _ ← popMark
    skipToken
    return ⟨.sequenceEnd, t.start⟩
  | _ => failIn "while parsing a block collection" (← popMark) "did not find expected '-' indicator"
           t.start

/-- An entry of a sequence written without indentation inside a mapping, or its end. -/
def indentlessSequenceEntry : ParseM Event := do
  let t ← peekToken
  if t.kind == .blockEntry then
    skipToken
    let t' ← peekToken
    if t'.kind != .blockEntry && t'.kind != .key && t'.kind != .value && t'.kind != .blockEnd then
      pushState .indentlessSequenceEntry
      node true false
    else
      goTo .indentlessSequenceEntry
      return emptyScalar t.stop
  else
    popState
    return ⟨.sequenceEnd, t.start⟩

/-- A key of a block mapping, or its end. -/
def blockMappingKey (first : Bool) : ParseM Event := do
  openCollection first
  let t ← peekToken
  match t.kind with
  | .key =>
    skipToken
    let t' ← peekToken
    if t'.kind != .key && t'.kind != .value && t'.kind != .blockEnd then
      pushState .blockMappingValue
      node true true
    else
      goTo .blockMappingValue
      return emptyScalar t.stop
  | .blockEnd =>
    popState
    let _ ← popMark
    skipToken
    return ⟨.mappingEnd, t.start⟩
  | _ => failIn "while parsing a block mapping" (← popMark) "did not find expected key" t.start

/-- A value of a block mapping; an empty scalar when it is left out. -/
def blockMappingValue : ParseM Event := do
  let t ← peekToken
  if t.kind == .value then
    skipToken
    let t' ← peekToken
    if t'.kind != .key && t'.kind != .value && t'.kind != .blockEnd then
      pushState .blockMappingKey
      node true true
    else
      goTo .blockMappingKey
      return emptyScalar t.stop
  else
    goTo .blockMappingKey
    return emptyScalar t.start

/-- An entry of a flow sequence, or its end; entries are separated by commas. -/
def flowSequenceEntry (first : Bool) : ParseM Event := do
  openCollection first
  let t ← peekToken
  if t.kind != .flowSequenceEnd then
    let t ← do
      if first then pure t
      else if t.kind == .flowEntry then
        skipToken
        peekToken
      else
        failIn "while parsing a flow sequence" (← popMark) "did not find expected ',' or ']'" t.start
    if t.kind == .key then
      goTo .flowSequenceEntryMappingKey
      skipToken
      return ⟨.mappingStart none none, t.start⟩
    else if t.kind != .flowSequenceEnd then
      pushState .flowSequenceEntry
      return ← node false false
    popState
    let _ ← popMark
    skipToken
    return ⟨.sequenceEnd, t.start⟩
  popState
  let _ ← popMark
  skipToken
  return ⟨.sequenceEnd, t.start⟩

/-- The key of a one-pair mapping inside a flow sequence. -/
def flowSequenceEntryMappingKey : ParseM Event := do
  let t ← peekToken
  if t.kind != .value && t.kind != .flowEntry && t.kind != .flowSequenceEnd then
    pushState .flowSequenceEntryMappingValue
    node false false
  else
    goTo .flowSequenceEntryMappingValue
    return emptyScalar t.stop

/-- The value of a one-pair mapping inside a flow sequence. -/
def flowSequenceEntryMappingValue : ParseM Event := do
  let t ← peekToken
  if t.kind == .value then
    skipToken
    let t' ← peekToken
    if t'.kind != .flowEntry && t'.kind != .flowSequenceEnd then
      pushState .flowSequenceEntryMappingEnd
      return ← node false false
    goTo .flowSequenceEntryMappingEnd
    return emptyScalar t'.start
  goTo .flowSequenceEntryMappingEnd
  return emptyScalar t.start

def flowSequenceEntryMappingEnd : ParseM Event := do
  let t ← peekToken
  goTo .flowSequenceEntry
  return ⟨.mappingEnd, t.start⟩

/-- A key of a flow mapping, or its end; pairs are separated by commas. -/
def flowMappingKey (first : Bool) : ParseM Event := do
  openCollection first
  let t ← peekToken
  if t.kind != .flowMappingEnd then
    let t ← do
      if first then pure t
      else if t.kind == .flowEntry then
        skipToken
        peekToken
      else
        failIn "while parsing a flow mapping" (← popMark) "did not find expected ',' or '\x7d'" t.start
    if t.kind == .key then
      skipToken
      let t' ← peekToken
      if t'.kind != .value && t'.kind != .flowEntry && t'.kind != .flowMappingEnd then
        pushState .flowMappingValue
        return ← node false false
      goTo .flowMappingValue
      return emptyScalar t'.start
    else if t.kind != .flowMappingEnd then
      pushState .flowMappingEmptyValue
      return ← node false false
    popState
    let _ ← popMark
    skipToken
    return ⟨.mappingEnd, t.start⟩
  popState
  let _ ← popMark
  skipToken
  return ⟨.mappingEnd, t.start⟩

/-- A value of a flow mapping; an empty scalar when it is left out. -/
def flowMappingValue (empty : Bool) : ParseM Event := do
  let t ← peekToken
  if empty then
    goTo .flowMappingKey
    return emptyScalar t.start
  if t.kind == .value then
    skipToken
    let t' ← peekToken
    if t'.kind != .flowEntry && t'.kind != .flowMappingEnd then
      pushState .flowMappingKey
      return ← node false false
    goTo .flowMappingKey
    return emptyScalar t'.start
  goTo .flowMappingKey
  return emptyScalar t.start

/-- The start of the stream. -/
def streamStart : ParseM Event := do
  let t ← peekToken
  if t.kind != .streamStart then failAt "did not find expected <stream-start>" t.start
  goTo .implicitDocumentStart
  skipToken
  return ⟨.streamStart, t.start⟩

end Parse

/-- The next event; after the end of the stream, the end again. -/
def Parser.next : ParseM Event := do
  match (← get).state with
  | .streamStart => Parse.streamStart
  | .implicitDocumentStart => Parse.documentStart true
  | .documentStart => Parse.documentStart false
  | .documentContent => Parse.documentContent
  | .documentEnd => Parse.documentEnd
  | .blockNode => Parse.node true false
  | .blockNodeOrIndentlessSequence => Parse.node true true
  | .flowNode => Parse.node false false
  | .blockSequenceFirstEntry => Parse.blockSequenceEntry true
  | .blockSequenceEntry => Parse.blockSequenceEntry false
  | .indentlessSequenceEntry => Parse.indentlessSequenceEntry
  | .blockMappingFirstKey => Parse.blockMappingKey true
  | .blockMappingKey => Parse.blockMappingKey false
  | .blockMappingValue => Parse.blockMappingValue
  | .flowSequenceFirstEntry => Parse.flowSequenceEntry true
  | .flowSequenceEntry => Parse.flowSequenceEntry false
  | .flowSequenceEntryMappingKey => Parse.flowSequenceEntryMappingKey
  | .flowSequenceEntryMappingValue => Parse.flowSequenceEntryMappingValue
  | .flowSequenceEntryMappingEnd => Parse.flowSequenceEntryMappingEnd
  | .flowMappingFirstKey => Parse.flowMappingKey true
  | .flowMappingKey => Parse.flowMappingKey false
  | .flowMappingValue => Parse.flowMappingValue false
  | .flowMappingEmptyValue => Parse.flowMappingValue true
  | .finished => return ⟨.streamEnd, (← get).scanner.mark⟩

end EntitySchema.Yaml
