import EntitySchema.Yaml.Document
import EntitySchema.Yaml.Scalar
import EntitySchema.Json.Fault

/-!
# Reading typed values from a YAML document

A reader walks the events of a loaded document and builds values of fixed shapes: strings,
booleans, optional values, sequences and records with named fields. An alias is read as the
node its anchor stands on.

A node of the wrong kind is an error that says what was found and what was expected, and
where: the path of the node from the root (`outputs.cpp`, `schemas[0]`) and the position of
the node. The innermost reader that fails sets both; a record reader sets its own for errors
about the record as a whole, such as a field given twice. A position at the very start of the
text is left out, and so is the path of the root.

Reading past the events the document holds gives the syntax error that ended loading.
-/

namespace EntitySchema.Yaml

/-- Where a node lies in the document. -/
inductive NodePath where
  | root
  | item (parent : NodePath) (index : Nat)
  | field (parent : NodePath) (key : String)
  | viaAlias (parent : NodePath)
  /-- The value of a key that is not a scalar. -/
  | unknownKey (parent : NodePath)

/-- The text of a path: `.` for the root, `a.b` for fields, `a[0]` for items. -/
def NodePath.text : NodePath → String
  | .root => "."
  | .item p i => p.text ++ "[" ++ toString i ++ "]"
  | .field p key => (match p with | .root => "" | q => q.text ++ ".") ++ key
  | .viaAlias p => p.text
  | .unknownKey p => (match p with | .root => "" | q => q.text ++ ".") ++ "?"

/-- Why reading a value failed. -/
inductive DecodeError where
  | parse (e : SyntaxError)
  | unknownAnchor (mark : Mark)
  | endOfStream
  | moreThanOneDocument
  /-- A message, with the position and path of the node once known. -/
  | custom (text : String) (place : Option (Mark × NodePath))

/-- The text of a decoding error. -/
def DecodeError.message : DecodeError → String
  | .parse e => e.message
  | .unknownAnchor mark => "unknown anchor" ++ (if mark.isStart then "" else " at " ++ mark.text)
  | .endOfStream => "EOF while parsing a value"
  | .moreThanOneDocument => "deserializing from YAML containing more than one document is not supported"
  | .custom text none => text
  | .custom text (some (mark, path)) =>
    let shownPath := path.text
    (if shownPath == "." then "" else shownPath ++ ": ") ++ text ++
      (if mark.isStart then "" else " at " ++ mark.text)

/-- A node found where another kind was expected. -/
inductive Found where
  | unit
  | bool (b : Bool)
  | integer (n : Int)
  | wideUnsigned (n : Nat)
  | wideSigned (n : Int)
  | float (x : Float)
  | string (s : String)
  | sequence
  | map

/-- How a found node is described in an error. -/
def Found.describe : Found → String
  | .unit => "unit value"
  | .bool b => "boolean `" ++ toString b ++ "`"
  | .integer n => "integer `" ++ toString n ++ "`"
  | .wideUnsigned n => "integer `" ++ toString n ++ "` as u128"
  | .wideSigned n => "integer `" ++ toString n ++ "` as i128"
  | .float x => "floating point `" ++ Json.pointedFloat x ++ "`"
  | .string s => "string " ++ Text.debugQuote s
  | .sequence => "sequence"
  | .map => "map"

/-- The core schema's tags for booleans, integers, floats and null. -/
def coreTag (name : String) : String := "tag:yaml.org,2002:" ++ name

/-- What a scalar meaning `p` is taken for; `v` is its text. -/
def Found.ofValue (v : String) : PlainValue → Found
  | .null => .unit
  | .bool b => .bool b
  | .unsigned n => .integer n
  | .signed n => .integer n
  | .wideUnsigned n => .wideUnsigned n
  | .wideSigned n => .wideSigned n
  | .float x => .float x
  | .string => .string v

/-- What a plain scalar is taken for. -/
def Found.ofPlain (v : String) : Found := Found.ofValue v (PlainValue.of v)

/-- The error for a scalar whose text does not spell what its tag says; `wanted` names what the
tag asks for. -/
def invalidValue (text wanted : String) : DecodeError :=
  .custom ("invalid value: " ++ Found.describe (.string text) ++ ", expected " ++ wanted) none

/-- What a scalar is read as. A core tag decides: `!!bool`, `!!int`, `!!float` and `!!null` take
the text for what they name, whatever the scalar's style, and refuse a text that does not spell
one. A plain scalar, untagged or under a local tag, is read by the core schema; any other scalar
is a string. -/
def Found.ofScalar (tag : Option String) (text : String) (style : ScalarStyle) :
    Except DecodeError Found :=
  match tag with
  | some t =>
    if t == coreTag "bool" then
      match boolWord? text with
      | some b => pure (.bool b)
      | none => throw (invalidValue text "a boolean")
    else if t == coreTag "int" then
      match PlainValue.integer? text with
      | some p => pure (Found.ofValue text p)
      | none => throw (invalidValue text "an integer")
    else if t == coreTag "float" then
      match floatWord? text with
      | some x => pure (.float x)
      | none => throw (invalidValue text "a float")
    else if t == coreTag "null" then
      if isNullWord text then pure .unit else throw (invalidValue text "null")
    else if t.startsWith "!" && style == .plain then pure (Found.ofPlain text)
    else pure (.string text)
  | none => pure (if style == .plain then Found.ofPlain text else .string text)

/-- The error for a value read as `f` where `expected` was wanted. -/
def invalidType (f : Found) (expected : String) : DecodeError :=
  .custom ("invalid type: " ++ f.describe ++ ", expected " ++ expected) none

/-- The error for a scalar where `expected` was wanted: what the scalar is read as, or why it
cannot be read. -/
def scalarMismatch (tag : Option String) (text : String) (style : ScalarStyle)
    (expected : String) : DecodeError :=
  match Found.ofScalar tag text style with
  | .ok f => invalidType f expected
  | .error e => e

/-- The error for an event where `expected` was wanted. -/
def mismatch (item : Item) (expected : String) : DecodeError :=
  match item with
  | .scalar tag text style => scalarMismatch tag text style expected
  | .sequenceStart => .custom ("invalid type: sequence, expected " ++ expected) none
  | .mappingStart => .custom ("invalid type: map, expected " ++ expected) none
  | _ => .endOfStream

/-- The error with the node's position and path, unless a reader further in set them. -/
def DecodeError.place (mark : Mark) (path : NodePath) : DecodeError → DecodeError
  | .custom text none => .custom text (some (mark, path))
  | e => e

abbrev DecodeM := ReaderT Document (StateT Nat (Except DecodeError))

namespace Decode

def peek? : DecodeM (Option (Item × Mark)) := do
  return (← read).items[← get]?

/-- The error for reading past the document's events. -/
def pastEnd : DecodeM DecodeError := do
  return match (← read).problem with
    | some (.parse e) => .parse e
    | some (.unknownAnchor mark) => .unknownAnchor mark
    | none => .endOfStream

def peek : DecodeM (Item × Mark) := do
  match ← peek? with
  | some im => return im
  | none => throw (← pastEnd)

def next : DecodeM (Item × Mark) := do
  let im ← peek
  modify (· + 1)
  return im

def placed {α : Type} (mark : Mark) (path : NodePath) (x : DecodeM α) : DecodeM α :=
  tryCatch x fun e => throw (e.place mark path)

/-- Reads the node an alias points at, then goes on after the alias. -/
def viaAlias {α : Type} (target : Nat) (x : DecodeM α) : DecodeM α := do
  let resume ← get
  set target
  let a ← x
  set resume
  return a

/-- Enough rounds for any loop over the document's events. -/
def budget : DecodeM Nat := return (← read).items.size + 2

/-- A scalar as text; `expected` says what was wanted. -/
def str (expected : String) : Nat → NodePath → DecodeM String
  | 0, _ => throw .endOfStream
  | fuel + 1, path => do
    let (item, mark) ← next
    placed mark path do
      match item with
      | .aliasOf target => viaAlias target (str expected fuel (.viaAlias path))
      | .scalar _ text _ => return text
      | other => throw (mismatch other expected)

/-- A boolean: `true` or `false` (in three cases) as a plain scalar, whatever its tag, or as a
literal block tagged `!!bool`. Any other scalar is an error that says what it is read as. -/
def bool : Nat → NodePath → DecodeM Bool
  | 0, _ => throw .endOfStream
  | fuel + 1, path => do
    let (item, mark) ← next
    placed mark path do
      match item with
      | .aliasOf target => viaAlias target (bool fuel (.viaAlias path))
      | .scalar tag text style =>
        let readable := style == .plain || (style == .literal && tag == some (coreTag "bool"))
        match (if readable then boolWord? text else none) with
        | some b => return b
        | none => throw (mismatch item "a boolean")
      | other => throw (mismatch other "a boolean")

/-- An optional value: absent for a plain null scalar, else read by `x`. A plain scalar tagged
`!!null` must spell null; the error for one that does not is placed by the record around it. -/
def option {α : Type} (x : NodePath → DecodeM α) : Nat → NodePath → DecodeM (Option α)
  | 0, _ => throw .endOfStream
  | fuel + 1, path => do
    let (item, _) ← peek
    match item with
    | .aliasOf target =>
      modify (· + 1)
      viaAlias target (option x fuel (.viaAlias path))
    | .scalar tag text style =>
      if style != .plain then some <$> x path
      else match tag with
        | some t =>
          if t != coreTag "null" then some <$> x path
          else if isNullWord text then
            modify (· + 1)
            return none
          else throw (invalidValue text "null")
        | none =>
          if text.isEmpty || isNullWord text then
            modify (· + 1)
            return none
          else some <$> x path
    | .void =>
      modify (· + 1)
      return none
    | _ => some <$> x path

/-- Takes the events of one node, whatever it holds. -/
def skipNode : Nat → Nat → DecodeM Unit
  | 0, _ => pure ()
  | fuel + 1, depth => do
    let (item, _) ← next
    let depth := match item with
      | .sequenceStart | .mappingStart => depth + 1
      | .sequenceEnd | .mappingEnd => depth - 1
      | _ => depth
    if depth > 0 then skipNode fuel depth

/-- Whether an event ends a collection, or is the document of a text without one. -/
def endsCollection : Item → Bool
  | .sequenceEnd | .mappingEnd | .void => true
  | _ => false

/-- Whether an event is an empty plain scalar, which reads as an empty collection. -/
def isEmptyPlain : Item → Bool
  | .scalar _ text .plain => text.isEmpty
  | .void => true
  | _ => false

/-- The items of a sequence, from `index` on. -/
def items {α : Type} (x : NodePath → DecodeM α) (path : NodePath) :
    Nat → Nat → List α → DecodeM (List α)
  | 0, _, acc => return acc.reverse
  | fuel + 1, index, acc => do
    let (item, _) ← peek
    if endsCollection item then
      modify (· + 1)
      return acc.reverse
    let a ← x (.item path index)
    items x path fuel (index + 1) (a :: acc)

/-- A sequence of values read by `x`; an empty plain scalar is an empty sequence. -/
def sequence {α : Type} (x : NodePath → DecodeM α) : Nat → NodePath → DecodeM (List α)
  | 0, _ => throw .endOfStream
  | fuel + 1, path => do
    let (item, mark) ← next
    placed mark path do
      match item with
      | .aliasOf target => viaAlias target (sequence x fuel (.viaAlias path))
      | .sequenceStart => items x path (← budget) 0 []
      | other => if isEmptyPlain other then return [] else throw (mismatch other "a sequence")

/-- The key of a record's field: a scalar's text; a key of any other kind is an error. -/
def key (path : NodePath) : DecodeM (String × NodePath) := do
  let (item, _) ← peek
  match item with
  | .scalar _ text _ =>
    modify (· + 1)
    return (text, .field path text)
  | _ => return (← str "field identifier" (← budget) path, .unknownKey path)

/-- The fields of a record. `step` reads the value of a field into the record; a field named in
`known` may be given once. -/
def fields {σ : Type} (known : List String) (step : σ → String → NodePath → DecodeM σ)
    (path : NodePath) : Nat → List String → σ → DecodeM σ
  | 0, _, acc => return acc
  | fuel + 1, seen, acc => do
    let (item, _) ← peek
    if endsCollection item then
      modify (· + 1)
      return acc
    let (name, valuePath) ← key path
    if known.contains name && seen.contains name then
      throw (.custom ("duplicate field `" ++ name ++ "`") none)
    let acc ← step acc name valuePath
    fields known step path fuel (name :: seen) acc

/-- A record with the named fields, starting from `init`; an empty plain scalar is a record
with no field given. Fields not named in `known` are passed to `step` too. -/
def record {σ : Type} (expected : String) (known : List String)
    (step : σ → String → NodePath → DecodeM σ) (init : σ) : Nat → NodePath → DecodeM σ
  | 0, _ => throw .endOfStream
  | fuel + 1, path => do
    let (item, mark) ← next
    placed mark path do
      match item with
      | .aliasOf target => viaAlias target (record expected known step init fuel (.viaAlias path))
      | .mappingStart => fields known step path (← budget) [] init
      | other => if isEmptyPlain other then return init else throw (mismatch other expected)

def skipValue : DecodeM Unit := do skipNode (← budget) 0

end Decode

/-- Reads a value from the first document of a text. The syntax error that ended loading, and
a second document, are errors even when the value was read. -/
def decodeText {α : Type} (text : String) (x : DecodeM α) : Except DecodeError α := do
  let (doc, rest) := loadFirst text
  let (a, _) ← (x.run doc).run 0
  match doc.problem with
  | some (.parse e) => throw (.parse e)
  | some (.unknownAnchor mark) => throw (.unknownAnchor mark)
  | none => pure ()
  if hasAnotherDocument text rest then throw .moreThanOneDocument
  return a

end EntitySchema.Yaml
