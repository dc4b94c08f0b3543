import EntitySchema.Yaml.Parser

/-!
# Loading a YAML document

Loading reads the events of one document and keeps what a reader of values needs: scalars,
the starts and ends of collections, and aliases, each alias pointing at the event its anchor
stands on. An alias whose anchor was not seen before it is an error. A text with no document
at all loads as one empty document.

Loading stops at the first syntax error; the events before it are kept, so a reader meets the
error only when it reads past them. Characters a YAML text may not hold are refused before
anything is read.
-/

namespace EntitySchema.Yaml

/-- An event of a loaded document. -/
inductive Item where
  /-- An alias, by the position of the event its anchor stands on. -/
  | aliasOf (target : Nat)
  | scalar (tag : Option String) (text : String) (style : ScalarStyle)
  | sequenceStart
  | sequenceEnd
  | mappingStart
  | mappingEnd
  /-- The document of a text without any. -/
  | void
  deriving Repr, BEq

/-- Why loading stopped. -/
inductive LoadProblem where
  | parse (e : SyntaxError)
  | unknownAnchor (mark : Mark)
  deriving Repr

/-- The events of a document, each with where it starts, and the problem that ended loading
early, if one did. -/
structure Document where
  items : Array (Item × Mark) := #[]
  problem : Option LoadProblem := none

/-- The first character a YAML text may not hold, with its byte offset. -/
def firstDisallowed (text : String) : Option (Char × Nat) :=
  let rec go : List Char → Nat → Option (Char × Nat)
    | [], _ => none
    | c :: rest, offset => if isAllowedInText c then go rest (offset + c.utf8Size) else some (c, offset)
  go text.toList 0

/-- The anchors seen so far, with one more if `anchor` names one at position `at`. -/
def noteAnchor (anchors : List (String × Nat)) (anchor : Option String) (pos : Nat) :
    List (String × Nat) :=
  match anchor with
  | some name => (name, pos) :: anchors
  | none => anchors

/-- Reads the events of the next document. `first` says it is the text's first; the end of
the stream then gives an empty document when there was none. Gives the document, if there is
one, and the parser to go on with, if the stream goes on. -/
def collect (first : Bool) : Nat → List (String × Nat) → Array (Item × Mark) → Parser →
    Option Document × Option Parser
  | 0, _, items, _ => (some { items }, none)
  | fuel + 1, anchors, items, p =>
    match Parser.next.run p with
    | .error e => (some { items, problem := some (.parse e) }, none)
    | .ok (ev, p) =>
      let push (item : Item) (anchors : List (String × Nat)) :=
        collect first fuel anchors (items.push (item, ev.start)) p
      match ev.kind with
      | .streamStart | .documentStart => collect first fuel anchors items p
      | .streamEnd =>
        if first then
          (some { items := if items.isEmpty then #[(.void, ev.start)] else items }, none)
        else (none, none)
      | .documentEnd => (some { items }, some p)
      | .aliasOf name =>
        match anchors.lookup name with
        | some target => push (.aliasOf target) anchors
        | none => (some { items, problem := some (.unknownAnchor ev.start) }, none)
      | .scalar anchor tag text style =>
        push (.scalar tag text style) (noteAnchor anchors anchor items.size)
      | .sequenceStart anchor _ => push .sequenceStart (noteAnchor anchors anchor items.size)
      | .sequenceEnd => push .sequenceEnd anchors
      | .mappingStart anchor _ => push .mappingStart (noteAnchor anchors anchor items.size)
      | .mappingEnd => push .mappingEnd anchors

/-- Enough rounds to read every event of a text. -/
def eventBudget (text : String) : Nat := 8 * (text.length + 8)

/-- The first document of a text, and the parser to read further documents with. -/
def loadFirst (text : String) : Document × Option Parser :=
  match firstDisallowed text with
  | some (_, offset) =>
    ({ problem := some (.parse { problem := "control characters are not allowed", offset }) },
     none)
  | none =>
    let (doc, rest) := collect true (eventBudget text) [] #[] (Parser.ofText text)
    (doc.getD {}, rest)

/-- Whether the stream holds another document after the first, or fails to end. -/
def hasAnotherDocument (text : String) : Option Parser → Bool
  | none => false
  | some p => (collect false (eventBudget text) [] #[] p).1.isSome

end EntitySchema.Yaml
