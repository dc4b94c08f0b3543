import EntitySchema.Json.Scan

/-!
# Reading JSON values and records

The syntactic layer over `Scan`: any value (`readValue`), a value skipped unread (`skipValue`),
and the shapes a document is read into: an optional value, a string, a sequence of like items
and a record of named members.

A few rules shape the faults:

- at most 127 arrays, objects or records are open at once; opening one more is
  `recursionLimitExceeded`;
- a record can be written as an object or as an array of its members in order; a member given
  twice is `duplicateField`, too short an array `invalidLength`, and members of unknown names are
  skipped;
- a value of the wrong kind is read to its end and reported as `invalidType`, at the offset
  after it;
- a skipped value is only checked for its form: a comma before a closing bracket is then an
  `expectedValue` fault rather than `trailingComma`, and numbers are not evaluated.
-/

namespace EntitySchema.Json

open Scan

/-- What a JSON value stands for when it is not of the kind expected. -/
def Value.unexpected : Value → Unexpected
  | .null => .null
  | .bool b => .bool b
  | .number n => n.unexpected
  | .string s => .string s
  | .array _ => .sequence
  | .object _ => .map

/-- Containers open at once beyond which reading stops. -/
def depthLimit : Nat := 128

/-- The fault of a value of the wrong kind: the value is read to its end first. -/
def refuseValue (expected : String) : Scan α := do
  match ← peek with
  | some 0x6E => do eat; expectWord nullTail; raise (.invalidType .null expected)
  | some 0x74 => do eat; expectWord trueTail; raise (.invalidType (.bool true) expected)
  | some 0x66 => do eat; expectWord falseTail; raise (.invalidType (.bool false) expected)
  | some 0x2D => do
    eat
    let n ← readNumber false
    raise (.invalidType n.unexpected expected)
  | some 0x22 => do
    eat
    let s ← readString
    raise (.invalidType (.string s) expected)
  | some 0x5B => raise (.invalidType .sequence expected)
  | some 0x7B => raise (.invalidType .map expected)
  | some c =>
    if isDigitByte c then do
      let n ← readNumber true
      raise (.invalidType n.unexpected expected)
    else failAhead .expectedValue
  | none => failAhead .expectedValue

/-- The end of an array: its closing bracket, or the fault of what stands there. -/
def closeArray : Scan Unit := do
  match ← peekPastBlanks with
  | some 0x5D => eat
  | some 0x2C => do
    eat
    match ← peekPastBlanks with
    | some 0x5D => failAhead .trailingComma
    | _ => failAhead .trailingCharacters
  | some _ => failAhead .trailingCharacters
  | none => failAhead .eofWhileParsingList

/-- The end of an object: its closing brace, or the fault of what stands there. -/
def closeObject : Scan Unit := do
  match ← peekPastBlanks with
  | some 0x7D => eat
  | some 0x2C => failAhead .trailingComma
  | some _ => failAhead .trailingCharacters
  | none => failAhead .eofWhileParsingObject

/-- Runs the body of a container and then its closing; a fault of the body wins over one of
the closing, and either is placed where the closing stopped. -/
def withClosing (body : Scan α) (closing : Scan Unit) : Scan α := do
  let r ← attempt body
  let e ← attempt closing
  match r, e with
  | .ok a, .ok () => pure a
  | .error err, _ => rethrow err
  | _, .error err => rethrow err

/-- Fails with `recursionLimitExceeded` when `opened` containers leave no room for one more. -/
def checkDepth (opened : Nat) : Scan Unit :=
  if opened + 1 ≥ depthLimit then failAhead .recursionLimitExceeded else pure ()

/-- Before the next item of a sequence: `none` at its closing bracket, else the first byte of
the item, a separating comma consumed. -/
def itemStart (first : Bool) : Scan (Option UInt8) := do
  match ← peekPastBlanks with
  | some 0x5D => pure none
  | some 0x2C =>
    if first then pure (some 0x2C)
    else do
      eat
      match ← peekPastBlanks with
      | some 0x5D => failAhead .trailingComma
      | some c => pure (some c)
      | none => failAhead .eofWhileParsingValue
  | some c => if first then pure (some c) else failAhead .expectedListCommaOrEnd
  | none => failAhead .eofWhileParsingList

/-- Before the next member of an object: `none` at its closing brace, else its key, read with
the separating comma before it. -/
def memberKey (first : Bool) : Scan (Option String) := do
  let start ← do
    match ← peekPastBlanks with
    | some 0x7D => pure none
    | some 0x2C =>
      if first then pure (some (some 0x2C))
      else do
        eat
        pure (some (← peekPastBlanks))
    | some c => if first then pure (some (some c)) else failAhead .expectedObjectCommaOrEnd
    | none => failAhead .eofWhileParsingObject
  match start with
  | none => pure none
  | some (some 0x22) => do eat; pure (some (← readString))
  | some (some 0x7D) => failAhead .trailingComma
  | some (some _) => failAhead .keyMustBeAString
  | some none => failAhead .eofWhileParsingValue

/-- The colon between a key and its value. -/
def memberColon : Scan Unit := do
  match ← peekPastBlanks with
  | some 0x3A => eat
  | some _ => failAhead .expectedColon
  | none => failAhead .eofWhileParsingObject

mutual

/-- Any value, with `opened` containers around it and at most `fuel` nested steps. -/
def readValue (opened : Nat) : Nat → Scan Value
  | 0 => failHere .eofWhileParsingValue
  | fuel + 1 => placed do
    match ← peekPastBlanks with
    | none => failAhead .eofWhileParsingValue
    | some 0x6E => do eat; expectWord nullTail; pure .null
    | some 0x74 => do eat; expectWord trueTail; pure (.bool true)
    | some 0x66 => do eat; expectWord falseTail; pure (.bool false)
    | some 0x2D => do eat; pure (.number (← readNumber false))
    | some 0x22 => do eat; pure (.string (← readString))
    | some 0x5B => do
      checkDepth opened
      eat
      withClosing (do pure (.array (← readItems (opened + 1) true [] fuel))) closeArray
    | some 0x7B => do
      checkDepth opened
      eat
      withClosing (do pure (.object (← readMembers (opened + 1) true [] fuel))) closeObject
    | some c =>
      if isDigitByte c then do pure (.number (← readNumber true))
      else failAhead .expectedValue

/-- The items of an array up to its closing bracket, which is left unread. -/
def readItems (opened : Nat) (first : Bool) (acc : List Value) : Nat → Scan (List Value)
  | 0 => failHere .eofWhileParsingList
  | fuel + 1 => do
    match ← itemStart first with
    | none => pure acc.reverse
    | some _ => do
      let v ← readValue opened fuel
      readItems opened false (v :: acc) fuel

/-- The members of an object up to its closing brace, which is left unread; a later member
replaces an earlier one of the same key. -/
def readMembers (opened : Nat) (first : Bool) (acc : List (String × Value)) :
    Nat → Scan (List (String × Value))
  | 0 => failHere .eofWhileParsingObject
  | fuel + 1 => do
    match ← memberKey first with
    | none => pure acc
    | some key => do
      memberColon
      let v ← readValue opened fuel
      readMembers opened false (Value.insertMember key v acc) fuel

end

/-- A step of skipping: read a value, or go on after one within the open containers. -/
inductive SkipStep where
  | value
  | after (acceptComma : Bool)

/-- Skips values checking only their form; `stack` holds the open containers, innermost first,
`true` for an object. -/
def skipLoop (stack : List Bool) (step : SkipStep) : Nat → Scan Unit
  | 0 => failHere .eofWhileParsingValue
  | fuel + 1 =>
    match step with
    | .value => do
      let scalar (x : Scan Unit) : Scan Unit := do
        x
        if stack.isEmpty then pure () else skipLoop stack (.after true) fuel
      match ← peekPastBlanks with
      | none => failAhead .eofWhileParsingValue
      | some 0x5B => do eat; skipLoop (false :: stack) (.after false) fuel
      | some 0x7B => do eat; skipLoop (true :: stack) (.after false) fuel
      | some 0x6E => scalar do eat; expectWord nullTail
      | some 0x74 => scalar do eat; expectWord trueTail
      | some 0x66 => scalar do eat; expectWord falseTail
      | some 0x2D => scalar do eat; skipNumber
      | some 0x22 => scalar do eat; skipString (← remaining)
      | some c =>
        if isDigitByte c then scalar skipNumber else failAhead .expectedValue
    | .after acceptComma =>
      match stack with
      | [] => pure ()
      | isObject :: rest => do
        let element : Scan Unit := do
          if isObject then
            match ← peekPastBlanks with
            | some 0x22 => eat
            | some _ => failAhead .keyMustBeAString
            | none => failAhead .eofWhileParsingObject
            skipString (← remaining)
            memberColon
          skipLoop stack .value fuel
        let close : Scan Unit := do
          eat
          if rest.isEmpty then pure () else skipLoop rest (.after true) fuel
        match ← peekPastBlanks with
        | some 0x2C => if acceptComma then do eat; element else element
        | some 0x5D =>
          if !isObject then close
          else if acceptComma then failAhead .expectedObjectCommaOrEnd
          else element
        | some 0x7D =>
          if isObject then close
          else if acceptComma then failAhead .expectedListCommaOrEnd
          else element
        | some _ =>
          if acceptComma then
            failAhead (if isObject then .expectedObjectCommaOrEnd else .expectedListCommaOrEnd)
          else element
        | none => failAhead (if isObject then .eofWhileParsingObject else .eofWhileParsingList)

def skipValue : Scan Unit := do
  skipLoop [] .value (2 * (← remaining) + 2)

def readAnyValue (opened : Nat) : Scan Value := do
  readValue opened (2 * (← remaining) + 2)

/-- An optional value: `null` is none, anything else is read by `inner`. -/
def readOptional (inner : Scan α) : Scan (Option α) := do
  match ← peekPastBlanks with
  | some 0x6E => do eat; expectWord nullTail; pure none
  | _ => some <$> inner

/-- A string, where anything else is refused as not being one. -/
def readText : Scan String := placed do
  match ← peekPastBlanks with
  | none => failAhead .eofWhileParsingValue
  | some 0x22 => do eat; readString
  | some _ => refuseValue "a string"

/-- The items of a sequence read by `item`, up to its closing bracket. -/
def readItemsWith (item : Scan α) (first : Bool) (acc : List α) : Nat → Scan (List α)
  | 0 => failHere .eofWhileParsingList
  | fuel + 1 => do
    match ← itemStart first with
    | none => pure acc.reverse
    | some _ => do
      let v ← item
      readItemsWith item false (v :: acc) fuel

/-- A sequence of items read by `item`, which is given the count of open containers. -/
def readSequence (opened : Nat) (item : Nat → Scan α) : Scan (List α) := placed do
  match ← peekPastBlanks with
  | none => failAhead .eofWhileParsingValue
  | some 0x5B => do
    checkDepth opened
    eat
    withClosing (do readItemsWith (item (opened + 1)) true [] (← remaining)) closeArray
  | some _ => refuseValue "a sequence"

/-- The members of a record: its name, its member names in order, and the keys that name each
member (aliases included). -/
structure RecordShape where
  name : String
  members : List String
  memberOf : String → Option Nat

/-- The positional form of a record: member `i` onwards, in order. -/
def recordItems (shape : RecordShape) (opened : Nat) (fill : Nat → Nat → β → Scan β)
    (i : Nat) (acc : β) : Nat → Scan β
  | 0 => pure acc
  | left + 1 => do
    match ← itemStart (i == 0) with
    | none =>
      let count := shape.members.length
      raise (.invalidLength i ("struct " ++ shape.name ++ s!" with {count} elements"))
    | some _ => do
      let acc ← fill i opened acc
      recordItems shape opened fill (i + 1) acc left

/-- The object form of a record: members by key, each at most once, unknown keys skipped. -/
def recordMembers (shape : RecordShape) (opened : Nat) (fill : Nat → Nat → β → Scan β)
    (first : Bool) (seen : List Nat) (acc : β) : Nat → Scan β
  | 0 => failHere .eofWhileParsingObject
  | fuel + 1 => do
    match ← memberKey first with
    | none => pure acc
    | some key =>
      match shape.memberOf key with
      | some i =>
        if seen.contains i then raise (.duplicateField ((shape.members[i]?).getD key))
        else do
          memberColon
          let acc ← fill i opened acc
          recordMembers shape opened fill false (i :: seen) acc fuel
      | none => do
        memberColon
        skipValue
        recordMembers shape opened fill false seen acc fuel

/-- A record of the given shape, as an object or as an array; `fill i opened acc` reads member
`i` into the accumulator. -/
def readRecord (shape : RecordShape) (opened : Nat) (init : β)
    (fill : Nat → Nat → β → Scan β) : Scan β := placed do
  match ← peekPastBlanks with
  | none => failAhead .eofWhileParsingValue
  | some 0x5B => do
    checkDepth opened
    eat
    withClosing (recordItems shape (opened + 1) fill 0 init shape.members.length) closeArray
  | some 0x7B => do
    checkDepth opened
    eat
    withClosing (do recordMembers shape (opened + 1) fill true [] init (← remaining)) closeObject
  | some _ => refuseValue ("struct " ++ shape.name)

/-- Runs a reading over a whole text: after it only blanks may follow. -/
def readAll (x : Scan α) (bytes : ByteArray) : Except Fault α :=
  let whole : Scan α := do
    let a ← x
    match ← peekPastBlanks with
    | some _ => failAhead .trailingCharacters
    | none => pure a
  match whole bytes 0 with
  | .done a _ => .ok a
  | .failed e _ => .error e

/-- Reads a whole text as one JSON value. -/
def Value.parse (text : String) : Except String Value :=
  let bytes := text.toUTF8
  match readAll (readAnyValue 0) bytes with
  | .ok v => .ok v
  | .error e => .error (e.message bytes)

end EntitySchema.Json
