import EntitySchema.Json.Value
import EntitySchema.Json.Fault
import EntitySchema.Decimal.Binary64

/-!
# Scanning the bytes of a JSON text

`Scan α` reads from a byte offset of a text. It ends with a result and the offset after it, or
with a fault and the offset where reading stopped; keeping that offset lets a fault raised
without one (a value of the wrong kind) be placed where the reader stood when it passed.

This module holds the lexical layer: blanks, literal words, numbers and strings. A fault is
reported either at the reader's offset (`failHere`) or one byte further, never past the end
(`failAhead`), as each rule below says.
-/

namespace EntitySchema.Json

/-- How a scan ended. -/
inductive Outcome (α : Type) where
  | done (value : α) (next : Nat)
  | failed (fault : Fault) (stop : Nat)

def Scan (α : Type) : Type := ByteArray → Nat → Outcome α

instance : Monad Scan where
  pure a := fun _ i => .done a i
  bind x f := fun b i =>
    match x b i with
    | .done a j => f a b j
    | .failed e j => .failed e j

namespace Scan

def offset : Scan Nat := fun _ i => .done i i

def remaining : Scan Nat := fun b i => .done (b.size - i) i

def peek : Scan (Option UInt8) := fun b i => .done b[i]? i

def eat : Scan Unit := fun _ i => .done () (i + 1)

def toEnd : Scan Unit := fun b _ => .done () b.size

def next : Scan (Option UInt8) := fun b i =>
  match b[i]? with
  | some c => .done (some c) (i + 1)
  | none => .done none i

def failHere (p : Problem) : Scan α := fun _ i => .failed ⟨p, some i⟩ i

/-- A fault reported one byte past the current offset, or at the end of the text. -/
def failAhead (p : Problem) : Scan α := fun b i => .failed ⟨p, some (min b.size (i + 1))⟩ i

def raise (p : Problem) : Scan α := fun _ i => .failed ⟨p, none⟩ i

/-- Runs `x`; a fault of it that has no offset yet gets the one where `x` stopped. -/
def placed (x : Scan α) : Scan α := fun b i =>
  match x b i with
  | .done a j => .done a j
  | .failed e j => .failed { e with offset := e.offset.getD j } j

/-- Runs `x` and keeps its fault as a value, going on from where it stopped. -/
def attempt (x : Scan α) : Scan (Except Fault α) := fun b i =>
  match x b i with
  | .done a j => .done (.ok a) j
  | .failed e j => .done (.error e) j

def rethrow (e : Fault) : Scan α := fun _ i => .failed e i

end Scan

open Scan

/-- The blanks of JSON: space, line feed, tab and carriage return. -/
def isJsonBlank (c : UInt8) : Bool := c == 0x20 || c == 0x0A || c == 0x09 || c == 0x0D

def isDigitByte (c : UInt8) : Bool := 0x30 ≤ c && c ≤ 0x39

/-- Steps over blanks for at most `fuel` bytes. -/
def skipBlanks : Nat → Scan Unit
  | 0 => pure ()
  | fuel + 1 => do
    match ← peek with
    | some c => if isJsonBlank c then do eat; skipBlanks fuel else pure ()
    | none => pure ()

def peekPastBlanks : Scan (Option UInt8) := do
  skipBlanks (← remaining)
  peek

/-- Steps over digits for at most `fuel` bytes. -/
def skipDigits : Nat → Scan Unit
  | 0 => pure ()
  | fuel + 1 => do
    match ← peek with
    | some c => if isDigitByte c then do eat; skipDigits fuel else pure ()
    | none => pure ()

/-- Reads the rest of a literal word byte by byte: the end of text is
`eofWhileParsingValue`, a wrong byte `expectedIdent`, both after reading the byte. -/
def expectWord : List UInt8 → Scan Unit
  | [] => pure ()
  | w :: ws => do
    match ← next with
    | none => failHere .eofWhileParsingValue
    | some c => if c == w then expectWord ws else failHere .expectedIdent

def nullTail : List UInt8 := [0x75, 0x6C, 0x6C]

def trueTail : List UInt8 := [0x72, 0x75, 0x65]

def falseTail : List UInt8 := [0x61, 0x6C, 0x73, 0x65]

/-! ## Numbers -/

/-- `10^k` as the nearest double, for `k ≤ 308`. -/
def powerOfTen (k : Nat) : Float := Decimal.roundRatio false (Nat.pow 10 k) 1

def natToFloat (n : Nat) : Float := Decimal.roundRatio false n 1

def overflows64 (s d : Nat) : Bool := s * 10 + d ≥ Nat.pow 2 64

/-- `significand · 10^exponent` by one multiplication or division by a power of ten in double
arithmetic, dividing by `1e308` first while the exponent is below `-308`; a result that does not
fit is `numberOutOfRange`. -/
def floatFromParts (positive : Bool) (significand : Nat) (exponent : Int) : Scan Float :=
  let rec go (f : Float) (e : Int) : Nat → Scan Float
    | 0 => pure f
    | fuel + 1 =>
      if e.natAbs ≤ 308 then
        if e ≥ 0 then
          let g := f * powerOfTen e.natAbs
          if g.isInf then failHere .numberOutOfRange else pure g
        else pure (f / powerOfTen e.natAbs)
      else if f == 0 then pure f
      else if e ≥ 0 then failHere .numberOutOfRange
      else go (f / powerOfTen 308) (e + 308) fuel
  do
    let f ← go (natToFloat significand) exponent 8
    pure (if positive then f else -f)

/-- Adds to a 32-bit signed exponent, stopping at the ends of its range. -/
def saturate32 (e : Int) : Int := max (-(Nat.pow 2 31)) (min (Nat.pow 2 31 - 1) e)

/-- After an exponent too large to hold: an error if it would make a nonzero number infinite,
otherwise the rest of its digits are skipped and the value is a zero of the number's sign. -/
def exponentOverflow (positive zeroSignificand positiveExponent : Bool) : Scan Float := do
  if !zeroSignificand && positiveExponent then failHere .numberOutOfRange
  else
    skipDigits (← remaining)
    pure (if positive then 0.0 else -0.0)

/-- The digits of an exponent after its first: accumulated while they fit in 32 bits. -/
def exponentDigits (positive zeroSignificand positiveExponent : Bool) (exp : Nat) :
    Nat → Scan (Sum Nat Float)
  | 0 => pure (.inl exp)
  | fuel + 1 => do
    match ← peek with
    | some c =>
      if isDigitByte c then do
        eat
        let e := exp * 10 + (c - 0x30).toNat
        if e > Nat.pow 2 31 - 1 then
          return .inr (← exponentOverflow positive zeroSignificand positiveExponent)
        exponentDigits positive zeroSignificand positiveExponent e fuel
      else pure (.inl exp)
    | none => pure (.inl exp)

/-- An exponent part, from its `e` or `E`. -/
def readExponent (positive : Bool) (significand : Nat) (start : Int) : Scan Float := do
  eat
  let positiveExponent ← do
    match ← peek with
    | some 0x2B => do eat; pure true
    | some 0x2D => do eat; pure false
    | _ => pure true
  match ← next with
  | none => failHere .eofWhileParsingValue
  | some c =>
    if !isDigitByte c then failHere .invalidNumber
    else
      match ← exponentDigits positive (significand == 0) positiveExponent (c - 0x30).toNat
          (← remaining) with
      | .inr f => pure f
      | .inl exp =>
        let e := if positiveExponent then saturate32 (start + exp) else saturate32 (start - exp)
        floatFromParts positive significand e

/-- After a significand too long for 64 bits: the remaining digits are skipped. -/
def decimalOverflow (positive : Bool) (significand : Nat) (exponent : Int) : Scan Float := do
  skipDigits (← remaining)
  match ← peek with
  | some 0x65 | some 0x45 => readExponent positive significand exponent
  | _ => floatFromParts positive significand exponent

/-- The digits after a decimal point, accumulated while the significand fits in 64 bits;
gives the significand and the count of digits taken, or the finished value. -/
def fractionDigits (positive : Bool) (before : Int) (significand : Nat) (taken : Nat) :
    Nat → Scan (Sum (Nat × Nat) Float)
  | 0 => pure (.inl (significand, taken))
  | fuel + 1 => do
    match ← peek with
    | some c =>
      if isDigitByte c then
        let d := (c - 0x30).toNat
        if overflows64 significand d then
          return .inr (← decimalOverflow positive significand (before - taken))
        eat
        fractionDigits positive before (significand * 10 + d) (taken + 1) fuel
      else pure (.inl (significand, taken))
    | none => pure (.inl (significand, taken))

/-- A fraction part, from its decimal point: at least one digit must follow it. -/
def readFraction (positive : Bool) (significand : Nat) (before : Int) : Scan Float := do
  eat
  match ← fractionDigits positive before significand 0 (← remaining) with
  | .inr f => pure f
  | .inl (s, taken) =>
    if taken = 0 then
      match ← peek with
      | some _ => failAhead .invalidNumber
      | none => failHere .eofWhileParsingValue
    else
      let e := before - taken
      match ← peek with
      | some 0x65 | some 0x45 => readExponent positive s e
      | _ => floatFromParts positive s e

/-- An integer too long for 64 bits: its further digits only raise the exponent. -/
def longInteger (positive : Bool) (significand : Nat) (exponent : Nat) : Nat → Scan Float
  | 0 => floatFromParts positive significand exponent
  | fuel + 1 => do
    match ← peek with
    | some c =>
      if isDigitByte c then do eat; longInteger positive significand (exponent + 1) fuel
      else if c == 0x2E then readFraction positive significand exponent
      else if c == 0x65 || c == 0x45 then readExponent positive significand exponent
      else floatFromParts positive significand exponent
    | none => floatFromParts positive significand exponent

/-- What follows the integer digits: a fraction, an exponent, or the end of an integer. A
negative integer whose magnitude leaves the signed 64-bit range, and `-0`, become doubles. -/
def finishNumber (positive : Bool) (significand : Nat) : Scan Number := do
  match ← peek with
  | some 0x2E => return .float (← readFraction positive significand 0)
  | some 0x65 | some 0x45 => return .float (← readExponent positive significand 0)
  | _ =>
    if positive then pure (.natural significand)
    else if significand = 0 then pure (.float (-0.0))
    else if significand ≤ Nat.pow 2 63 then pure (.negative (-(significand : Int)))
    else pure (.float (-(natToFloat significand)))

/-- The integer digits after a nonzero first digit. -/
def integerDigits (positive : Bool) (significand : Nat) : Nat → Scan Number
  | 0 => finishNumber positive significand
  | fuel + 1 => do
    match ← peek with
    | some c =>
      if isDigitByte c then
        let d := (c - 0x30).toNat
        if overflows64 significand d then
          return .float (← longInteger positive significand 0 (← remaining))
        eat
        integerDigits positive (significand * 10 + d) fuel
      else finishNumber positive significand
    | none => finishNumber positive significand

/-- A number after its sign: one leading zero at most, then digits, fraction and exponent. -/
def readNumber (positive : Bool) : Scan Number := do
  match ← next with
  | none => failHere .eofWhileParsingValue
  | some 0x30 =>
    match ← peek with
    | some c => if isDigitByte c then failAhead .invalidNumber else finishNumber positive 0
    | none => finishNumber positive 0
  | some c =>
    if isDigitByte c then integerDigits positive (c - 0x30).toNat (← remaining)
    else failHere .invalidNumber

/-- What a number stands for when found where another kind of value was expected. -/
def Number.unexpected : Number → Unexpected
  | .natural n => .unsigned n
  | .negative n => .signed n
  | .float x => .float x

/-! ## Skipping numbers -/

/-- The exponent of a skipped number, from its `e` or `E`. -/
def skipExponent : Scan Unit := do
  eat
  match ← peek with
  | some 0x2B | some 0x2D => eat
  | _ => pure ()
  match ← next with
  | some c => if isDigitByte c then skipDigits (← remaining) else failHere .invalidNumber
  | none => failHere .invalidNumber

/-- The fraction of a skipped number, from its point. -/
def skipFraction : Scan Unit := do
  eat
  let start ← offset
  skipDigits (← remaining)
  if (← offset) == start then failAhead .invalidNumber
  else
    match ← peek with
    | some 0x65 | some 0x45 => skipExponent
    | _ => pure ()

/-- Steps over a number after its sign, checking only its form. -/
def skipNumber : Scan Unit := do
  match ← next with
  | some 0x30 =>
    match ← peek with
    | some c => if isDigitByte c then failAhead .invalidNumber else pure ()
    | none => pure ()
  | some c => if isDigitByte c then skipDigits (← remaining) else failHere .invalidNumber
  | none => failHere .invalidNumber
  match ← peek with
  | some 0x2E => skipFraction
  | some 0x65 | some 0x45 => skipExponent
  | _ => pure ()

/-! ## Strings -/

/-- The value of a hexadecimal digit. -/
def hexValue (c : UInt8) : Option Nat :=
  if 0x30 ≤ c && c ≤ 0x39 then some (c - 0x30).toNat
  else if 0x61 ≤ c && c ≤ 0x66 then some (c - 0x61 + 10).toNat
  else if 0x41 ≤ c && c ≤ 0x46 then some (c - 0x41 + 10).toNat
  else none

/-- Four hexadecimal digits: all four are read before a bad one is reported; fewer than four
bytes left is the end of the string. -/
def readHex4 : Scan Nat := fun b i =>
  if i + 4 ≤ b.size then
    let digit (k : Nat) := b[i + k]?.bind hexValue
    match digit 0, digit 1, digit 2, digit 3 with
    | some a, some c, some d, some e => .done (((a * 16 + c) * 16 + d) * 16 + e) (i + 4)
    | _, _, _, _ => .failed ⟨.invalidEscape, some (i + 4)⟩ (i + 4)
  else .failed ⟨.eofWhileParsingString, some b.size⟩ b.size

/-- The next byte of an escape; the end of text is the end of the string. -/
def escapeByte : Scan UInt8 := do
  match ← next with
  | some c => pure c
  | none => failHere .eofWhileParsingString

/-- The byte after a high surrogate, which must open a second escape. -/
def peekInEscape : Scan UInt8 := do
  match ← peek with
  | some c => pure c
  | none => failHere .eofWhileParsingString

/-- A `\u` escape after its `u`: a low surrogate alone is refused, a high one must be followed
by `\u` and a low one. -/
def readUnicodeEscape : Scan Char := do
  let n ← readHex4
  if 0xDC00 ≤ n ∧ n ≤ 0xDFFF then failHere .loneLeadingSurrogate
  else if 0xD800 ≤ n ∧ n ≤ 0xDBFF then
    if (← peekInEscape) != 0x5C then do eat; failHere .unexpectedEndOfHexEscape
    else
      eat
      if (← peekInEscape) != 0x75 then do eat; failHere .unexpectedEndOfHexEscape
      else
        eat
        let low ← readHex4
        if low < 0xDC00 ∨ low > 0xDFFF then failHere .loneLeadingSurrogate
        else pure (Char.ofNat (((n - 0xD800) * 1024 + (low - 0xDC00)) + 0x10000))
  else pure (Char.ofNat n)

/-- An escape after its backslash, as the bytes it stands for. -/
def readEscape : Scan (List UInt8) := do
  match ← escapeByte with
  | 0x22 => pure [0x22]
  | 0x5C => pure [0x5C]
  | 0x2F => pure [0x2F]
  | 0x62 => pure [0x08]
  | 0x66 => pure [0x0C]
  | 0x6E => pure [0x0A]
  | 0x72 => pure [0x0D]
  | 0x74 => pure [0x09]
  | 0x75 => return (String.singleton (← readUnicodeEscape)).toUTF8.toList
  | _ => failHere .invalidEscape

/-- The bytes of a string body up to its closing quote, which is consumed. -/
def stringBytes (acc : ByteArray) : Nat → Scan ByteArray
  | 0 => failHere .eofWhileParsingString
  | fuel + 1 => do
    match ← peek with
    | none => failHere .eofWhileParsingString
    | some 0x22 => do eat; pure acc
    | some 0x5C => do
      eat
      let bytes ← readEscape
      stringBytes (bytes.foldl ByteArray.push acc) fuel
    | some c =>
      if c < 0x20 then do eat; failHere .controlCharacterInString
      else do eat; stringBytes (acc.push c) fuel

def readString : Scan String := do
  let bytes ← stringBytes ByteArray.empty (← remaining)
  pure ((String.fromUTF8? bytes).getD "")

/-- An escape of a skipped string, after its backslash; `\u` takes any four hex digits. -/
def skipEscape : Scan Unit := do
  match ← escapeByte with
  | 0x22 | 0x5C | 0x2F | 0x62 | 0x66 | 0x6E | 0x72 | 0x74 => pure ()
  | 0x75 => do let _ ← readHex4; pure ()
  | _ => failHere .invalidEscape

/-- Steps over a string after its opening quote. -/
def skipString : Nat → Scan Unit
  | 0 => failHere .eofWhileParsingString
  | fuel + 1 => do
    match ← peek with
    | none => failHere .eofWhileParsingString
    | some 0x22 => eat
    | some 0x5C => do eat; skipEscape; skipString fuel
    | some c =>
      if c < 0x20 then failHere .controlCharacterInString
      else do eat; skipString fuel

end EntitySchema.Json
