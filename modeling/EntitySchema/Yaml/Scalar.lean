import EntitySchema.Decimal.Read

/-!
# What a plain scalar means

A plain scalar of YAML is read by the core schema: empty, `~` and `null` (in three cases) are
null; `true` and `false` (in three cases) are booleans; then come integers, in decimal, or in
hexadecimal, octal or binary after `0x`, `0o` or `0b`, with an optional sign, and then floating
point numbers; everything else is a string. A number with a leading zero followed only by digits,
such as `007`, is a string. Integers are tried in order as unsigned and signed 64-bit numbers,
then as unsigned and signed 128-bit numbers; a float must be finite.
-/

namespace EntitySchema.Yaml

/-- What a plain scalar means. -/
inductive PlainValue where
  | null
  | bool (b : Bool)
  | unsigned (n : Nat)
  | signed (n : Int)
  /-- An unsigned integer that needs more than 64 bits. -/
  | wideUnsigned (n : Nat)
  /-- A signed integer that needs more than 64 bits. -/
  | wideSigned (n : Int)
  | float (x : Float)
  | string

def isNullWord (v : String) : Bool := v == "~" || v == "null" || v == "Null" || v == "NULL"

def boolWord? (v : String) : Option Bool :=
  if v == "true" || v == "True" || v == "TRUE" then some true
  else if v == "false" || v == "False" || v == "FALSE" then some false
  else none

/-- Whether a scalar is a leading zero followed only by digits, after an optional sign. -/
def digitsButNotNumber (v : String) : Bool :=
  let cs := match v.toList with
    | '-' :: rest | '+' :: rest => rest
    | cs => cs
  cs.length > 1 && cs.head? == some '0' && cs.all Char.isDigit

/-- The value of a nonempty run of digits in base `radix`. -/
def radixValue? (radix : Nat) (cs : List Char) : Option Nat :=
  let digit (c : Char) : Option Nat :=
    let d := if c.isDigit then c.toNat - '0'.toNat
      else if 'a' ≤ c && c ≤ 'z' then c.toNat - 'a'.toNat + 10
      else if 'A' ≤ c && c ≤ 'Z' then c.toNat - 'A'.toNat + 10
      else radix
    if d < radix then some d else none
  if cs.isEmpty then none
  else cs.foldlM (fun n c => (digit c).map (n * radix + ·)) 0

/-- The radix a prefix `0x`, `0o` or `0b` selects, and the digits after it. -/
def radixPrefix? : List Char → Option (Nat × List Char)
  | '0' :: 'x' :: rest => some (16, rest)
  | '0' :: 'o' :: rest => some (8, rest)
  | '0' :: 'b' :: rest => some (2, rest)
  | _ => none

/-- An unsigned integer below `bound`, with an optional `+` and an optional radix prefix. -/
def unsignedBelow? (bound : Nat) (v : String) : Option Nat :=
  let unpositive := match v.toList with
    | '+' :: rest => rest
    | cs => cs
  let fits (n : Nat) : Option Nat := if n < bound then some n else none
  let prefixed := match radixPrefix? unpositive with
    | some (radix, rest) =>
      if rest.head? == some '+' || rest.head? == some '-' then none
      else (radixValue? radix rest).bind fits
    | none => none
  match prefixed with
  | some n => some n
  | none =>
    if unpositive.head? == some '+' || unpositive.head? == some '-' then none
    else if digitsButNotNumber v then none
    else (radixValue? 10 unpositive).bind fits

/-- A negative or signed integer of at least `-bound`, with a radix prefix after `-` or an
optional sign in decimal. -/
def signedAbove? (bound : Nat) (v : String) : Option Int :=
  let fits (n : Int) : Option Int := if -(bound : Int) ≤ n && n < bound then some n else none
  let prefixed := match v.toList with
    | '-' :: rest =>
      match radixPrefix? rest with
      | some (radix, digits) => (radixValue? radix digits).bind fun n => fits (-(n : Int))
      | none => none
    | _ => none
  match prefixed with
  | some n => some n
  | none =>
    if digitsButNotNumber v then none
    else
      let (negative, digits) := Decimal.splitSign v.toList
      (radixValue? 10 digits).bind fun n => fits (if negative then -(n : Int) else n)

/-- A finite floating point number, with at most one leading `+`. -/
def finiteFloat? (v : String) : Option Float :=
  let unpositive := match v.toList with
    | '+' :: rest => rest
    | cs => cs
  if v.startsWith "+" && (unpositive.head? == some '+' || unpositive.head? == some '-') then none
  else
    let word := String.ofList unpositive
    if word == ".inf" || word == ".Inf" || word == ".INF" then none
    else if v == "-.inf" || v == "-.Inf" || v == "-.INF" then none
    else if v == ".nan" || v == ".NaN" || v == ".NAN" then none
    else (Decimal.readFloat? word).bind fun x => if x.isFinite then some x else none

/-- The infinities and NaN of the core schema. -/
def specialFloat? (v : String) : Option Float :=
  let unpositive := if v.startsWith "+" then (v.drop 1).toString else v
  if unpositive == ".inf" || unpositive == ".Inf" || unpositive == ".INF" then some (1.0 / 0.0)
  else if v == "-.inf" || v == "-.Inf" || v == "-.INF" then some (-(1.0 / 0.0))
  else if v == ".nan" || v == ".NaN" || v == ".NAN" then some (0.0 / 0.0)
  else none

/-- The integer a scalar spells, tried in order as an unsigned and a signed 64-bit number, then
as an unsigned and a signed 128-bit number. -/
def PlainValue.integer? (v : String) : Option PlainValue :=
  match unsignedBelow? (Nat.pow 2 64) v with
  | some n => some (.unsigned n)
  | none =>
  match signedAbove? (Nat.pow 2 63) v with
  | some n => some (.signed n)
  | none =>
  match unsignedBelow? (Nat.pow 2 128) v with
  | some n => some (.wideUnsigned n)
  | none => (signedAbove? (Nat.pow 2 127) v).map .wideSigned

/-- The floating point number a scalar spells: an infinity, NaN or a finite number. -/
def floatWord? (v : String) : Option Float :=
  match specialFloat? v with
  | some x => some x
  | none => finiteFloat? v

/-- What a plain scalar means. -/
def PlainValue.of (v : String) : PlainValue :=
  if v.isEmpty || isNullWord v then .null
  else match boolWord? v with
  | some b => .bool b
  | none =>
    match PlainValue.integer? v with
    | some p => p
    | none =>
      if digitsButNotNumber v then .string
      else match floatWord? v with
        | some x => .float x
        | none => .string

end EntitySchema.Yaml
