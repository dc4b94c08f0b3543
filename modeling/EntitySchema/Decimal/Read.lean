import EntitySchema.Decimal.Binary64

/-!
# Reading numbers from text

`readInt64?` accepts an optional sign and at least one digit and refuses values outside the
signed 64-bit range. `readFloat?` accepts an optional sign and then `inf`, `infinity` or `nan`
in any case, or digits with an optional point and an optional exponent (`e` or `E`, an optional
sign, at least one digit), with a digit before or after the point; the value is the double
nearest to the decimal, correctly rounded.
-/

namespace EntitySchema.Decimal

def splitSign : List Char → Bool × List Char
  | '-' :: rest => (true, rest)
  | '+' :: rest => (false, rest)
  | cs => (false, cs)

def digitsValue? (cs : List Char) : Option Nat :=
  if cs.isEmpty || !cs.all Char.isDigit then none
  else some (cs.foldl (fun n c => n * 10 + (c.toNat - '0'.toNat)) 0)

/-- A signed 64-bit integer written in decimal, with an optional sign. -/
def readInt64? (s : String) : Option Int := do
  let (negative, rest) := splitSign s.toList
  let n ← digitsValue? rest
  let v : Int := if negative then -(n : Int) else n
  if -(Nat.pow 2 63 : Int) ≤ v ∧ v < Nat.pow 2 63 then some v else none

/-- A decimal number `digits[.digits][e[sign]digits]` as its digits and power of ten. -/
def readDecimalParts? (cs : List Char) : Option (Nat × Int) := do
  let whole := cs.takeWhile Char.isDigit
  let rest := cs.dropWhile Char.isDigit
  let (frac, rest) :=
    match rest with
    | '.' :: more => (more.takeWhile Char.isDigit, more.dropWhile Char.isDigit)
    | _ => ([], rest)
  if whole.isEmpty && frac.isEmpty then none
  else
    let exp ← match rest with
      | [] => some (0 : Int)
      | c :: more =>
        if c == 'e' || c == 'E' then
          let (negative, digits) := splitSign more
          let e ← digitsValue? digits
          some (if negative then -(e : Int) else e)
        else none
    let m := (whole ++ frac).foldl (fun n c => n * 10 + (c.toNat - '0'.toNat)) 0
    some (m, exp - frac.length)

/-- A floating point number written in decimal, or as an infinity or NaN. -/
def readFloat? (s : String) : Option Float := do
  let (negative, rest) := splitSign s.toList
  let word := String.ofList (rest.map Char.toLower)
  if word == "inf" || word == "infinity" then
    some (if negative then -(1.0 / 0.0) else 1.0 / 0.0)
  else if word == "nan" then some (0.0 / 0.0)
  else
    let (m, e) ← readDecimalParts? rest
    some (ofDecimal negative m e)

end EntitySchema.Decimal
