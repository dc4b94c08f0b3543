import EntitySchema.Decimal.Shortest

/-!
# Writing a double in shortest digits

The digits always come from `shortest`; a `Notation` decides the rest: which magnitudes are
written positionally, whether an integral value keeps a `.0`, and how an exact tie between two
shortest decimals is broken. Three notations are used by this library:

- `Notation.debug`: positional for `1e-4 ≤ |x| < 1e16`, always with a fractional digit
  (`1.0`, `0.0001`), scientific otherwise (`1e16`, `1.5e-5`);
- `Notation.plain`: always positional, no forced fractional digit (`1`, `0.0000001`);
- `Notation.compact`: positional for `1e-5 ≤ |x| < 1e16` with a `.0` when integral, scientific
  otherwise with a `+` before a nonnegative exponent (`1e+16`, `1e-6`); ties go to the even
  digit. Used when writing JSON numbers and in messages about JSON values.
-/

namespace EntitySchema.Decimal

/-- The choices that turn shortest digits into text. -/
structure Notation where
  /-- Least exponent of the leading digit that is written positionally, if bounded. -/
  positionalFrom : Option Int
  /-- Leading-digit exponents from this one up are written in scientific form, if bounded. -/
  scientificFrom : Option Int
  /-- Whether a positional integral value is written with `.0`. -/
  keepPoint : Bool
  /-- How an exact tie between two shortest decimals is broken. -/
  tie : TieBreak
  /-- Whether a nonnegative exponent is written with a `+`. -/
  plusExponent : Bool := false

/-- The notation of debugging output: `1.0`, `0.0001`, `1e16`, `1.5e-5`. -/
def Notation.debug : Notation :=
  { positionalFrom := some (-4), scientificFrom := some 16, keepPoint := true, tie := .up }

/-- Plain positional notation: `1`, `1.5`, `0.0000001`, `10000000000000000`. -/
def Notation.plain : Notation :=
  { positionalFrom := none, scientificFrom := none, keepPoint := false, tie := .up }

/-- The notation of JSON numbers: `1.0`, `0.00001`, `1e-6`, `1e+16`. -/
def Notation.compact : Notation :=
  { positionalFrom := some (-5), scientificFrom := some 16, keepPoint := true, tie := .even,
    plusExponent := true }

def zeros (n : Nat) : String := String.ofList (List.replicate n '0')

def digitText (d : Nat) : String := String.ofList (Nat.toDigits 10 d)

/-- `digits · 10^k` written positionally. -/
def positional (keepPoint : Bool) (digits : String) (k : Int) : String :=
  let n : Int := digits.length
  if k ≥ 0 then
    digits ++ zeros k.toNat ++ (if keepPoint then ".0" else "")
  else if n + k > 0 then
    let whole := (n + k).toNat
    String.ofList (digits.toList.take whole) ++ "." ++ String.ofList (digits.toList.drop whole)
  else
    "0." ++ zeros (-(n + k)).toNat ++ digits

/-- `digits · 10^k` written as a mantissa with one leading digit and an exponent, which has a
`+` when nonnegative if `plus` is set. -/
def scientific (plus : Bool) (digits : String) (k : Int) : String :=
  let lead : Int := k + digits.length - 1
  let mantissa :=
    match digits.toList with
    | [] => "0"
    | [d] => String.singleton d
    | d :: rest => String.singleton d ++ "." ++ String.ofList rest
  mantissa ++ "e" ++ (if plus && lead ≥ 0 then "+" else "") ++ toString lead

def Notation.isPositional (n : Notation) (lead : Int) : Bool :=
  (n.positionalFrom.all fun lo => lo ≤ lead) && (n.scientificFrom.all fun hi => lead < hi)

/-- The text of a finite nonzero magnitude `m · 2^q`. -/
def Notation.magnitude (n : Notation) (m : Nat) (q : Int) : String :=
  let s := shortest m q n.tie
  let digits := digitText s.digits
  if n.isPositional (s.exponent + digits.length - 1) then positional n.keepPoint digits s.exponent
  else scientific n.plusExponent digits s.exponent

/-- The text of a double under notation `n`; infinities are `inf` and `-inf`, NaN is `NaN`. -/
def Notation.write (n : Notation) (x : Float) : String :=
  match Binary64.ofFloat x with
  | .nan => "NaN"
  | .infinite negative => if negative then "-inf" else "inf"
  | .finite negative m q =>
    let sign := if negative then "-" else ""
    if m = 0 then sign ++ (if n.keepPoint then "0.0" else "0")
    else sign ++ n.magnitude m q

end EntitySchema.Decimal
