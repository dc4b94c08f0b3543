/-!
# Binary64 values as exact numbers

A finite double is `m · 2^q` for a natural mantissa `m` and an integer exponent `q`. This module
decodes the bits of a `Float` into that form and goes the other way: a positive rational
`num / den` is rounded to the nearest double, a tie going to the even mantissa.

Everything here is `Nat` arithmetic on the bit layout, so the results do not depend on how the
platform rounds.
-/

namespace EntitySchema.Decimal

/-- What the bits of a double stand for. -/
inductive Binary64 where
  /-- `(-1)^negative · mantissa · 2^exponent`, zero included. -/
  | finite (negative : Bool) (mantissa : Nat) (exponent : Int)
  /-- An infinity of the given sign. -/
  | infinite (negative : Bool)
  /-- Not a number. -/
  | nan
  deriving Repr, BEq

def fractionBits : Nat := 52

/-- Exponent of the least subnormal step: the value of fraction bit 0 at biased exponent 0. -/
def leastExponent : Int := -1074

/-- Greatest exponent a mantissa of 53 bits may carry and stay finite. -/
def greatestExponent : Int := 971

/-- Decodes the sign, biased exponent and fraction of a double. -/
def Binary64.ofBits (bits : UInt64) : Binary64 :=
  let negative := bits >>> 63 == 1
  let biased := ((bits >>> 52) &&& 0x7FF).toNat
  let fraction := (bits &&& 0xFFFFFFFFFFFFF).toNat
  if biased == 0x7FF then
    if fraction == 0 then .infinite negative else .nan
  else if biased == 0 then
    .finite negative fraction leastExponent
  else
    .finite negative (fraction + Nat.pow 2 fractionBits) ((biased : Int) - 1075)

def Binary64.ofFloat (x : Float) : Binary64 := Binary64.ofBits x.toBits

/-- Bits of the double `mantissa · 2^exponent` with `mantissa < 2^53`; a mantissa below `2^52`
is only valid at the least exponent (a subnormal). -/
def encodeBits (negative : Bool) (mantissa : Nat) (exponent : Int) : UInt64 :=
  let sign : UInt64 := if negative then 0x8000000000000000 else 0
  if mantissa < Nat.pow 2 fractionBits then
    sign ||| mantissa.toUInt64
  else
    let biased := (exponent + 1075).toNat
    sign ||| (biased.toUInt64 <<< 52) ||| (mantissa - Nat.pow 2 fractionBits).toUInt64

def scaleDown (num den : Nat) (e : Int) : Nat × Nat :=
  if e ≥ 0 then (num, den * Nat.pow 2 e.toNat) else (num * Nat.pow 2 (-e).toNat, den)

def log2Ratio (num den : Nat) : Int :=
  let guess : Int := (num.log2 : Int) - (den.log2 : Int)
  let (a, b) := scaleDown num den guess
  if a ≥ b then guess else guess - 1

def infinityBits (negative : Bool) : UInt64 := encodeBits negative 0 0 ||| 0x7FF0000000000000

/-- The double whose magnitude is `num / den` rounded to nearest, ties to an even mantissa.
Magnitudes past the greatest finite double give an infinity; `num = 0` gives zero. -/
def roundRatio (negative : Bool) (num den : Nat) : Float :=
  if num = 0 ∨ den = 0 then
    Float.ofBits (encodeBits negative 0 0)
  else
    -- the exponent that leaves a mantissa in [2^52, 2^53), or the least exponent
    let e := max (log2Ratio num den - 52) leastExponent
    let (a, b) := scaleDown num den e
    let q := a / b
    let r := a % b
    let q := if 2 * r > b ∨ (2 * r = b ∧ q % 2 = 1) then q + 1 else q
    let (m, e) := if q = Nat.pow 2 53 then (Nat.pow 2 52, e + 1) else (q, e)
    if e > greatestExponent then Float.ofBits (infinityBits negative)
    else Float.ofBits (encodeBits negative m e)

/-- The double nearest to an integer, ties to an even mantissa. -/
def ofInt (n : Int) : Float := roundRatio (decide (n < 0)) n.natAbs 1

def decimalLength (m : Nat) : Nat := (Nat.toDigits 10 m).length

/-- The double nearest to `m · 10^e`, correctly rounded; the exponent is looked at first so that
values far out of range cost nothing to compute. -/
def ofDecimal (negative : Bool) (m : Nat) (e : Int) : Float :=
  if m = 0 then roundRatio negative 0 1
  else if e + decimalLength m > 310 then Float.ofBits (infinityBits negative)
  else if e + decimalLength m < -326 then roundRatio negative 0 1
  else if e ≥ 0 then roundRatio negative (m * Nat.pow 10 e.toNat) 1
  else roundRatio negative m (Nat.pow 10 (-e).toNat)

end EntitySchema.Decimal
