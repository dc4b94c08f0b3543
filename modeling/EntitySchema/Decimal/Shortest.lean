import EntitySchema.Decimal.Binary64

/-!
# The shortest decimal that reads back

For a positive double `x = m · 2^q` the reals that round to `x` form an interval around it: half
a step to the next double above, half a step (a quarter when `m` is the least mantissa of its
binade) to the one below, both ends included exactly when `m` is even. A decimal reads back as
`x` iff it lies in that interval.

`shortest` walks the decimal grids `10^k`, coarse to fine. On each grid only the two grid points
next to `x` can lie in the interval (it is convex and holds `x`), so the first grid where one of
them does gives the fewest significant digits; of two hits the nearer is taken, and an exact tie
goes as the caller's `TieBreak` says.
-/

namespace EntitySchema.Decimal

/-- How to choose between two equally near shortest decimals. -/
inductive TieBreak where
  /-- The one of greater magnitude. -/
  | up
  /-- The one whose last digit is even. -/
  | even
  deriving Repr, BEq

/-- A positive decimal `digits · 10^exponent`; `digits` carries no trailing zero. -/
structure Shortest where
  digits : Nat
  exponent : Int
  deriving Repr, BEq

/-- Drops trailing zeros of `d`, raising the exponent `k` by one for each. -/
def stripZeros (d : Nat) (k : Int) : Nat → Nat × Int
  | 0 => (d, k)
  | fuel + 1 => if d ≠ 0 ∧ d % 10 = 0 then stripZeros (d / 10) (k + 1) fuel else (d, k)

/-- The interval of reals that round to `m · 2^q`, in units of `2^(q-2)`: its low and high ends
and whether they are included. -/
structure Rounding where
  low : Nat
  high : Nat
  closed : Bool

/-- The rounding interval of the double with mantissa `m > 0` and exponent `q`. -/
def Rounding.of (m : Nat) (q : Int) : Rounding :=
  let lowerGap := if m = Nat.pow 2 fractionBits ∧ q > leastExponent then 1 else 2
  { low := 4 * m - lowerGap, high := 4 * m + 2, closed := m % 2 = 0 }

/-- What a grid `10^k` offers for `m · 2^q`: the value and the interval ends, all over one common
denominator `den`, so that grid point `d` stands for `d · den`. -/
structure GridView where
  value : Nat
  low : Nat
  high : Nat
  den : Nat

/-- Puts `x = 4m · 2^(q-2)` and its interval on the grid `10^k`. -/
def GridView.of (m : Nat) (q : Int) (r : Rounding) (k : Int) : GridView :=
  let twos := Nat.pow 2 (q - 2).toNat
  let tens := Nat.pow 10 (-k).toNat
  { value := 4 * m * twos * tens
    low := r.low * twos * tens
    high := r.high * twos * tens
    den := Nat.pow 10 k.toNat * Nat.pow 2 (2 - q).toNat }

def GridView.holds (g : GridView) (closed : Bool) (d : Nat) : Bool :=
  let p := d * g.den
  if closed then g.low ≤ p ∧ p ≤ g.high else g.low < p ∧ p < g.high

/-- The grid point of `10^k` chosen for `x`, if one of its two neighbours of `x` reads back. -/
def pickOnGrid (m : Nat) (q : Int) (tie : TieBreak) (k : Int) : Option Nat :=
  let r := Rounding.of m q
  let g := GridView.of m q r k
  let lo := g.value / g.den
  let hi := if g.value % g.den = 0 then lo else lo + 1
  let loOk := lo ≠ 0 ∧ g.holds r.closed lo
  let hiOk := g.holds r.closed hi
  if loOk ∧ hiOk ∧ lo ≠ hi then
    let below := g.value - lo * g.den
    let above := hi * g.den - g.value
    if below < above then some lo
    else if above < below then some hi
    else match tie with
      | .up => some hi
      | .even => if lo % 2 = 0 then some lo else some hi
  else if loOk then some lo
  else if hiOk then some hi
  else none

/-- An exponent `k` with `10^k > x / 10`, a safe first grid for `m · 2^q`. -/
def startGrid (m : Nat) (q : Int) : Int :=
  -- log₁₀ 2 < 0.30103 < 78913 / 2^18, and one more step covers the rounding of the estimate
  let bits : Int := (m.log2 : Int) + 1 + q
  (if bits ≥ 0 then bits * 78913 / 262144 else -((-bits) * 78913 / 262144)) + 2

/-- Tries the grids `10^k`, `10^(k-1)`, … for at most `fuel` steps. -/
def searchGrids (m : Nat) (q : Int) (tie : TieBreak) (k : Int) : Nat → Option Shortest
  | 0 => none
  | fuel + 1 =>
    match pickOnGrid m q tie k with
    | some d =>
      let (d, e) := stripZeros d k (decimalLength d)
      some { digits := d, exponent := e }
    | none => searchGrids m q tie (k - 1) fuel

/-- The shortest decimal that reads back as the positive double `m · 2^q`. Twenty grids from a
safe start always reach the seventeen digits that suffice for every double. -/
def shortest (m : Nat) (q : Int) (tie : TieBreak) : Shortest :=
  (searchGrids m q tie (startGrid m q) 24).getD { digits := m, exponent := 0 }

end EntitySchema.Decimal
