import Mathlib.Algebra.Order.Field.Power
import Mathlib.Algebra.Order.Field.Rat
import Mathlib.Algebra.Order.Floor.Semiring
import Mathlib.Tactic.FieldSimp
import Mathlib.Tactic.Linarith
import Mathlib.Tactic.Positivity
import Mathlib.Tactic.Ring
import EntitySchema.Decimal.Notation

/-!
# The shortest digits of a double read back as the double

A positive finite double is `m · 2^q`. A reader that rounds to nearest, ties to the even
mantissa, turns a real into this double exactly when the real is nearer to it than to the
doubles next to it, the midpoints counting when `m` is even (`ReadsBackAs`).

`shortest` searches the decimal grids `10^k`, coarse to fine, from `startGrid`. On each grid
it looks at the two grid points next to the double and takes one that reads back. We prove
that whatever it takes reads back (`inRounding_of_pickOnGrid`), and that it always takes
something within its 24 grids: the interval is wider than one step of the 24th grid
(`lastGrid_fine_rat`, from `78913 / 2^18 < log₁₀ 2 < 78914 / 2^18`), and an interval that holds
a grid point holds one of the two neighbours, being convex and holding the double itself
(`pickOnGrid_isSome`).
-/

namespace EntitySchema.Decimal

/-! ### Doubles and the reals that round to them -/

/-- The mantissa and exponent of a positive finite double: below `2^53`, in the exponent range,
and at least `2^52` except among the subnormals. -/
structure PositiveDouble (m : Nat) (q : Int) : Prop where
  pos : 0 < m
  lt : m < Nat.pow 2 53
  ge : leastExponent ≤ q
  le : q ≤ greatestExponent
  normal : leastExponent < q → Nat.pow 2 fractionBits ≤ m

/-- The double next below `m · 2^q`: one step of `2^q` down, or half a step at the bottom of a
binade above the subnormals. -/
def nextBelow (m : Nat) (q : Int) : ℚ :=
  if m = Nat.pow 2 fractionBits ∧ leastExponent < q then (2 * m - 1 : ℚ) * 2 ^ (q - 1)
  else (m - 1 : ℚ) * 2 ^ q

/-- The double next above `m · 2^q` (or the bound past which reals round to infinity). -/
def nextAbove (m : Nat) (q : Int) : ℚ := (m + 1 : ℚ) * 2 ^ q

/-- The reals that round to `m · 2^q` to nearest, ties to the even mantissa: those nearer to it
than to the doubles next to it, the two midpoints included when `m` is even. -/
def ReadsBackAs (v : ℚ) (m : Nat) (q : Int) : Prop :=
  if m % 2 = 0 then
    ((m : ℚ) * 2 ^ q + nextBelow m q) / 2 ≤ v ∧ v ≤ ((m : ℚ) * 2 ^ q + nextAbove m q) / 2
  else ((m : ℚ) * 2 ^ q + nextBelow m q) / 2 < v ∧ v < ((m : ℚ) * 2 ^ q + nextAbove m q) / 2

/-- The same interval as `Rounding.of` gives it, in units of `2^(q-2)`. -/
def InRounding (v : ℚ) (m : Nat) (q : Int) : Prop :=
  if (Rounding.of m q).closed then
    ((Rounding.of m q).low : ℚ) * 2 ^ (q - 2) ≤ v ∧ v ≤ (Rounding.of m q).high * 2 ^ (q - 2)
  else ((Rounding.of m q).low : ℚ) * 2 ^ (q - 2) < v ∧ v < (Rounding.of m q).high * 2 ^ (q - 2)

@[simp] theorem Rounding.of_low (m : Nat) (q : Int) :
    (Rounding.of m q).low = 4 * m - if m = Nat.pow 2 fractionBits ∧ q > leastExponent then 1 else 2 :=
  rfl

@[simp] theorem Rounding.of_high (m : Nat) (q : Int) : (Rounding.of m q).high = 4 * m + 2 := rfl

@[simp] theorem Rounding.of_closed (m : Nat) (q : Int) :
    (Rounding.of m q).closed = decide (m % 2 = 0) := rfl

theorem two_zpow_sub_two (q : Int) : (2 : ℚ) ^ q = 4 * 2 ^ (q - 2) := by
  rw [zpow_sub₀ (by norm_num)]
  field_simp
  norm_num

theorem two_zpow_sub_one (q : Int) : (2 : ℚ) ^ (q - 1) = 2 * 2 ^ (q - 2) := by
  rw [zpow_sub₀ (by norm_num), zpow_sub₀ (by norm_num)]
  field_simp

theorem readsBackAs_iff_inRounding {v : ℚ} {m : Nat} {q : Int} (hm : 0 < m) :
    ReadsBackAs v m q ↔ InRounding v m q := by
  have hlow : ((m : ℚ) * 2 ^ q + nextBelow m q) / 2 = ((Rounding.of m q).low : ℚ) * 2 ^ (q - 2) := by
    rw [Rounding.of_low, nextBelow]
    by_cases hbin : m = Nat.pow 2 fractionBits ∧ leastExponent < q
    · rw [if_pos hbin, if_pos hbin, Nat.cast_sub (by omega), two_zpow_sub_two, two_zpow_sub_one]
      push_cast
      ring
    · rw [if_neg hbin, if_neg hbin, Nat.cast_sub (by omega), two_zpow_sub_two]
      push_cast
      ring
  have hhigh : ((m : ℚ) * 2 ^ q + nextAbove m q) / 2 = ((Rounding.of m q).high : ℚ) * 2 ^ (q - 2) := by
    rw [Rounding.of_high, nextAbove, two_zpow_sub_two]
    push_cast
    ring
  unfold ReadsBackAs InRounding
  rw [hlow, hhigh, Rounding.of_closed]
  simp only [decide_eq_true_eq]

theorem InRounding.between {a b v : ℚ} {m : Nat} {q : Int} (ha : InRounding a m q)
    (hb : InRounding b m q) (hav : a ≤ v) (hvb : v ≤ b) : InRounding v m q := by
  unfold InRounding at *
  split at ha <;> simp only [*, if_true, if_false, Bool.false_eq_true] at hb ⊢
  · exact ⟨ha.1.trans hav, hvb.trans hb.2⟩
  · exact ⟨ha.1.trans_le hav, hvb.trans_lt hb.2⟩

/-! ### One grid -/

theorem pow_toNat_eq {a : ℚ} (ha : a ≠ 0) (n : Int) :
    a ^ n.toNat = a ^ n * a ^ (-n).toNat := by
  rw [← zpow_natCast, ← zpow_natCast (n := (-n).toNat), ← zpow_add₀ ha]
  congr 1
  omega

/-- The grid view multiplies the value, the interval ends and the grid step by one positive
factor. -/
theorem gridView_scaled (m : Nat) (q : Int) (r : Rounding) (k : Int) :
    ((GridView.of m q r k).value : ℚ) = 4 * m * 2 ^ (q - 2) * (10 ^ (-k).toNat * 2 ^ (2 - q).toNat) ∧
      ((GridView.of m q r k).low : ℚ) = r.low * 2 ^ (q - 2) * (10 ^ (-k).toNat * 2 ^ (2 - q).toNat) ∧
      ((GridView.of m q r k).high : ℚ) = r.high * 2 ^ (q - 2) * (10 ^ (-k).toNat * 2 ^ (2 - q).toNat) ∧
      ((GridView.of m q r k).den : ℚ) = 10 ^ k * (10 ^ (-k).toNat * 2 ^ (2 - q).toNat) := by
  have htwos : (2 : ℚ) ^ (q - 2).toNat = 2 ^ (q - 2) * 2 ^ (2 - q).toNat := by
    rw [pow_toNat_eq (by norm_num), show -(q - 2) = 2 - q by omega]
  have htens : (10 : ℚ) ^ k.toNat = 10 ^ k * 10 ^ (-k).toNat := pow_toNat_eq (by norm_num) k
  simp only [GridView.of, Nat.pow_eq]
  push_cast
  refine ⟨?_, ?_, ?_, ?_⟩
  · rw [htwos]
    ring
  · rw [htwos]
    ring
  · rw [htwos]
    ring
  · rw [htens]
    ring

theorem gridScale_pos (k q : Int) : (0 : ℚ) < 10 ^ (-k).toNat * 2 ^ (2 - q).toNat := by
  positivity

theorem holds_iff (m : Nat) (q k : Int) (d : Nat) :
    (GridView.of m q (Rounding.of m q) k).holds (Rounding.of m q).closed d = true ↔
      InRounding ((d : ℚ) * 10 ^ k) m q := by
  obtain ⟨-, hlow, hhigh, hden⟩ := gridView_scaled m q (Rounding.of m q) k
  have hP := gridScale_pos k q
  generalize (10 : ℚ) ^ (-k).toNat * 2 ^ (2 - q).toNat = P at hlow hhigh hden hP
  generalize GridView.of m q (Rounding.of m q) k = g at hlow hhigh hden
  have hpoint : ((d * g.den : Nat) : ℚ) = (d * 10 ^ k) * P := by
    rw [Nat.cast_mul, hden]
    ring
  have hle : ∀ (a : Nat) (x y : ℚ), (a : ℚ) = x * P → ∀ b : Nat, (b : ℚ) = y * P →
      (a ≤ b ↔ x ≤ y) := by
    intro a x y ha b hb
    rw [← Nat.cast_le (α := ℚ), ha, hb, mul_le_mul_iff_of_pos_right hP]
  have hlt : ∀ (a : Nat) (x y : ℚ), (a : ℚ) = x * P → ∀ b : Nat, (b : ℚ) = y * P →
      (a < b ↔ x < y) := by
    intro a x y ha b hb
    rw [← Nat.cast_lt (α := ℚ), ha, hb, mul_lt_mul_iff_of_pos_right hP]
  unfold GridView.holds InRounding
  cases (Rounding.of m q).closed with
  | true =>
    simp only [if_true, decide_eq_true_eq]
    rw [hle _ _ _ hlow _ hpoint, hle _ _ _ hpoint _ hhigh]
  | false =>
    simp only [Bool.false_eq_true, if_false, decide_eq_true_eq]
    rw [hlt _ _ _ hlow _ hpoint, hlt _ _ _ hpoint _ hhigh]

theorem holds_of_pickOnGrid {m : Nat} {q k : Int} {tie : TieBreak} {d : Nat}
    (h : pickOnGrid m q tie k = some d) :
    (GridView.of m q (Rounding.of m q) k).holds (Rounding.of m q).closed d = true := by
  simp only [pickOnGrid] at h
  generalize GridView.of m q (Rounding.of m q) k = g at h ⊢
  generalize (Rounding.of m q).closed = c at h ⊢
  generalize (if g.value % g.den = 0 then g.value / g.den else g.value / g.den + 1) = hi at h
  generalize g.value / g.den = lo at h
  split at h
  next hboth =>
    obtain ⟨⟨-, hlo⟩, hhi, -⟩ := hboth
    have hd : lo = d ∨ hi = d := by
      repeat' split at h
      all_goals (cases h; simp)
    rcases hd with rfl | rfl
    · exact hlo
    · exact hhi
  next =>
    split at h
    next hlo =>
      cases h
      exact hlo.2
    next =>
      split at h
      next hhi =>
        cases h
        exact hhi
      next => cases h

/-- The grid view keeps the double strictly inside its interval, with a positive lower end and
a positive denominator. -/
theorem GridView.of_bounds {m : Nat} (q k : Int) (hm : 0 < m) :
    0 < (GridView.of m q (Rounding.of m q) k).low ∧
      (GridView.of m q (Rounding.of m q) k).low < (GridView.of m q (Rounding.of m q) k).value ∧
      (GridView.of m q (Rounding.of m q) k).value < (GridView.of m q (Rounding.of m q) k).high ∧
      0 < (GridView.of m q (Rounding.of m q) k).den := by
  have htwos : 0 < Nat.pow 2 (q - 2).toNat := Nat.pow_pos (by norm_num)
  have htens : 0 < Nat.pow 10 (-k).toNat := Nat.pow_pos (by norm_num)
  have hlow : 0 < (Rounding.of m q).low ∧ (Rounding.of m q).low < 4 * m := by
    rw [Rounding.of_low]
    split <;> omega
  simp only [GridView.of, Rounding.of_high]
  refine ⟨?_, ?_, ?_, ?_⟩
  · exact Nat.mul_pos (Nat.mul_pos hlow.1 htwos) htens
  · exact Nat.mul_lt_mul_of_pos_right (Nat.mul_lt_mul_of_pos_right hlow.2 htwos) htens
  · exact Nat.mul_lt_mul_of_pos_right (Nat.mul_lt_mul_of_pos_right (by omega) htwos) htens
  · exact Nat.mul_pos (Nat.pow_pos (by norm_num)) (Nat.pow_pos (by norm_num))

theorem GridView.holds_between {g : GridView} {c : Bool} {d e : Nat} (hd : g.holds c d = true)
    (hlv : g.low < g.value) (hvh : g.value < g.high)
    (he : d * g.den ≤ e * g.den ∧ e * g.den ≤ g.value ∨
      g.value ≤ e * g.den ∧ e * g.den ≤ d * g.den) :
    g.holds c e = true := by
  unfold GridView.holds at *
  cases c <;> simp only [Bool.false_eq_true, if_false, if_true, decide_eq_true_eq] at hd ⊢ <;> omega

/-- On a grid with a point in the interval one of the two neighbours of the double passes too,
so `pickOnGrid` answers. -/
theorem pickOnGrid_isSome {m : Nat} {q k : Int} (tie : TieBreak) {d : Nat} (hm : 0 < m)
    (hd : (GridView.of m q (Rounding.of m q) k).holds (Rounding.of m q).closed d = true) :
    (pickOnGrid m q tie k).isSome := by
  obtain ⟨hlow, hlv, hvh, hden⟩ := GridView.of_bounds q k hm
  simp only [pickOnGrid]
  generalize GridView.of m q (Rounding.of m q) k = g at *
  generalize (Rounding.of m q).closed = c at *
  have hd0 : d ≠ 0 := by
    rintro rfl
    unfold GridView.holds at hd
    cases c
    · simp at hd
    · simp at hd
      omega
  have hbelow : g.value / g.den * g.den ≤ g.value := Nat.div_mul_le_self _ _
  have habove : g.value ≤ (if g.value % g.den = 0 then g.value / g.den else g.value / g.den + 1) * g.den ∧
      (if g.value % g.den = 0 then g.value / g.den else g.value / g.den + 1) ≤ g.value / g.den + 1 := by
    split
    next hdvd => exact ⟨(Nat.div_mul_cancel (Nat.dvd_of_mod_eq_zero hdvd)).ge, by omega⟩
    next => exact ⟨by rw [Nat.succ_mul]; exact (Nat.lt_div_mul_add hden).le, le_rfl⟩
  generalize (if g.value % g.den = 0 then g.value / g.den else g.value / g.den + 1) = hi at *
  generalize g.value / g.den = lo at *
  have hpass : (lo ≠ 0 ∧ g.holds c lo = true) ∨ g.holds c hi = true := by
    by_cases hdl : d ≤ lo
    · exact .inl ⟨by omega, g.holds_between hd hlv hvh (.inl ⟨Nat.mul_le_mul_right _ hdl, hbelow⟩)⟩
    · exact .inr (g.holds_between hd hlv hvh
        (.inr ⟨habove.1, Nat.mul_le_mul_right _ (by omega)⟩))
  split
  · repeat' split
    all_goals rfl
  · rcases hpass with hlo | hhi
    · rw [if_pos hlo]
      rfl
    · split <;> rfl

theorem inRounding_of_pickOnGrid {m : Nat} {q k : Int} {tie : TieBreak} {d : Nat}
    (h : pickOnGrid m q tie k = some d) : InRounding ((d : ℚ) * 10 ^ k) m q :=
  (holds_iff m q k d).1 (holds_of_pickOnGrid h)

theorem GridView.holds_of_den_lt {g : GridView} (c : Bool) (hden : 0 < g.den)
    (h : g.den < g.high - g.low) : g.holds c (g.low / g.den + 1) = true := by
  have hgt : g.low < (g.low / g.den + 1) * g.den := by
    rw [Nat.succ_mul]
    exact Nat.lt_div_mul_add hden
  have hle : (g.low / g.den + 1) * g.den ≤ g.low + g.den := by
    rw [Nat.succ_mul]
    exact Nat.add_le_add_right (Nat.div_mul_le_self _ _) _
  unfold GridView.holds
  cases c <;> simp only [Bool.false_eq_true, if_false, if_true, decide_eq_true_eq] <;> omega

/-- The grid `10^k` is finer than the interval once `4 · 10^k < 3 · 2^q`: the interval is at
least three units of `2^(q-2)` wide. -/
theorem GridView.den_lt_width {m : Nat} {q k : Int} (hm : 0 < m)
    (hk : 4 * (10 : ℚ) ^ k < 3 * 2 ^ q) :
    (GridView.of m q (Rounding.of m q) k).den <
      (GridView.of m q (Rounding.of m q) k).high - (GridView.of m q (Rounding.of m q) k).low := by
  obtain ⟨-, hlow, hhigh, hden⟩ := gridView_scaled m q (Rounding.of m q) k
  have hP := gridScale_pos k q
  have hB : (0 : ℚ) < 2 ^ (q - 2) := zpow_pos (by norm_num) _
  have hwidth : ((Rounding.of m q).low + 3 : ℚ) * 2 ^ (q - 2) ≤ (Rounding.of m q).high * 2 ^ (q - 2) := by
    apply mul_le_mul_of_nonneg_right _ hB.le
    rw [Rounding.of_low, Rounding.of_high]
    split <;> (rw [Nat.cast_sub (by omega)]; push_cast; linarith)
  have hstep : (10 : ℚ) ^ k < 3 * 2 ^ (q - 2) := by
    rw [two_zpow_sub_two] at hk
    linarith
  have hsum : ((GridView.of m q (Rounding.of m q) k).den : ℚ) + (GridView.of m q (Rounding.of m q) k).low <
      (GridView.of m q (Rounding.of m q) k).high := by
    rw [hlow, hhigh, hden, ← add_mul]
    apply mul_lt_mul_of_pos_right _ hP
    linarith
  have hsum' : (GridView.of m q (Rounding.of m q) k).den + (GridView.of m q (Rounding.of m q) k).low <
      (GridView.of m q (Rounding.of m q) k).high := by
    exact_mod_cast hsum
  omega

theorem stripZeros_value (d : Nat) (k : Int) (n : Nat) :
    ((stripZeros d k n).1 : ℚ) * 10 ^ (stripZeros d k n).2 = d * 10 ^ k := by
  induction n generalizing d k with
  | zero => rfl
  | succ n ih =>
    unfold stripZeros
    split
    next h =>
      obtain ⟨c, rfl⟩ := Nat.dvd_of_mod_eq_zero h.2
      rw [ih, Nat.mul_div_cancel_left c (by norm_num), zpow_add_one₀ (by norm_num)]
      push_cast
      ring
    next => rfl

theorem searchGrids_inRounding {m : Nat} {q : Int} {tie : TieBreak} {s : Shortest} :
    ∀ (k : Int) (fuel : Nat), searchGrids m q tie k fuel = some s →
      InRounding ((s.digits : ℚ) * 10 ^ s.exponent) m q := by
  intro k fuel h
  induction fuel generalizing k with
  | zero => cases h
  | succ fuel ih =>
    unfold searchGrids at h
    split at h
    next d hd =>
      cases h
      rw [stripZeros_value]
      exact inRounding_of_pickOnGrid hd
    next => exact ih (k - 1) h

theorem searchGrids_isSome {m : Nat} {q : Int} (tie : TieBreak) (hm : 0 < m) :
    ∀ (k : Int) (fuel j d : Nat), j < fuel →
      (GridView.of m q (Rounding.of m q) (k - j)).holds (Rounding.of m q).closed d = true →
      (searchGrids m q tie k fuel).isSome := by
  intro k fuel
  induction fuel generalizing k with
  | zero => intro j d hj; omega
  | succ fuel ih =>
    intro j d hj hd
    unfold searchGrids
    split
    next => rfl
    next hnone =>
      cases j with
      | zero =>
        have := pickOnGrid_isSome tie hm (by simpa using hd)
        simp [hnone] at this
      | succ j =>
        refine ih (k - 1) j d (by omega) ?_
        rw [show k - 1 - (j : Int) = k - ((j + 1 : Nat) : Int) by push_cast; ring]
        exact hd

/-! ### The first grid and the last -/

theorem startGrid_mono {m m' : Nat} (q : Int) (h : m.log2 ≤ m'.log2) :
    startGrid m q ≤ startGrid m' q := by
  simp only [startGrid]
  split <;> split <;> omega

theorem pow_le_pow_of_mul_le {u v p q e b : Nat} (hu : 0 < u) (hq : q ≠ 0) (huv : u ^ p ≤ v ^ q)
    (he : e * q ≤ b * p) : u ^ e ≤ v ^ b := by
  have h : (u ^ e) ^ q ≤ (v ^ b) ^ q :=
    calc (u ^ e) ^ q = u ^ (e * q) := by rw [← pow_mul]
      _ ≤ u ^ (b * p) := Nat.pow_le_pow_right hu he
      _ = (u ^ p) ^ b := by rw [mul_comm, pow_mul]
      _ ≤ (v ^ q) ^ b := Nat.pow_le_pow_left huv b
      _ = (v ^ b) ^ q := by rw [← pow_mul, ← pow_mul, mul_comm]
  exact (Nat.pow_le_pow_iff_left hq).1 h

theorem ten_pow_le_two_pow : 10 ^ 78913 ≤ 2 ^ 262144 := by decide +kernel

theorem two_pow_le_ten_pow : 2 ^ 262144 ≤ 10 ^ 78914 := by decide +kernel

theorem ten_pow_estimate_le (b : Nat) : 10 ^ (b * 78913 / 262144) ≤ 2 ^ b :=
  pow_le_pow_of_mul_le (by norm_num) (by norm_num) ten_pow_le_two_pow (Nat.div_mul_le_self _ _)

theorem two_pow_le_ten_pow_estimate {a : Nat} (ha : a ≤ 262144) :
    2 ^ a ≤ 10 ^ (a * 78913 / 262144 + 2) :=
  pow_le_pow_of_mul_le (by norm_num) (by norm_num) two_pow_le_ten_pow (by omega)

theorem log2_largestMantissa : (Nat.pow 2 53 - 1).log2 = 52 := by
  have hlo : 52 ≤ (Nat.pow 2 53 - 1).log2 := (Nat.le_log2 (by decide)).2 (by decide)
  have hhi : (Nat.pow 2 53 - 1).log2 < 53 := (Nat.log2_lt (by decide)).2 (by decide)
  omega

/-- For the largest mantissa, the first grid of the search, two steps finer, is at most a hundred
times `2^(53 + q)`, the top of the double's binade. -/
theorem ten_zpow_startGrid_le {q : Int} (h1 : leastExponent ≤ q) :
    (10 : ℚ) ^ (startGrid (Nat.pow 2 53 - 1) q - 2) ≤ 100 * 2 ^ (53 + q) := by
  have hS : startGrid (Nat.pow 2 53 - 1) q - 2 =
      if 53 + q ≥ 0 then (53 + q) * 78913 / 262144 else -((-(53 + q)) * 78913 / 262144) := by
    simp only [startGrid, log2_largestMantissa]
    push_cast
    ring_nf
  rw [hS]
  split
  next hb =>
    obtain ⟨b, hb'⟩ : ∃ b : Nat, 53 + q = b := ⟨(53 + q).toNat, by omega⟩
    rw [hb', show (b : Int) * 78913 / 262144 = ((b * 78913 / 262144 : Nat) : Int) by push_cast; rfl,
      zpow_natCast, zpow_natCast]
    have hq : ((10 ^ (b * 78913 / 262144) : Nat) : ℚ) ≤ ((2 ^ b : Nat) : ℚ) := by
      exact_mod_cast ten_pow_estimate_le b
    push_cast at hq
    have : (0 : ℚ) ≤ 2 ^ b := by positivity
    linarith
  next hb =>
    obtain ⟨a, ha⟩ : ∃ a : Nat, -(53 + q) = a := ⟨(-(53 + q)).toNat, by omega⟩
    have hale : a ≤ 262144 := by unfold leastExponent at h1; omega
    rw [ha, show 53 + q = -(a : Int) by omega,
      show (a : Int) * 78913 / 262144 = ((a * 78913 / 262144 : Nat) : Int) by push_cast; rfl,
      zpow_neg, zpow_neg, zpow_natCast, zpow_natCast]
    have hq : ((2 ^ a : Nat) : ℚ) ≤ ((10 ^ (a * 78913 / 262144 + 2) : Nat) : ℚ) := by
      exact_mod_cast two_pow_le_ten_pow_estimate hale
    push_cast at hq
    rw [pow_add] at hq
    have h10 : (0 : ℚ) < 10 ^ (a * 78913 / 262144) := by positivity
    have h2 : (0 : ℚ) < 2 ^ a := by positivity
    rw [inv_le_iff_one_le_mul₀ h10, ← div_eq_mul_inv, div_mul_eq_mul_div, le_div_iff₀ h2]
    norm_num at hq
    linarith

/-- For the largest mantissa, the 24th grid of the search is finer than three quarters of `2^q`:
twenty-one more steps of ten outweigh the hundred and the `2^53` of `ten_zpow_startGrid_le`. -/
theorem lastGrid_fine_rat {q : Int} (h1 : leastExponent ≤ q) :
    4 * (10 : ℚ) ^ (startGrid (Nat.pow 2 53 - 1) q - 23) < 3 * 2 ^ q := by
  have hgrid := ten_zpow_startGrid_le h1
  have hsplit : (10 : ℚ) ^ (startGrid (Nat.pow 2 53 - 1) q - 23) =
      10 ^ (startGrid (Nat.pow 2 53 - 1) q - 2) / 10 ^ 21 := by
    rw [show startGrid (Nat.pow 2 53 - 1) q - 23 = startGrid (Nat.pow 2 53 - 1) q - 2 - (21 : Nat) by
      push_cast; ring, zpow_sub₀ (by norm_num), zpow_natCast]
  have hbin : (2 : ℚ) ^ (53 + q) = 2 ^ 53 * 2 ^ q := by
    rw [zpow_add₀ (by norm_num)]
    norm_num
  have hpos : (0 : ℚ) < 2 ^ q := zpow_pos (by norm_num) q
  rw [hbin] at hgrid
  rw [hsplit]
  calc 4 * ((10 : ℚ) ^ (startGrid (Nat.pow 2 53 - 1) q - 2) / 10 ^ 21)
      ≤ 4 * (100 * (2 ^ 53 * 2 ^ q) / 10 ^ 21) := by gcongr
    _ = 400 * 2 ^ 53 / 10 ^ 21 * 2 ^ q := by ring
    _ < 3 * 2 ^ q := mul_lt_mul_of_pos_right (by norm_num) hpos

/-- The search from `startGrid` reaches, within its 24 grids, one fine enough to hold a point
of the interval. -/
theorem searchGrids_startGrid_isSome {m : Nat} {q : Int} (tie : TieBreak) (h : PositiveDouble m q) :
    (searchGrids m q tie (startGrid m q) 24).isSome := by
  have hlog : m.log2 ≤ (Nat.pow 2 53 - 1).log2 := by
    have hm : m.log2 < 53 := (Nat.log2_lt h.pos.ne').2 h.lt
    have htop : 52 ≤ (Nat.pow 2 53 - 1).log2 := (Nat.le_log2 (by decide)).2 (by decide)
    omega
  have hk : 4 * (10 : ℚ) ^ (startGrid m q - 23) < 3 * 2 ^ q :=
    calc 4 * (10 : ℚ) ^ (startGrid m q - 23)
        ≤ 4 * 10 ^ (startGrid (Nat.pow 2 53 - 1) q - 23) := by
          gcongr
          · norm_num
          · exact startGrid_mono q hlog
      _ < 3 * 2 ^ q := lastGrid_fine_rat h.ge
  have hd := GridView.holds_of_den_lt (Rounding.of m q).closed (GridView.of_bounds q _ h.pos).2.2.2
    (GridView.den_lt_width h.pos hk)
  exact searchGrids_isSome tie h.pos (startGrid m q) 24 23 _ (by norm_num) (by simpa using hd)

/-- The shortest digits of a positive double read back as that double. -/
theorem shortest_readsBack {m : Nat} {q : Int} (tie : TieBreak) (h : PositiveDouble m q) :
    ReadsBackAs (((shortest m q tie).digits : ℚ) * 10 ^ (shortest m q tie).exponent) m q := by
  obtain ⟨s, hs⟩ := Option.isSome_iff_exists.1 (searchGrids_startGrid_isSome tie h)
  rw [readsBackAs_iff_inRounding h.pos, shortest, hs, Option.getD_some]
  exact searchGrids_inRounding _ _ hs

end EntitySchema.Decimal
