import EntitySchema.Proofs.ShortestDigits
import EntitySchema.Target.Spelling

/-!
# Integer and floating literals

The C family and Rust share a core of decimal literal syntax. An integer literal is decimal
digits, with no leading zero unless it is `0` (a leading zero makes C++ and Java read octal),
after a minus for a negative value; Java marks a long with `L`. A floating literal is digits,
then a point and digits, or an exponent `e`, an optional minus and digits, or both; the C family
marks a float32 with `f`. `FloatParts` are the pieces of such a literal and their decimal value.

A double is written in the debugging notation: `0.0` for a zero, and otherwise its shortest
digits, positionally or in scientific form. Both forms are floating literals of the shared
syntax whose value reads back as the double (`floatLiteralOf_iff`), so the text names the double
exactly, for every finite double. The infinities are written `inf` and `-inf`, and NaN `NaN`:
no literal at all.
-/

namespace EntitySchema

open Decimal

/-! ### Decoded doubles -/

namespace Decimal

theorem toNat_fraction_lt (b : UInt64) : (b &&& 0xFFFFFFFFFFFFF).toNat < Nat.pow 2 52 := by
  rw [UInt64.toNat_and]
  show b.toNat &&& 0xFFFFFFFFFFFFF < 0x10000000000000
  exact Nat.lt_of_le_of_lt Nat.and_le_right (by decide)

theorem toNat_biased_le (b : UInt64) : ((b >>> 52) &&& 0x7FF).toNat ≤ 0x7FF := by
  rw [UInt64.toNat_and]
  exact Nat.and_le_right

/-- A finite double with a nonzero mantissa decodes to a positive double's mantissa and
exponent. -/
theorem Binary64.positiveDouble_of_ofBits {b : UInt64} {neg : Bool} {m : Nat} {q : Int}
    (h : Binary64.ofBits b = .finite neg m q) (hm : m ≠ 0) : PositiveDouble m q := by
  have hfrac := toNat_fraction_lt b
  have hbiased := toNat_biased_le b
  unfold Binary64.ofBits at h
  generalize ((b >>> 52) &&& 0x7FF).toNat = biased at h hbiased
  generalize (b &&& 0xFFFFFFFFFFFFF).toNat = fraction at h hfrac
  have hp52 : Nat.pow 2 52 = 4503599627370496 := rfl
  have hp53 : Nat.pow 2 53 = 9007199254740992 := rfl
  have hpf : Nat.pow 2 fractionBits = 4503599627370496 := rfl
  dsimp only at h
  split at h
  next => split at h <;> cases h
  next h7 =>
    split at h
    next h0 =>
      cases h
      exact ⟨by omega, by omega, le_rfl, by unfold leastExponent greatestExponent; omega,
        fun hq => absurd hq (lt_irrefl _)⟩
    next h0 =>
      cases h
      simp only [beq_iff_eq] at h7 h0
      refine ⟨by omega, by omega, ?_, ?_, fun _ => by omega⟩
      · unfold leastExponent
        omega
      · unfold greatestExponent
        omega

end Decimal

/-! ### Decimal digits -/

/-- The characters of a number in decimal, most significant first, as `Nat.toDigits` gives
them, have no leading zero unless the number is zero. -/
theorem head?_toDigits_ten (n : Nat) (h : (Nat.toDigits 10 n).head? = some '0') : n = 0 := by
  induction n using Nat.strongRecOn with
  | _ n ih =>
    rw [Nat.toDigits_eq_if (by decide)] at h
    split at h
    next hn =>
      have hdigit : ∀ k < 10, (Nat.digitChar k = '0') = (k = 0) := by decide
      simpa [hdigit n hn] using h
    next hn =>
      obtain ⟨c, cs, hcs⟩ := List.exists_cons_of_ne_nil (Nat.toDigits_ne_nil (b := 10) (n := n / 10))
      rw [hcs, List.cons_append, List.head?_cons] at h
      have hhead : (Nat.toDigits 10 (n / 10)).head? = some '0' := by
        rw [hcs, List.head?_cons, h]
      exact absurd (ih (n / 10) (by omega) hhead) (by omega)

namespace Target

/-- Decimal digits without a leading zero, unless they are `0`: what all four languages read
as a decimal integer. -/
structure DecimalDigits (ds : List Char) : Prop where
  ne_nil : ds ≠ []
  digits : ∀ c ∈ ds, c.isDigit = true
  no_leading_zero : ds.head? = some '0' → ds = ['0']

theorem decimalDigits_toDigits (n : Nat) : DecimalDigits (Nat.toDigits 10 n) where
  ne_nil := Nat.toDigits_ne_nil
  digits _ hc := Nat.isDigit_of_mem_toDigits (by decide) (by decide) hc
  no_leading_zero h := by
    rw [head?_toDigits_ten n h]
    rfl

theorem toList_int_repr (i : Int) :
    i.repr.toList = (if i < 0 then ['-'] else []) ++ Nat.toDigits 10 i.natAbs := by
  cases i with
  | ofNat n => simp [Int.repr, Nat.repr_eq_ofList_toDigits]
  | negSucc n => simp [Int.repr, Nat.repr_eq_ofList_toDigits, Int.negSucc_lt_zero]

/-! ### Integer literals -/

namespace Language

/-- The suffix of an integer literal: Java marks a u32, which it holds in a long, with `L`. -/
def integerSuffix : Language → PrimitiveKind → String
  | .java, .u32 => "L"
  | _, _ => ""

theorem integerLiteral_eq (l : Language) (k : PrimitiveKind) (n : Int) :
    l.integerLiteral k n = toString n ++ l.integerSuffix k := by
  cases l <;> cases k <;> simp [integerLiteral, integerSuffix]

end Language

/-- `text` is an integer literal of `l` for a field of kind `k` standing for `n`: a minus for a
negative `n`, the decimal digits of its magnitude, and the language's suffix. -/
def IntegerLiteralOf (l : Language) (k : PrimitiveKind) (n : Int) (text : String) : Prop :=
  ∃ ds, DecimalDigits ds ∧ Nat.ofDigitChars 10 ds 0 = n.natAbs ∧
    text.toList = (if n < 0 then ['-'] else []) ++ ds ++ (l.integerSuffix k).toList

/-- Every integer default is written as an integer literal of its value. -/
theorem integerLiteralOf_integerLiteral (l : Language) (k : PrimitiveKind) (n : Int) :
    IntegerLiteralOf l k n (l.integerLiteral k n) := by
  refine ⟨Nat.toDigits 10 n.natAbs, decimalDigits_toDigits _, Nat.ofDigitChars_ten_toDigits, ?_⟩
  rw [Language.integerLiteral_eq, String.toList_append]
  exact congrArg (· ++ _) (toList_int_repr n)

/-! ### Floating literals -/

/-- The pieces of a decimal floating literal without sign or suffix: the digits before the
point, those after it (none when there is no point), and the exponent after `e` with its sign,
if there is one. -/
structure FloatParts where
  whole : List Char
  frac : List Char
  exponent : Option (Bool × List Char)

namespace FloatParts

/-- The value of an exponent part; none counts as zero. -/
def exponentValue : Option (Bool × List Char) → Int
  | none => 0
  | some (negative, ds) =>
    if negative then -(Nat.ofDigitChars 10 ds 0 : Int) else (Nat.ofDigitChars 10 ds 0 : Int)

/-- The characters of the literal: the whole digits, a point and the fraction when there is
one, then `e`, a minus when negative, and the exponent digits when there is an exponent. -/
def chars (p : FloatParts) : List Char :=
  p.whole ++ (if p.frac = [] then [] else '.' :: p.frac) ++
    match p.exponent with
    | none => []
    | some (negative, ds) => 'e' :: ((if negative then ['-'] else []) ++ ds)

def value (p : FloatParts) : ℚ :=
  (Nat.ofDigitChars 10 (p.whole ++ p.frac) 0 : ℚ) * 10 ^ (exponentValue p.exponent - p.frac.length)

/-- The pieces form a literal of the grammar the four languages share. -/
structure Valid (p : FloatParts) : Prop where
  whole_ne_nil : p.whole ≠ []
  whole_digits : ∀ c ∈ p.whole, c.isDigit = true
  frac_digits : ∀ c ∈ p.frac, c.isDigit = true
  point_or_exponent : p.frac ≠ [] ∨ p.exponent.isSome = true
  exponent_digits : ∀ e ∈ p.exponent, e.2 ≠ [] ∧ ∀ c ∈ e.2, c.isDigit = true

end FloatParts

/-- `body` is a decimal floating literal of the shared grammar, of value `v`. -/
def FloatBody (body : List Char) (v : ℚ) : Prop :=
  ∃ p : FloatParts, p.Valid ∧ p.chars = body ∧ p.value = v

theorem isDigit_of_mem_toDigits_ten {n : Nat} {c : Char} (h : c ∈ Nat.toDigits 10 n) :
    c.isDigit = true :=
  Nat.isDigit_of_mem_toDigits (by decide) (by decide) h

theorem ofDigitChars_zero_cons (cs : List Char) (init : Nat) :
    Nat.ofDigitChars 10 ('0' :: cs) init = Nat.ofDigitChars 10 cs (10 * init) := by
  rw [Nat.ofDigitChars_cons]
  rfl

/-- Digits written positionally, with a point and at least one digit after it, are a floating
literal of their value. -/
theorem floatBody_positional (d : Nat) (k : Int) :
    FloatBody (positional true (digitText d) k).toList ((d : ℚ) * 10 ^ k) := by
  have hval : Nat.ofDigitChars 10 (Nat.toDigits 10 d) 0 = d := Nat.ofDigitChars_ten_toDigits
  have hne := Nat.toDigits_ne_nil (b := 10) (n := d)
  have hlen : ((digitText d).length : Int) = (Nat.toDigits 10 d).length := by
    simp [digitText]
  unfold positional
  simp only [hlen]
  generalize hds : Nat.toDigits 10 d = ds at hval hne
  have hdig : ∀ c ∈ ds, c.isDigit = true := fun c hc => isDigit_of_mem_toDigits_ten (hds ▸ hc)
  split
  next hk =>
    refine ⟨⟨ds ++ List.replicate k.toNat '0', ['0'], none⟩, ⟨by simp [hne], ?_, by simp, by simp,
      by simp⟩, ?_, ?_⟩
    · intro c hc
      rcases List.mem_append.1 hc with hc | hc
      · exact hdig c hc
      · rw [List.eq_of_mem_replicate hc]
        rfl
    · simp [FloatParts.chars, digitText, zeros, hds]
    · simp only [FloatParts.value, FloatParts.exponentValue, List.append_assoc,
        Nat.ofDigitChars_append, Nat.ofDigitChars_replicate_zero, hval]
      rw [Nat.ofDigitChars_cons, Nat.ofDigitChars_nil, ← Int.toNat_of_nonneg hk, zpow_natCast]
      simp only [Nat.sub_self, Nat.add_zero, List.length_singleton, Nat.cast_mul, Nat.cast_pow,
        Nat.cast_ofNat, Int.toNat_natCast]
      rw [show (0 : Int) - (1 : Nat) = -1 by rfl, zpow_neg_one]
      field_simp
  next hk =>
    split
    next hw =>
      have hw' : ((ds.length + k).toNat : Int) = ds.length + k := Int.toNat_of_nonneg (by omega)
      generalize (ds.length + k).toNat = w at hw' ⊢
      have htake : ds.take w ≠ [] := by
        simp only [ne_eq, List.take_eq_nil_iff, not_or]
        exact ⟨by omega, hne⟩
      have hdrop : ds.drop w ≠ [] := by
        simp only [ne_eq, List.drop_eq_nil_iff]
        omega
      refine ⟨⟨ds.take w, ds.drop w, none⟩,
        ⟨htake, fun c hc => hdig c (List.mem_of_mem_take hc),
          fun c hc => hdig c (List.mem_of_mem_drop hc), .inl hdrop, by simp⟩, ?_, ?_⟩
      · simp [FloatParts.chars, digitText, hds, hdrop]
      · have hexp : FloatParts.exponentValue none - ((ds.drop w).length : Int) = k := by
          simp only [FloatParts.exponentValue, List.length_drop]
          omega
        simp only [FloatParts.value, List.take_append_drop, hval]
        rw [hexp]
    next hw =>
      have hz : ((-(ds.length + k)).toNat : Int) = -(ds.length + k) := Int.toNat_of_nonneg (by omega)
      generalize (-(ds.length + k)).toNat = z at hz ⊢
      refine ⟨⟨['0'], List.replicate z '0' ++ ds, none⟩,
        ⟨by simp, by simp, ?_, .inl (by simp [hne]), by simp⟩, ?_, ?_⟩
      · intro c hc
        rcases List.mem_append.1 hc with hc | hc
        · rw [List.eq_of_mem_replicate hc]
          rfl
        · exact hdig c hc
      · simp [FloatParts.chars, digitText, zeros, hds, hne]
      · have hexp : FloatParts.exponentValue none - ((List.replicate z '0' ++ ds).length : Int) = k := by
          simp only [FloatParts.exponentValue, List.length_append, List.length_replicate]
          omega
        simp only [FloatParts.value, List.cons_append, List.nil_append, ofDigitChars_zero_cons,
          Nat.ofDigitChars_append, Nat.ofDigitChars_replicate_zero, Nat.mul_zero, hval]
        rw [hexp]

theorem exponentValue_toDigits (i : Int) :
    FloatParts.exponentValue (some (decide (i < 0), Nat.toDigits 10 i.natAbs)) = i := by
  simp only [FloatParts.exponentValue, Nat.ofDigitChars_ten_toDigits, decide_eq_true_eq]
  split <;> omega

/-- Digits written in scientific form, one before the point, are a floating literal of their
value. -/
theorem floatBody_scientific (d : Nat) (k : Int) :
    FloatBody (scientific false (digitText d) k).toList ((d : ℚ) * 10 ^ k) := by
  have hval : Nat.ofDigitChars 10 (Nat.toDigits 10 d) 0 = d := Nat.ofDigitChars_ten_toDigits
  have hne := Nat.toDigits_ne_nil (b := 10) (n := d)
  have hdig : ∀ c ∈ Nat.toDigits 10 d, c.isDigit = true := fun c hc => isDigit_of_mem_toDigits_ten hc
  unfold scientific
  simp only [digitText, String.length_ofList, String.toList_ofList, Bool.false_and,
    Bool.false_eq_true, if_false]
  generalize Nat.toDigits 10 d = ds at hval hne hdig
  obtain ⟨c, rest, rfl⟩ := List.exists_cons_of_ne_nil hne
  have hexp : FloatParts.exponentValue
      (some (decide (k + ((c :: rest).length : Int) - 1 < 0),
        Nat.toDigits 10 (k + ((c :: rest).length : Int) - 1).natAbs)) - (rest.length : Int) = k := by
    rw [exponentValue_toDigits, List.length_cons]
    omega
  refine ⟨⟨[c], rest, some (decide (k + ((c :: rest).length : Int) - 1 < 0),
      Nat.toDigits 10 (k + ((c :: rest).length : Int) - 1).natAbs)⟩,
    ⟨by simp, by simp [hdig c (by simp)], fun x hx => hdig x (by simp [hx]), .inr rfl, ?_⟩, ?_, ?_⟩
  · intro e he
    rw [Option.mem_def, Option.some.injEq] at he
    subst he
    exact ⟨Nat.toDigits_ne_nil, fun x hx => isDigit_of_mem_toDigits_ten hx⟩
  · cases rest with
    | nil => simp [FloatParts.chars, toList_int_repr]
    | cons c' rest => simp [FloatParts.chars, toList_int_repr]
  · simp only [FloatParts.value, List.singleton_append, hval]
    rw [hexp]

/-- The debugging text of a positive magnitude is a floating literal of its shortest digits'
value. -/
theorem floatBody_magnitude (m : Nat) (q : Int) :
    FloatBody (Notation.debug.magnitude m q).toList
      (((shortest m q .up).digits : ℚ) * 10 ^ (shortest m q .up).exponent) := by
  unfold Notation.magnitude
  dsimp only
  split
  · exact floatBody_positional _ _
  · exact floatBody_scientific _ _

@[simp] theorem toList_sign (negative : Bool) :
    (if negative then "-" else "").toList = if negative then ['-'] else [] := by
  cases negative <;> rfl

theorem write_of_finite {x : Float} {neg : Bool} {m : Nat} {q : Int}
    (h : Binary64.ofFloat x = .finite neg m q) :
    Notation.debug.write x =
      (if neg then "-" else "") ++ (if m = 0 then "0.0" else Notation.debug.magnitude m q) := by
  unfold Notation.write
  rw [h]
  by_cases hm : m = 0 <;> simp [hm, Notation.debug]

theorem FloatBody.exists_digit_head {body : List Char} {v : ℚ} (h : FloatBody body v) :
    ∃ c rest, body = c :: rest ∧ c.isDigit = true := by
  obtain ⟨p, hp, rfl, -⟩ := h
  obtain ⟨c, rest, hw⟩ := List.exists_cons_of_ne_nil hp.whole_ne_nil
  simp only [FloatParts.chars, hw, List.cons_append]
  exact ⟨c, _, rfl, hp.whole_digits c (by simp [hw])⟩

namespace Language

/-- The suffix of a floating literal: `f` marks a float32 in the C family, while Rust takes the
type from the field. -/
def floatSuffix : Language → PrimitiveKind → String
  | .rust, _ => ""
  | _, .f32 => "f"
  | _, _ => ""

theorem floatLiteral_eq (l : Language) (k : PrimitiveKind) (x : Float) :
    l.floatLiteral k x = Literal.floatText x ++ l.floatSuffix k := by
  cases l <;> cases k <;> simp [floatLiteral, floatSuffix]

end Language

/-- `text` is lexically a floating literal of `l` for a field of kind `k`: a minus when
`negative`, a decimal of the shared grammar of value `v`, and the language's suffix. -/
def FloatText (l : Language) (k : PrimitiveKind) (text : String) (negative : Bool) (v : ℚ) :
    Prop :=
  ∃ body, text.toList = (if negative then ['-'] else []) ++ body ++ (l.floatSuffix k).toList ∧
    FloatBody body v

/-- `text` is a floating literal of `l` for a field of kind `k` standing for the double `x`:
its decimal is zero for a zero, and reads back as `x`'s magnitude otherwise. -/
def FloatLiteralOf (l : Language) (k : PrimitiveKind) (x : Float) (text : String) : Prop :=
  ∃ neg m q, Binary64.ofFloat x = .finite neg m q ∧
    ∃ v, FloatText l k text neg v ∧ if m = 0 then v = 0 else ReadsBackAs v m q

/-- A finite double is written as a floating literal that reads back as it. -/
theorem floatLiteralOf_floatLiteral {x : Float} {neg : Bool} {m : Nat} {q : Int}
    (h : Binary64.ofFloat x = .finite neg m q) (l : Language) (k : PrimitiveKind) :
    FloatLiteralOf l k x (l.floatLiteral k x) := by
  refine ⟨neg, m, q, h, ?_⟩
  rw [Language.floatLiteral_eq, Literal.floatText, write_of_finite h]
  by_cases hm : m = 0
  · refine ⟨0, ⟨['0', '.', '0'], by simp [hm], ⟨['0'], ['0'], none⟩,
      ⟨by simp, by simp, by simp, by simp, by simp⟩, rfl, ?_⟩, by simp [hm]⟩
    simp [FloatParts.value, FloatParts.exponentValue, Nat.ofDigitChars]
  · refine ⟨_, ⟨(Notation.debug.magnitude m q).toList, by simp [hm], floatBody_magnitude m q⟩, ?_⟩
    rw [if_neg hm]
    exact shortest_readsBack .up (Binary64.positiveDouble_of_ofBits h hm)

/-- An infinity or NaN is written as a word, `inf`, `-inf` or `NaN`, which is no floating
literal, negated or not. -/
theorem not_floatText_of_not_finite {x : Float} (h : ∀ neg m q, Binary64.ofFloat x ≠ .finite neg m q)
    (l : Language) (k : PrimitiveKind) (negative : Bool) (v : ℚ) :
    ¬ FloatText l k (l.floatLiteral k x) negative v := by
  rintro ⟨body, htext, hbody⟩
  obtain ⟨c, rest, rfl, hc⟩ := hbody.exists_digit_head
  rw [Language.floatLiteral_eq, Literal.floatText] at htext
  unfold Notation.write at htext
  split at htext
  · cases negative <;> simp at htext
    simp [← htext.1] at hc
  · split at htext <;> cases negative <;> simp at htext <;> simp [← htext.1] at hc
  · next neg m q hx => exact h neg m q hx

/-- A floating default is written as a literal that reads back as it exactly when it is
finite. -/
theorem floatLiteralOf_iff (l : Language) (k : PrimitiveKind) (x : Float) :
    FloatLiteralOf l k x (l.floatLiteral k x) ↔ ∃ neg m q, Binary64.ofFloat x = .finite neg m q := by
  constructor
  · rintro ⟨neg, m, q, h, -⟩
    exact ⟨neg, m, q, h⟩
  · rintro ⟨neg, m, q, h⟩
    exact floatLiteralOf_floatLiteral h l k

end Target

end EntitySchema
