import EntitySchema.Schema.SourceLiteral
import EntitySchema.Target.Spelling

/-! # Reading C++ defaults back as source text

A default can be given as source text (in documents that list their fields under `members`),
and the C++ writer spells defaults as C++ source. For the kinds that are not floating, reading
the C++ spelling of an accepted default back as source text gives the default again, with one
exception (`cppDefault_readBack`): the writer spells an ASCII control character other than line
feed, carriage return and tab as a backslash and three octal digits, while the source reader
knows only the escapes `\n`, `\t`, `\r` and `\0` and takes any other escaped character as
itself, so it reads the octal escape as three characters.

On strings this comes down to one character at a time: the reader undoes each escape the
writer makes and turns an octal escape into three characters (`unescapeSource_quoted`).
Integers are written in decimal and read back within the signed 64-bit range
(`readInt64?_toString`); booleans are `true` and `false`.
-/

namespace EntitySchema

open Target

/-- An ASCII control character that the C family writes with the language's own escape: all of
them but line feed, carriage return and tab. -/
def otherControl (c : Char) : Bool := isAsciiControl c && c != '\n' && c != '\r' && c != '\t'

/-! ## Trimming -/

theorem dropWhile_eq_self {p : Char → Bool} {l : List Char} (h : ∀ c ∈ l.head?, p c = false) :
    l.dropWhile p = l := by
  cases l with
  | nil => rfl
  | cons c rest => exact List.dropWhile_cons_of_neg (by simpa using h c rfl)

theorem trimBlank_eq_self {s : String} (hhead : ∀ c ∈ s.toList.head?, Text.isBlank c = false)
    (hlast : ∀ c ∈ s.toList.getLast?, Text.isBlank c = false) : Text.trimBlank s = s := by
  unfold Text.trimBlank
  rw [dropWhile_eq_self hhead, dropWhile_eq_self (by rwa [List.head?_reverse]),
    List.reverse_reverse, String.ofList_toList]

/-! ## Quoted strings -/

theorem unescapeSource_cons {c : Char} (h : c ≠ '\\') (rest : List Char) :
    unescapeSource (c :: rest) = (c :: ·) <$> unescapeSource rest := by
  rw [unescapeSource.eq_def]
  split
  · nomatch ‹c :: rest = []›
  · simp_all
  · simp_all

theorem unescapeSource_backslash (c : Char) (rest : List Char) :
    ∃ d, unescapeSource ('\\' :: c :: rest) = (d :: ·) <$> unescapeSource rest :=
  ⟨_, rfl⟩

theorem unescapeSource_quoteCChar {control : Char → String} {c : Char}
    (hc : otherControl c = false) (rest : List Char) :
    unescapeSource ((quoteCChar control c).toList ++ rest) = (c :: ·) <$> unescapeSource rest := by
  by_cases h₁ : c = '"'
  · subst c; simp only [quoteCChar]; rfl
  by_cases h₂ : c = '\\'
  · subst c; simp only [quoteCChar]; rfl
  by_cases h₃ : c = '\n'
  · subst c; simp only [quoteCChar]; rfl
  by_cases h₄ : c = '\r'
  · subst c; simp only [quoteCChar]; rfl
  by_cases h₅ : c = '\t'
  · subst c; simp only [quoteCChar]; rfl
  have hctl : isAsciiControl c = false := by simpa [otherControl, h₃, h₄, h₅] using hc
  have hq : quoteCChar control c = c.toString := by
    unfold quoteCChar
    split <;> simp_all
  have hchar : c.toString.toList = [c] := by simp
  rw [hq, hchar, List.singleton_append, unescapeSource_cons h₂]

theorem octalDigit_ne_backslash (k : Nat) : Char.ofNat (48 + k % 8) ≠ '\\' := by
  have hsmall : ∀ j < 8, Char.ofNat (48 + j) ≠ '\\' := by decide
  exact hsmall (k % 8) (Nat.mod_lt k (by decide))

/-- An octal escape is read back as three characters: whatever the reader makes of the first
digit, then the other two digits. -/
theorem unescapeSource_octal {c : Char} (hc : otherControl c = true) (rest : List Char) :
    ∃ x, unescapeSource ((quoteCChar (fun c => "\\" ++ octal3 c.toNat) c).toList ++ rest) =
      ([x, Char.ofNat (48 + c.toNat / 8 % 8), Char.ofNat (48 + c.toNat % 8)] ++ ·) <$>
        unescapeSource rest := by
  simp only [otherControl, Bool.and_eq_true, bne_iff_ne, ne_eq] at hc
  obtain ⟨⟨⟨hctl, h₃⟩, h₄⟩, h₅⟩ := hc
  have h₁ : c ≠ '"' := by rintro rfl; simp [isAsciiControl] at hctl
  have h₂ : c ≠ '\\' := by rintro rfl; simp [isAsciiControl] at hctl
  have hq : quoteCChar (fun c => "\\" ++ octal3 c.toNat) c = "\\" ++ octal3 c.toNat := by
    unfold quoteCChar
    split <;> simp_all
  have hbackslash : "\\".toList = ['\\'] := rfl
  rw [hq, String.toList_append, hbackslash, octal3, String.toList_ofList]
  simp only [List.cons_append, List.nil_append]
  obtain ⟨x, hx⟩ := unescapeSource_backslash (Char.ofNat (48 + c.toNat / 64 % 8))
    (Char.ofNat (48 + c.toNat / 8 % 8) :: Char.ofNat (48 + c.toNat % 8) :: rest)
  rw [hx, unescapeSource_cons (octalDigit_ne_backslash _),
    unescapeSource_cons (octalDigit_ne_backslash _)]
  simp only [Functor.map_map]
  exact ⟨x, rfl⟩

/-- Reading back the body of a C++ string literal: one character for each character of the
string, three for each octal escape, and the string itself when there is no octal escape. -/
theorem unescapeSource_quoted (v : List Char) :
    ∃ w, unescapeSource (v.flatMap fun c =>
        (quoteCChar (fun c => "\\" ++ octal3 c.toNat) c).toList) = .ok w ∧
      w.length = v.length + 2 * v.countP otherControl ∧
      (v.countP otherControl = 0 → w = v) := by
  induction v with
  | nil => exact ⟨[], rfl, rfl, fun _ => rfl⟩
  | cons c v ih =>
    obtain ⟨w, hw, hlen, hsame⟩ := ih
    rw [List.flatMap_cons]
    cases hc : otherControl c
    · refine ⟨c :: w, by rw [unescapeSource_quoteCChar hc, hw]; rfl, ?_, fun h => ?_⟩
      · simp [hc, hlen]
        omega
      · rw [hsame (by simpa [List.countP_cons, hc] using h)]
    · obtain ⟨x, hx⟩ := unescapeSource_octal hc _
      refine ⟨_ :: _ :: _ :: w, by rw [hx, hw]; rfl, ?_, fun h => ?_⟩
      · simp [hc, hlen]
        omega
      · simp [hc] at h

/-- Reading a C++ string default back as source text gives the string exactly when it holds no
ASCII control character other than line feed, carriage return and tab. -/
theorem decodeSourceLiteral_cppString (v : String) :
    decodeSourceLiteral (Language.cpp.defaultSpelling (.primitive .string) (.string v)) =
        .ok (.string v) ↔ ∀ c ∈ v.toList, otherControl c = false := by
  obtain ⟨w, hw, hlen, hsame⟩ := unescapeSource_quoted v.toList
  have hspelled : (Language.cpp.defaultSpelling (.primitive .string) (.string v)).toList =
      '"' :: ((v.toList.flatMap fun c =>
        (quoteCChar (fun c => "\\" ++ octal3 c.toNat) c).toList) ++ ['"']) := by
    simp [Language.defaultSpelling, Language.stringLiteral, quoteC, String.toList_join,
      List.flatMap_map]
  have hdecode : decodeSourceLiteral (Language.cpp.defaultSpelling (.primitive .string) (.string v)) =
      .ok (.string (String.ofList w)) := by
    have hlast : ('"' :: ((v.toList.flatMap fun c =>
        (quoteCChar (fun c => "\\" ++ octal3 c.toNat) c).toList) ++ ['"'])).getLast? =
          some '"' := by
      rw [← List.cons_append, List.getLast?_concat]
    have htrim := trimBlank_eq_self (s := Language.cpp.defaultSpelling (.primitive .string) (.string v))
      (by simp [hspelled]; decide) (by rw [hspelled, hlast]; simp; decide)
    unfold decodeSourceLiteral
    simp only [htrim, hspelled]
    rw [if_pos ⟨by simp, rfl, hlast⟩]
    simp only [List.drop_one, List.tail_cons, List.dropLast_concat, hw]
    rfl
  have hnone : (∀ c ∈ v.toList, otherControl c = false) ↔ v.toList.countP otherControl = 0 := by
    simp [List.countP_eq_zero]
  rw [hdecode, Except.ok.injEq, Literal.string.injEq, hnone]
  constructor
  · intro h
    have hw' : w = v.toList := by rw [← String.toList_ofList (l := w), h]
    rw [hw'] at hlen
    omega
  · intro h
    rw [hsame h, String.ofList_toList]

/-! ## Integers -/

theorem digitsValue?_toDigits (m : Nat) : Decimal.digitsValue? (Nat.toDigits 10 m) = some m := by
  have hdigits : (Nat.toDigits 10 m).all Char.isDigit = true :=
    List.all_eq_true.2 fun c hc => Nat.isDigit_of_mem_toDigits (by decide) (by decide) hc
  have hfold : (Nat.toDigits 10 m).foldl (fun n c => n * 10 + (c.toNat - '0'.toNat)) 0 = m := by
    have h := Nat.ofDigitChars_ten_toDigits (n := m)
    rw [Nat.ofDigitChars_eq_foldl] at h
    have hstep : (fun n c => n * 10 + (c.toNat - '0'.toNat)) =
        fun (sofar : Nat) (c : Char) => 10 * sofar + (c.toNat - '0'.toNat) := by
      funext n c
      rw [Nat.mul_comm]
    rw [hstep]
    exact h
  unfold Decimal.digitsValue?
  rw [if_neg (by simp [hdigits]), hfold]

theorem toDigits_head_isDigit (m : Nat) :
    ∃ d rest, Nat.toDigits 10 m = d :: rest ∧ d.isDigit = true := by
  obtain ⟨d, rest, h⟩ := List.exists_cons_of_ne_nil (Nat.toDigits_ne_nil (n := m) (b := 10))
  exact ⟨d, rest, h, Nat.isDigit_of_mem_toDigits (by decide) (by decide) (h ▸ List.mem_cons_self)⟩

theorem splitSign_toDigits (m : Nat) : Decimal.splitSign (Nat.toDigits 10 m) = (false, Nat.toDigits 10 m) := by
  obtain ⟨d, rest, h, hd⟩ := toDigits_head_isDigit m
  rw [h]
  have h₁ : d ≠ '-' := by rintro rfl; simp at hd
  have h₂ : d ≠ '+' := by rintro rfl; simp at hd
  unfold Decimal.splitSign
  split <;> simp_all

theorem toList_toString_int (n : Int) :
    (toString n).toList = if 0 ≤ n then Nat.toDigits 10 n.toNat else '-' :: Nat.toDigits 10 (-n).toNat := by
  rw [Int.toString_eq_repr, Int.repr_eq_if]
  split <;> simp [Nat.toList_repr]

theorem readInt64?_toString {n : Int} (hlo : -(Nat.pow 2 63 : Int) ≤ n)
    (hhi : n < Nat.pow 2 63) : Decimal.readInt64? (toString n) = some n := by
  unfold Decimal.readInt64?
  rw [toList_toString_int]
  by_cases hn : 0 ≤ n
  · rw [if_pos hn, splitSign_toDigits]
    show (Decimal.digitsValue? (Nat.toDigits 10 n.toNat)).bind _ = _
    rw [digitsValue?_toDigits, Option.bind_some]
    dsimp only
    rw [if_neg Bool.false_ne_true, Int.toNat_of_nonneg hn, if_pos ⟨hlo, hhi⟩]
  · have hsplit : Decimal.splitSign ('-' :: Nat.toDigits 10 (-n).toNat) =
        (true, Nat.toDigits 10 (-n).toNat) := rfl
    rw [if_neg hn, hsplit]
    show (Decimal.digitsValue? (Nat.toDigits 10 (-n).toNat)).bind _ = _
    rw [digitsValue?_toDigits, Option.bind_some]
    dsimp only
    rw [if_pos rfl, Int.toNat_of_nonneg (by omega), Int.neg_neg, if_pos ⟨hlo, hhi⟩]

theorem mem_toString_int {n : Int} {c : Char} (h : c ∈ (toString n).toList) :
    c.isDigit = true ∨ c = '-' := by
  rw [toList_toString_int] at h
  split at h
  · exact .inl (Nat.isDigit_of_mem_toDigits (by decide) (by decide) h)
  · rcases List.mem_cons.1 h with rfl | h
    · exact .inr rfl
    · exact .inl (Nat.isDigit_of_mem_toDigits (by decide) (by decide) h)

/-- An integer of the signed 64-bit range, written in decimal, is read back as source text. -/
theorem decodeSourceLiteral_toString {n : Int} (hlo : -(Nat.pow 2 63 : Int) ≤ n)
    (hhi : n < Nat.pow 2 63) : decodeSourceLiteral (toString n) = .ok (.integer n) := by
  have hchars : ∀ c ∈ (toString n).toList, Text.isBlank c = false ∧ c ≠ '"' ∧ c ≠ 't' ∧ c ≠ 'f' := by
    intro c hc
    rcases mem_toString_int hc with hc | rfl
    · have hrange := Char.isDigit_iff_toNat.1 hc
      have h0 : '0'.toNat = 48 := rfl
      have h9 : '9'.toNat = 57 := rfl
      refine ⟨?_, ?_, ?_, ?_⟩
      · simp only [Text.isBlank, decide_eq_false_iff_not]
        omega
      all_goals rintro rfl; simp at hc
    · exact ⟨by decide, by decide, by decide, by decide⟩
  have htrim : Text.trimBlank (toString n) = toString n :=
    trimBlank_eq_self (fun c hc => (hchars c (List.mem_of_mem_head? hc)).1)
      (fun c hc => (hchars c (List.mem_of_mem_getLast? hc)).1)
  have hunquoted : ¬ (toString n).toList.head? = some '"' :=
    fun h => (hchars '"' (List.mem_of_mem_head? h)).2.1 rfl
  have htrue : (toString n == "true") = false := by
    rw [beq_eq_false_iff_ne]
    intro h
    exact (hchars 't' (by rw [h]; decide)).2.2.1 rfl
  have hfalse : (toString n == "false") = false := by
    rw [beq_eq_false_iff_ne]
    intro h
    exact (hchars 'f' (by rw [h]; decide)).2.2.2 rfl
  unfold decodeSourceLiteral
  simp only [htrim]
  rw [if_neg (fun h => hunquoted h.2.1), htrue, hfalse, readInt64?_toString hlo hhi]
  rfl

/-! ## Defaults of the kinds that are not floating -/

/-- Reading the C++ spelling of a default back as source text, for the kinds that are not
floating: an accepted default comes back as itself, except a string that holds an ASCII control
character other than line feed, carriage return and tab. -/
theorem cppDefault_readBack (k : PrimitiveKind) (hk : k ∈ [.string, .boolean, .u32, .i32])
    (l : Literal) (hl : k.accepts l = true) :
    decodeSourceLiteral (Language.cpp.defaultSpelling (.primitive k) l) = .ok l ↔
      ¬ ∃ v, l = .string v ∧ ∃ c ∈ v.toList, otherControl c = true := by
  have h63 : (Nat.pow 2 63 : Int) = 9223372036854775808 := rfl
  cases k with
  | string =>
    cases l with
    | string v =>
      rw [decodeSourceLiteral_cppString]
      simp
    | boolean _ | integer _ | float _ => simp [PrimitiveKind.accepts] at hl
  | boolean =>
    cases l with
    | boolean b => cases b <;> exact ⟨fun _ => by simp, fun _ => rfl⟩
    | string _ | integer _ | float _ => simp [PrimitiveKind.accepts] at hl
  | u32 =>
    cases l with
    | integer n =>
      have hrange : 0 ≤ n ∧ n < (Nat.pow 2 32 : Int) := by simpa [PrimitiveKind.accepts] using hl
      have h32 : (Nat.pow 2 32 : Int) = 4294967296 := rfl
      have hspelled : Language.cpp.defaultSpelling (.primitive .u32) (.integer n) = toString n := rfl
      rw [hspelled, decodeSourceLiteral_toString (by omega) (by omega)]
      simp
    | string _ | boolean _ | float _ => simp [PrimitiveKind.accepts] at hl
  | i32 =>
    cases l with
    | integer n =>
      have hrange : -(Nat.pow 2 31 : Int) ≤ n ∧ n < (Nat.pow 2 31 : Int) := by
        simpa [PrimitiveKind.accepts] using hl
      have h31 : (Nat.pow 2 31 : Int) = 2147483648 := rfl
      have hspelled : Language.cpp.defaultSpelling (.primitive .i32) (.integer n) = toString n := rfl
      rw [hspelled, decodeSourceLiteral_toString (by omega) (by omega)]
      simp
    | string _ | boolean _ | float _ => simp [PrimitiveKind.accepts] at hl
  | f32 | f64 => simp at hk

/-- A bell character in a string default: the hypotheses hold and the theorem applies. -/
theorem bellString_readBack :
    PrimitiveKind.string ∈ [.string, .boolean, .u32, .i32] ∧
      PrimitiveKind.string.accepts (.string "ding\x07") = true ∧
      (decodeSourceLiteral (Language.cpp.defaultSpelling (.primitive .string) (.string "ding\x07")) =
          .ok (.string "ding\x07") ↔
        ¬ ∃ v, Literal.string "ding\x07" = .string v ∧ ∃ c ∈ v.toList, otherControl c = true) :=
  ⟨List.mem_cons_self, rfl, cppDefault_readBack .string List.mem_cons_self _ rfl⟩

/-- The bell is written `\007` and read back as a NUL followed by the digits `0` and `7`. -/
example : decodeSourceLiteral (Language.cpp.defaultSpelling (.primitive .string) (.string "ding\x07")) =
    .ok (.string "ding\x0007") := by rfl

end EntitySchema
