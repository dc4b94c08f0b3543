import EntitySchema.Target.Spelling

/-!
# Reading string literals back

A regular string literal of C++, C#, Java or Rust is a quote, a body and a quote. The body is
read character by character: a backslash begins an escape, and any other character stands for
itself, except a quote, which would end the literal, and a character that ends a line, which a
regular literal may not hold. `StringRules` gives what differs between the languages: the escapes
read after a backslash, and the characters that end a line. C# counts next line (U+0085), line
separator (U+2028) and paragraph separator (U+2029) among them; the others only line feed and
carriage return.

The C family writes a string with `quoteC`, Rust with `debugQuote`. Reading the body back gives
the string whenever no character of it is written bare and ends a line (`read_quoteC`, and
`rustRules_read_debugEscape` for each Rust character; `read_stringBody` for every language). In
C++, Java and Rust that never happens; in C# it happens exactly to the three separators above,
which `quoteC` leaves as they are.
-/

namespace EntitySchema.Target

/-- How a language reads the body of a regular string literal. -/
structure StringRules where
  /-- Reads one escape from the characters after a backslash: the character it stands for and
  the characters after it. -/
  escape : List Char → Option (Char × List Char)
  escape_shorter : ∀ {cs c rest}, escape cs = some (c, rest) → rest.length < cs.length
  /-- Whether a character ends a line. -/
  breaksLine : Char → Bool

namespace StringRules

/-- The characters the body `cs` stands for, or `none` when it is no body: a bare quote or line
break stands in it, or a backslash begins no escape. -/
def read (r : StringRules) : List Char → Option (List Char)
  | [] => some []
  | c :: rest =>
    if c = '\\' then
      match _hesc : r.escape rest with
      | some (d, after) => (r.read after).map (d :: ·)
      | none => none
    else if c = '"' ∨ r.breaksLine c = true then none
    else (r.read rest).map (c :: ·)
termination_by cs => cs.length
decreasing_by
  · have := r.escape_shorter _hesc
    simp only [List.length_cons]
    omega
  · simp only [List.length_cons]
    omega

variable (r : StringRules)

@[simp] theorem read_nil : r.read [] = some [] := by
  rw [read]

theorem read_escape {rest after : List Char} {d : Char} (h : r.escape rest = some (d, after)) :
    r.read ('\\' :: rest) = (r.read after).map (d :: ·) := by
  rw [read, if_pos rfl]
  split
  next d' after' h' =>
    rw [h] at h'
    cases h'
    rfl
  next h' => simp [h] at h'

theorem read_plain {c : Char} (rest : List Char) (hb : c ≠ '\\') (hq : c ≠ '"') :
    r.read (c :: rest) = if r.breaksLine c = true then none else (r.read rest).map (c :: ·) := by
  rw [read, if_neg hb]
  by_cases hl : r.breaksLine c = true <;> simp [hq, hl]

/-- A writer of single characters that each read back, or each make the body unreadable, writes
bodies that read back exactly when every character does. -/
theorem read_join {write : Char → String} {good : Char → Bool}
    (hwrite : ∀ c rest, r.read ((write c).toList ++ rest) =
      if good c then (r.read rest).map (c :: ·) else none) :
    ∀ s : List Char, r.read (String.join (s.map write)).toList = if s.all good then some s else none
  | [] => by simp
  | c :: s => by
    rw [List.map_cons, String.join_cons, String.toList_append, hwrite, read_join hwrite s]
    cases hc : good c <;> cases hs : s.all good <;> simp [hc, hs]

end StringRules

/-! ### The escapes of each language -/

/-- The escapes of a single letter or mark that C++, C# and Java share. -/
def cSimpleEscape : Char → Option Char
  | '"' => some '"'
  | '\\' => some '\\'
  | 'n' => some '\n'
  | 'r' => some '\r'
  | 't' => some '\t'
  | _ => none

/-- An escape of a fixed number `w` of characters, whose value `code` reads off them. -/
def fixedEscape (w : Nat) (code : List Char → Option Char) (cs : List Char) :
    Option (Char × List Char) :=
  if w ≤ cs.length then (code (cs.take w)).map fun c => (c, cs.drop w) else none

def octalDigit? (c : Char) : Option Nat :=
  if '0' ≤ c ∧ c ≤ '7' then some (c.toNat - 48) else none

/-- Three octal digits, the first at most 3: one byte. -/
def octalCode : List Char → Option Char
  | [a, b, c] =>
    match octalDigit? a, octalDigit? b, octalDigit? c with
    | some x, some y, some z => if x < 4 then some (Char.ofNat (64 * x + 8 * y + z)) else none
    | _, _, _ => none
  | _ => none

def hexDigit? (c : Char) : Option Nat :=
  if '0' ≤ c ∧ c ≤ '9' then some (c.toNat - 48)
  else if 'a' ≤ c ∧ c ≤ 'f' then some (c.toNat - 87)
  else if 'A' ≤ c ∧ c ≤ 'F' then some (c.toNat - 55)
  else none

/-- The value of a list of hexadecimal digits, most significant first. -/
def hexValue? (ds : List Char) : Option Nat :=
  ds.foldl (fun acc d => acc.bind fun a => (hexDigit? d).map (16 * a + ·)) (some 0)

/-- The character of a code point, if it is a Unicode scalar value. -/
def scalar? (n : Nat) : Option Char := if n.isValidChar then some (Char.ofNat n) else none

/-- C#'s `\uXXXX`: the letter `u` and four hexadecimal digits. -/
def unicode4Code : List Char → Option Char
  | 'u' :: ds => if ds.length = 4 then (hexValue? ds).bind scalar? else none
  | _ => none

/-- A C-family escape: a simple escape, or else the language's numeric escape. -/
def cEscape (numeric : List Char → Option (Char × List Char)) : List Char → Option (Char × List Char)
  | c :: rest =>
    match cSimpleEscape c with
    | some d => some (d, rest)
    | none => numeric (c :: rest)
  | [] => none

/-- The escapes of a single letter or mark in Rust. -/
def rustSimpleEscape : Char → Option Char
  | 'n' => some '\n'
  | 'r' => some '\r'
  | 't' => some '\t'
  | '\\' => some '\\'
  | '0' => some '\x00'
  | '"' => some '"'
  | '\'' => some '\''
  | _ => none

def isHexDigit (c : Char) : Bool := (hexDigit? c).isSome

/-- A Rust escape: a simple escape, or `u{…}` with one to six hexadecimal digits naming a
scalar value. -/
def rustEscape : List Char → Option (Char × List Char)
  | 'u' :: '{' :: rest =>
    let ds := rest.takeWhile isHexDigit
    match rest.dropWhile isHexDigit with
    | '}' :: after =>
      if 0 < ds.length ∧ ds.length ≤ 6 then ((hexValue? ds).bind scalar?).map (·, after) else none
    | _ => none
  | c :: rest => (rustSimpleEscape c).map (·, rest)
  | [] => none

theorem fixedEscape_shorter {w : Nat} (hw : 0 < w) {code : List Char → Option Char}
    {cs rest : List Char} {c : Char} (h : fixedEscape w code cs = some (c, rest)) :
    rest.length < cs.length := by
  unfold fixedEscape at h
  split at h
  next hlen =>
    obtain ⟨d, -, hd⟩ := Option.map_eq_some_iff.1 h
    cases hd
    simp only [List.length_drop]
    omega
  next => cases h

theorem cEscape_shorter {numeric : List Char → Option (Char × List Char)}
    (hn : ∀ {cs c rest}, numeric cs = some (c, rest) → rest.length < cs.length)
    {cs rest : List Char} {c : Char} (h : cEscape numeric cs = some (c, rest)) :
    rest.length < cs.length := by
  cases cs with
  | nil => cases h
  | cons d more =>
    simp only [cEscape] at h
    cases hs : cSimpleEscape d with
    | some e =>
      rw [hs] at h
      cases h
      simp
    | none =>
      rw [hs] at h
      exact hn h

theorem rustEscape_shorter {cs rest : List Char} {c : Char} (h : rustEscape cs = some (c, rest)) :
    rest.length < cs.length := by
  unfold rustEscape at h
  split at h
  next more =>
    split at h
    next after hafter =>
      dsimp only at h
      split at h
      next =>
        obtain ⟨d, -, hd⟩ := Option.map_eq_some_iff.1 h
        cases hd
        have hsuffix := (List.dropWhile_suffix isHexDigit (l := more)).length_le
        rw [hafter, List.length_cons] at hsuffix
        simp only [List.length_cons]
        omega
      next => cases h
    next => cases h
  next d more _ =>
    obtain ⟨e, -, he⟩ := Option.map_eq_some_iff.1 h
    cases he
    simp
  next => cases h

def isLineEnd (c : Char) : Bool := c == '\n' || c == '\r'

/-- The characters C# counts as ending a line besides line feed and carriage return: next
line, line separator and paragraph separator. -/
def isUnicodeLineEnd (c : Char) : Bool := c == '\x85' || c == '\u2028' || c == '\u2029'

/-- C++ and Java: simple and three-digit octal escapes. -/
def octalRules : StringRules where
  escape := cEscape (fixedEscape 3 octalCode)
  escape_shorter := cEscape_shorter (fixedEscape_shorter (by decide))
  breaksLine := isLineEnd

/-- C#: simple escapes and `\uXXXX`; the Unicode line ends end a line too. -/
def csharpRules : StringRules where
  escape := cEscape (fixedEscape 5 unicode4Code)
  escape_shorter := cEscape_shorter (fixedEscape_shorter (by decide))
  breaksLine c := isLineEnd c || isUnicodeLineEnd c

/-- Rust: its simple escapes and `\u{…}`. A regular Rust literal may run over lines, but a
literal of one line holds no line feed or carriage return. -/
def rustRules : StringRules where
  escape := rustEscape
  escape_shorter := rustEscape_shorter
  breaksLine := isLineEnd

@[simp] theorem octalRules_escape : octalRules.escape = cEscape (fixedEscape 3 octalCode) := rfl

@[simp] theorem octalRules_breaksLine : octalRules.breaksLine = isLineEnd := rfl

@[simp] theorem csharpRules_escape : csharpRules.escape = cEscape (fixedEscape 5 unicode4Code) := rfl

@[simp] theorem csharpRules_breaksLine (c : Char) :
    csharpRules.breaksLine c = (isLineEnd c || isUnicodeLineEnd c) := rfl

@[simp] theorem rustRules_escape : rustRules.escape = rustEscape := rfl

@[simp] theorem rustRules_breaksLine : rustRules.breaksLine = isLineEnd := rfl

namespace Language

def stringRules : Language → StringRules
  | .cpp | .java => octalRules
  | .csharp => csharpRules
  | .rust => rustRules

end Language

/-! ### Numeric escapes -/

/-- A fixed-width escape after a C-family backslash is read whole, when its first character is
no simple escape. -/
theorem cEscape_fixed {w : Nat} (hw : 0 < w) {code : List Char → Option Char}
    {xs : List Char} {c : Char} (hx : xs.length = w) (hcode : code xs = some c)
    (hsimple : xs.head?.bind cSimpleEscape = none) (rest : List Char) :
    cEscape (fixedEscape w code) (xs ++ rest) = some (c, rest) := by
  cases xs with
  | nil => simp at hx; omega
  | cons x xt =>
    have hx' : cSimpleEscape x = none := hsimple
    subst hx
    simp [cEscape, hx', fixedEscape, hcode]

theorem octal3_reads : ∀ n < 128, isAsciiControl (Char.ofNat n) = true →
    (octal3 n).toList.length = 3 ∧ octalCode (octal3 n).toList = some (Char.ofNat n) ∧
      (octal3 n).toList.head?.bind cSimpleEscape = none := by
  decide

theorem hex4_reads : ∀ n < 128, isAsciiControl (Char.ofNat n) = true →
    ('u' :: (hex4 n).toList).length = 5 ∧ unicode4Code ('u' :: (hex4 n).toList) = some (Char.ofNat n) := by
  decide

theorem toNat_lt_of_isAsciiControl {c : Char} (h : isAsciiControl c = true) : c.toNat < 128 := by
  simp only [isAsciiControl, Bool.or_eq_true, decide_eq_true_eq, beq_iff_eq] at h
  omega

/-! ### The C family -/

section CFamily

variable {r : StringRules} {ctrl : Char → String}

theorem read_quoteCChar
    (hsimple : ∀ c d rest, cSimpleEscape c = some d → r.escape (c :: rest) = some (d, rest))
    (hctrl : ∀ c rest, isAsciiControl c = true →
      r.read ((ctrl c).toList ++ rest) = (r.read rest).map (c :: ·))
    (hquote : r.breaksLine '"' = false) (hback : r.breaksLine '\\' = false) (c : Char)
    (rest : List Char) :
    r.read ((quoteCChar ctrl c).toList ++ rest) =
      if !(r.breaksLine c && !isAsciiControl c) then (r.read rest).map (c :: ·) else none := by
  unfold quoteCChar
  split
  · rw [if_pos (by simp [hquote])]
    exact r.read_escape (hsimple '"' '"' rest rfl)
  · rw [if_pos (by simp [hback])]
    exact r.read_escape (hsimple '\\' '\\' rest rfl)
  · rw [if_pos (by simp [isAsciiControl])]
    exact r.read_escape (hsimple 'n' '\n' rest rfl)
  · rw [if_pos (by simp [isAsciiControl])]
    exact r.read_escape (hsimple 'r' '\r' rest rfl)
  · rw [if_pos (by simp [isAsciiControl])]
    exact r.read_escape (hsimple 't' '\t' rest rfl)
  next hq hb _ _ _ =>
    cases hc : isAsciiControl c
    · simp only [if_false, Bool.false_eq_true]
      rw [show c.toString.toList ++ rest = c :: rest by simp, r.read_plain rest hb hq]
      by_cases hl : r.breaksLine c = true <;> simp [hl]
    · simp only [if_true]
      rw [if_pos (by simp)]
      exact hctrl c rest hc

/-- A body written by `quoteC` reads back exactly when no character of it is written bare and
ends a line. -/
theorem read_quoteC
    (hsimple : ∀ c d rest, cSimpleEscape c = some d → r.escape (c :: rest) = some (d, rest))
    (hctrl : ∀ c rest, isAsciiControl c = true →
      r.read ((ctrl c).toList ++ rest) = (r.read rest).map (c :: ·))
    (hquote : r.breaksLine '"' = false) (hback : r.breaksLine '\\' = false) (s : List Char) :
    r.read (String.join (s.map (quoteCChar ctrl))).toList =
      if s.all fun c => !(r.breaksLine c && !isAsciiControl c) then some s else none :=
  r.read_join (read_quoteCChar hsimple hctrl hquote hback) s

end CFamily

theorem cEscape_simple {numeric : List Char → Option (Char × List Char)} {c d : Char}
    (rest : List Char) (h : cSimpleEscape c = some d) :
    cEscape numeric (c :: rest) = some (d, rest) := by
  simp [cEscape, h]

theorem octalRules_read_control (c : Char) (rest : List Char) (hc : isAsciiControl c = true) :
    octalRules.read (("\\" ++ octal3 c.toNat).toList ++ rest) = (octalRules.read rest).map (c :: ·) := by
  have hn := toNat_lt_of_isAsciiControl hc
  obtain ⟨hlen, hcode, hsimple⟩ := octal3_reads c.toNat hn (by rwa [Char.ofNat_toNat])
  rw [Char.ofNat_toNat] at hcode
  have he := cEscape_fixed (by decide) hlen hcode hsimple rest
  rw [← octalRules_escape] at he
  rw [String.toList_append, List.append_assoc]
  exact octalRules.read_escape he

theorem csharpRules_read_control (c : Char) (rest : List Char) (hc : isAsciiControl c = true) :
    csharpRules.read (("\\u" ++ hex4 c.toNat).toList ++ rest) = (csharpRules.read rest).map (c :: ·) := by
  have hn := toNat_lt_of_isAsciiControl hc
  obtain ⟨hlen, hcode⟩ := hex4_reads c.toNat hn (by rwa [Char.ofNat_toNat])
  rw [Char.ofNat_toNat] at hcode
  have hsimple : ('u' :: (hex4 c.toNat).toList).head?.bind cSimpleEscape = none := rfl
  have he := cEscape_fixed (by decide) hlen hcode hsimple rest
  rw [← csharpRules_escape] at he
  rw [show ("\\u" ++ hex4 c.toNat).toList ++ rest = '\\' :: (('u' :: (hex4 c.toNat).toList) ++ rest) by
    rw [String.toList_append]
    rfl]
  exact csharpRules.read_escape he

/-! ### Rust -/

theorem hexDigit?_digitChar : ∀ k < 16, hexDigit? (Nat.digitChar k) = some k := by
  decide

theorem hexValue?_append_singleton (ds : List Char) (d : Char) :
    hexValue? (ds ++ [d]) = (hexValue? ds).bind fun a => (hexDigit? d).map (16 * a + ·) := by
  simp [hexValue?, List.foldl_append]

theorem hexValue?_toDigits (n : Nat) : hexValue? (Nat.toDigits 16 n) = some n := by
  induction n using Nat.strongRecOn with
  | _ n ih =>
    rw [Nat.toDigits_eq_if (by decide)]
    split
    next h => simp [hexValue?, hexDigit?_digitChar n h]
    next h =>
      rw [hexValue?_append_singleton, ih (n / 16) (by omega), Option.bind_some,
        hexDigit?_digitChar (n % 16) (by omega), Option.map_some]
      congr 1
      omega

theorem isHexDigit_of_mem_toDigits {n : Nat} {c : Char} (h : c ∈ Nat.toDigits 16 n) :
    isHexDigit c = true := by
  induction n using Nat.strongRecOn with
  | _ n ih =>
    rw [Nat.toDigits_eq_if (by decide)] at h
    split at h
    next hn =>
      rw [List.mem_singleton.1 h]
      simp [isHexDigit, hexDigit?_digitChar n hn]
    next hn =>
      rcases List.mem_append.1 h with h | h
      · exact ih (n / 16) (by omega) h
      · rw [List.mem_singleton.1 h]
        simp [isHexDigit, hexDigit?_digitChar (n % 16) (by omega)]

theorem rustEscape_braced (c : Char) (rest : List Char) :
    rustEscape ('u' :: '{' :: (Nat.toDigits 16 c.toNat ++ '}' :: rest)) = some (c, rest) := by
  have hall : ∀ d ∈ Nat.toDigits 16 c.toNat, isHexDigit d = true :=
    fun d hd => isHexDigit_of_mem_toDigits hd
  have hbrace : isHexDigit '}' = false := by decide
  have hvalid : c.toNat.isValidChar := c.valid
  have hlen : (Nat.toDigits 16 c.toNat).length ≤ 6 := by
    refine (Nat.length_toDigits_le_iff (by decide) (by decide)).2 ?_
    unfold Nat.isValidChar at hvalid
    omega
  simp [rustEscape, List.takeWhile_append_of_pos hall, List.dropWhile_append_of_pos hall, hbrace,
    hlen, Nat.length_toDigits_pos, hexValue?_toDigits, scalar?, hvalid]

theorem rustRules_read_debugEscape (c : Char) (rest : List Char) :
    rustRules.read ((Text.debugEscape c).toList ++ rest) = (rustRules.read rest).map (c :: ·) := by
  unfold Text.debugEscape
  split
  · exact rustRules.read_escape rfl
  · exact rustRules.read_escape rfl
  · exact rustRules.read_escape rfl
  · exact rustRules.read_escape rfl
  · exact rustRules.read_escape rfl
  · exact rustRules.read_escape rfl
  next h0 ht hr hn hb hq =>
    split
    · have he := rustEscape_braced c rest
      rw [← rustRules_escape] at he
      rw [show ("\\u" ++ "\x7b" ++ Text.hexDigits c.toNat ++ "\x7d").toList ++ rest =
          '\\' :: 'u' :: '\x7b' :: (Nat.toDigits 16 c.toNat ++ '\x7d' :: rest) by
        simp [Text.hexDigits]]
      exact rustRules.read_escape he
    · have hline : isLineEnd c = false := by
        simp [isLineEnd, show c ≠ '\n' from hn, show c ≠ '\r' from hr]
      rw [show (String.singleton c).toList ++ rest = c :: rest by simp, rustRules.read_plain rest hb hq]
      simp [hline]

/-! ### String literals of each language -/

namespace Language

/-- A character that the language's string literal cannot hold as the writer leaves it: in C#,
the Unicode line ends, which `quoteC` writes bare. -/
def slipsInString : Language → Char → Bool
  | .csharp, c => isUnicodeLineEnd c
  | _, _ => false

def stringBody : Language → String → String
  | .csharp, s => String.join (s.toList.map (quoteCChar fun c => "\\u" ++ hex4 c.toNat))
  | .rust, s => String.join (s.toList.map Text.debugEscape)
  | _, s => String.join (s.toList.map (quoteCChar fun c => "\\" ++ octal3 c.toNat))

/-- The suffix after the closing quote: Rust turns the literal into an owned string. -/
def stringSuffix : Language → String
  | .rust => ".to_string()"
  | _ => ""

theorem stringLiteral_eq (l : Language) (s : String) :
    l.stringLiteral s = "\"" ++ l.stringBody s ++ "\"" ++ l.stringSuffix := by
  cases l <;> simp [stringLiteral, stringBody, stringSuffix, quoteC, Text.debugQuote, String.append_assoc]

end Language

/-- `text` is a regular string literal of `l` on one line, standing for `s`; Rust then turns it
into an owned string. -/
def StringLiteralOf (l : Language) (s text : String) : Prop :=
  ∃ body : String, text = "\"" ++ body ++ "\"" ++ l.stringSuffix ∧
    l.stringRules.read body.toList = some s.toList

/-- A line end that C# reads as such but no other language does is no ASCII control; the line
ends all read as such are. -/
theorem csharp_bare_line_end (c : Char) :
    (!((isLineEnd c || isUnicodeLineEnd c) && !isAsciiControl c)) = !isUnicodeLineEnd c := by
  cases hu : isUnicodeLineEnd c
  · cases hl : isLineEnd c
    · simp
    · simp only [isLineEnd, Bool.or_eq_true, beq_iff_eq] at hl
      rcases hl with rfl | rfl <;> rfl
  · simp only [isUnicodeLineEnd, Bool.or_eq_true, beq_iff_eq] at hu
    rcases hu with (rfl | rfl) | rfl <;> rfl

theorem octal_bare_line_end (c : Char) : (!(isLineEnd c && !isAsciiControl c)) = true := by
  cases hl : isLineEnd c
  · rfl
  · simp only [isLineEnd, Bool.or_eq_true, beq_iff_eq] at hl
    rcases hl with rfl | rfl <;> rfl

/-- The body a language writes reads back as the string, unless a character of it slips. -/
theorem read_stringBody (l : Language) (s : String) :
    l.stringRules.read (l.stringBody s).toList =
      if s.toList.all fun c => !l.slipsInString c then some s.toList else none := by
  cases l with
  | rust =>
    have h : rustRules.read (String.join (s.toList.map Text.debugEscape)).toList =
        if s.toList.all fun _ => true then some s.toList else none :=
      rustRules.read_join (fun c rest => by rw [rustRules_read_debugEscape, if_pos rfl]) s.toList
    simpa [Language.stringRules, Language.stringBody, Language.slipsInString] using h
  | csharp =>
    have h := read_quoteC (r := csharpRules) (fun c d rest hd => cEscape_simple rest hd)
      (fun c rest hc => csharpRules_read_control c rest hc) rfl rfl s.toList
    simp only [csharpRules_breaksLine, csharp_bare_line_end] at h
    exact h
  | cpp | java =>
    have h := read_quoteC (r := octalRules) (fun c d rest hd => cEscape_simple rest hd)
      (fun c rest hc => octalRules_read_control c rest hc) rfl rfl s.toList
    simp only [octalRules_breaksLine, octal_bare_line_end] at h
    simpa [Language.stringRules, Language.stringBody, Language.slipsInString] using h

/-- The string literal a language writes is one, on one line, of the string exactly when no
character of it slips: always in C++, Java and Rust, and in C# when it holds no Unicode line
end. -/
theorem stringLiteralOf_iff (l : Language) (s : String) :
    StringLiteralOf l s (l.stringLiteral s) ↔ ∀ c ∈ s.toList, l.slipsInString c = false := by
  have hread := read_stringBody l s
  constructor
  · rintro ⟨body, htext, hbody⟩
    have hb : body = l.stringBody s := by
      rw [l.stringLiteral_eq] at htext
      have := congrArg String.toList htext
      simp only [String.toList_append, List.append_assoc] at this
      exact (String.toList_inj.1 (List.append_cancel_right (List.append_cancel_left this))).symm
    rw [hb, hread] at hbody
    split at hbody
    next h => simpa using h
    next => cases hbody
  · intro hgood
    refine ⟨l.stringBody s, l.stringLiteral_eq s, ?_⟩
    rw [hread, if_pos (by simpa using hgood)]

end EntitySchema.Target
