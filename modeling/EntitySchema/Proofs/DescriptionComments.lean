import Mathlib.Data.List.Basic
import Mathlib.Data.List.TakeWhile
import EntitySchema.Proofs.FingerprintLine
import EntitySchema.Proofs.StringLiterals

/-!
# A description stays inside comments

An entity's description is copied into every file written for it: line by line behind ` * ` in
the comment block that opens a C++, C# or Java file, and behind `/// ` in the documentation of a
Rust struct or enumeration. Nothing in it is escaped.

A block comment ends at its first `*/`, so the banner is one comment that ends at its own last
`*/` exactly when no line of the description holds `*/` (`banner_oneBlockComment_iff`). Java
reads its source through a first pass that turns every Unicode escape `\uXXXX` into the
character it names, inside comments too; there a line can also close the comment through an
escape such as `\u002a/`, or break the file with a malformed escape such as `\user`. C++ splices
a line ending in a backslash onto the next, but every line of the banner after the first starts
with a blank, so no `*/` can arise that way.
-/

namespace EntitySchema.Emit

open EntitySchema.Target

/-! ## Block comments -/

/-- Reads a block comment after its opening `/*`: the text it holds and the text after its
first `*/`; none when it never closes. -/
def closeComment : List Char → Option (List Char × List Char)
  | '*' :: '/' :: after => some ([], after)
  | c :: rest => (closeComment rest).map fun (body, after) => (c :: body, after)
  | [] => none

theorem pair_infix_cons {x y c : Char} {l : List Char} :
    [x, y] <:+: c :: l ↔ (c = x ∧ l.head? = some y) ∨ [x, y] <:+: l := by
  rw [List.infix_cons_iff]
  cases l with
  | nil => simp
  | cons d l => simp [eq_comm]

theorem pair_infix_append {x y : Char} : ∀ {a b : List Char},
    [x, y] <:+: a ++ b ↔ [x, y] <:+: a ∨ [x, y] <:+: b ∨ (a.getLast? = some x ∧ b.head? = some y)
  | [], b => by simp
  | [c], b => by
    rw [List.singleton_append, pair_infix_cons]
    simp only [List.getLast?_singleton, Option.some.injEq]
    constructor
    · rintro (⟨rfl, h⟩ | h)
      · exact .inr (.inr ⟨rfl, h⟩)
      · exact .inr (.inl h)
    · rintro (h | h | ⟨rfl, h⟩)
      · exact absurd h.length_le (by simp)
      · exact .inr h
      · exact .inl ⟨rfl, h⟩
  | c :: d :: a, b => by
    rw [List.cons_append, pair_infix_cons, pair_infix_append, pair_infix_cons (l := d :: a)]
    simp [or_assoc]

theorem closeComment_cons {c : Char} {rest : List Char} (h : ¬ (c = '*' ∧ rest.head? = some '/')) :
    closeComment (c :: rest) = (closeComment rest).map fun (body, after) => (c :: body, after) := by
  rw [closeComment]
  rintro after rfl rfl
  simp at h

theorem closeComment_eq_some_iff {cs body after : List Char} :
    closeComment cs = some (body, after) ↔ cs = body ++ '*' :: '/' :: after ∧ ¬ ['*', '/'] <:+: body := by
  induction cs generalizing body with
  | nil => simp [closeComment]
  | cons c rest ih =>
    by_cases hc : c = '*' ∧ rest.head? = some '/'
    · obtain ⟨rfl, hrest⟩ := hc
      obtain ⟨rest, rfl⟩ : ∃ more, rest = '/' :: more := by
        cases rest with
        | nil => simp at hrest
        | cons d more => exact ⟨more, by simpa using hrest⟩
      cases body with
      | nil =>
        simp only [closeComment, Option.some.injEq, Prod.mk.injEq, true_and, List.nil_append,
          List.cons.injEq, List.infix_nil, reduceCtorEq, not_false_eq_true, and_true]
      | cons b body =>
        simp only [closeComment, Option.some.injEq, Prod.mk.injEq, reduceCtorEq, false_and,
          false_iff, not_and, List.cons_append, List.cons.injEq]
        rintro ⟨rfl, hbody⟩
        cases body with
        | nil => simp at hbody
        | cons d body =>
          obtain ⟨rfl, -⟩ := List.cons.inj hbody
          simp [pair_infix_cons]
    · rw [closeComment_cons hc]
      cases body with
      | nil =>
        constructor
        · intro h
          obtain ⟨⟨b', a'⟩, -, h'⟩ := Option.map_eq_some_iff.1 h
          simp at h'
        · rintro ⟨h, -⟩
          obtain ⟨rfl, rfl⟩ := List.cons.inj h
          simp at hc
      | cons b body =>
        simp only [Option.map_eq_some_iff, Prod.exists, Prod.mk.injEq, List.cons.injEq,
          List.cons_append, pair_infix_cons, not_or]
        constructor
        · rintro ⟨body', after', hrest, ⟨rfl, rfl⟩, rfl⟩
          obtain ⟨rfl, hbody'⟩ := ih.1 hrest
          refine ⟨⟨rfl, rfl⟩, fun ⟨hb, hhead⟩ => hc ⟨hb, ?_⟩, hbody'⟩
          cases body' with
          | nil => simp at hhead
          | cons d body' => simpa using hhead
        · rintro ⟨⟨rfl, rfl⟩, -, hbody⟩
          exact ⟨body, after, ih.2 ⟨rfl, hbody⟩, ⟨rfl, rfl⟩, rfl⟩

/-! ## Java's Unicode escapes -/

/-- Where Java's first pass over a source text stands between two characters: in plain text
(`odd` when an odd number of backslashes stand right before), after a backslash that may open a
Unicode escape, after the `u`s of an escape, or after some of its four hexadecimal digits. -/
inductive UnicodePass where
  | plain (odd : Bool)
  | backslash
  | marker
  | digits (ds : List Char)

namespace UnicodePass

/-- One character of the pass: the state after it and the characters it stands for; none for a
malformed escape. A backslash after an odd number of backslashes opens no escape. An escape
stands for the UTF-16 unit its digits name; a surrogate half reads as `Char.ofNat` does, as the
character `\x00`, which is neither `*` nor `/`. -/
def step : UnicodePass → Char → Option (UnicodePass × List Char)
  | .plain false, '\\' => some (.backslash, [])
  | .plain _, c => some (.plain false, [c])
  | .backslash, 'u' => some (.marker, [])
  | .backslash, c => some (.plain false, ['\\', c])
  | .marker, 'u' => some (.marker, [])
  | .marker, c => if isHexDigit c then some (.digits [c], []) else none
  | .digits ds, c =>
    if isHexDigit c then
      if ds.length = 3 then some (.plain false, [Char.ofNat ((hexValue? (ds ++ [c])).getD 0)])
      else some (.digits (ds ++ [c]), [])
    else none

/-- The end of the text: an open backslash stands for itself, an unfinished escape is
malformed. -/
def finish : UnicodePass → Option (List Char)
  | .plain _ => some []
  | .backslash => some ['\\']
  | .marker => none
  | .digits _ => none

/-- Runs the pass over some characters: the state after them and what they stand for. -/
def run : UnicodePass → List Char → Option (UnicodePass × List Char)
  | s, [] => some (s, [])
  | s, c :: cs => (step s c).bind fun (s', out) => (run s' cs).map fun (s'', rest) => (s'', out ++ rest)

theorem run_append (s : UnicodePass) (a b : List Char) :
    run s (a ++ b) = (run s a).bind fun (s', out) =>
      (run s' b).map fun (s'', rest) => (s'', out ++ rest) := by
  induction a generalizing s with
  | nil => cases h : run s b <;> simp [run, h]
  | cons c a ih =>
    simp only [List.cons_append, run, ih]
    cases step s c with
    | none => rfl
    | some p =>
      cases ha : run p.1 a with
      | none => simp [ha]
      | some q => cases hb : run q.1 b <;> simp [ha, hb]

/-- A line feed ends whatever the line left open: a backslash stands for itself, and an
unfinished escape is malformed. -/
theorem step_newline (s : UnicodePass) :
    step s '\n' = (finish s).map fun f => (.plain false, f ++ ['\n']) := by
  cases s with
  | plain odd => cases odd <;> rfl
  | backslash => rfl
  | marker => rfl
  | digits ds => rfl

theorem run_of_no_backslash : ∀ {a : List Char}, '\\' ∉ a → run (.plain false) a = some (.plain false, a)
  | [], _ => rfl
  | c :: a, h => by
    have hc : c ≠ '\\' := fun hc => h (hc ▸ List.mem_cons_self)
    have hstep : step (.plain false) c = some (.plain false, [c]) := by
      rw [step]
      intro hc'
      exact absurd hc' hc
    simp only [run, hstep, Option.bind_some]
    rw [run_of_no_backslash fun h' => h (List.mem_cons_of_mem c h')]
    rfl

end UnicodePass

/-- Java's first pass over a source text: every Unicode escape read as what it stands for; none
when an escape is malformed. -/
def unescapeJava (cs : List Char) : Option (List Char) :=
  (UnicodePass.run (.plain false) cs).bind fun (s, out) => (UnicodePass.finish s).map (out ++ ·)

/-- The characters a language lexes a source text as: Java's after its first pass, C++'s and C#'s
as they are. -/
def sourceChars : Language → List Char → Option (List Char)
  | .java, cs => unescapeJava cs
  | _, cs => some cs

theorem unescapeJava_append_newline (a b : List Char) :
    unescapeJava (a ++ '\n' :: b) =
      (unescapeJava a).bind fun ta => (unescapeJava b).map fun tb => ta ++ '\n' :: tb := by
  unfold unescapeJava
  rw [UnicodePass.run_append]
  cases ha : UnicodePass.run (.plain false) a with
  | none => rfl
  | some p =>
    obtain ⟨s, out⟩ := p
    simp only [Option.bind_some, UnicodePass.run, UnicodePass.step_newline]
    cases hf : UnicodePass.finish s with
    | none => rfl
    | some f =>
      cases hb : UnicodePass.run (.plain false) b with
      | none => simp [hb]
      | some q =>
        obtain ⟨s', rest⟩ := q
        cases hf' : UnicodePass.finish s' <;> simp [hb, hf']

theorem sourceChars_append_newline (l : Language) (a b : List Char) :
    sourceChars l (a ++ '\n' :: b) =
      (sourceChars l a).bind fun ta => (sourceChars l b).map fun tb => ta ++ '\n' :: tb := by
  cases l with
  | java => exact unescapeJava_append_newline a b
  | cpp => rfl
  | csharp => rfl
  | rust => rfl

theorem sourceChars_append_of_no_backslash (l : Language) {a : List Char} (ha : '\\' ∉ a)
    (b : List Char) : sourceChars l (a ++ b) = (sourceChars l b).map (a ++ ·) := by
  cases l with
  | java =>
    show unescapeJava (a ++ b) = (unescapeJava b).map (a ++ ·)
    unfold unescapeJava
    rw [UnicodePass.run_append, UnicodePass.run_of_no_backslash ha, Option.bind_some]
    cases hb : UnicodePass.run (.plain false) b with
    | none => simp [hb]
    | some q =>
      obtain ⟨s, rest⟩ := q
      cases hf : UnicodePass.finish s <;> simp [hb, hf]
  | cpp => rfl
  | csharp => rfl
  | rust => rfl

/-! ## What keeps a block comment open -/

/-- Text that is empty or ends its last line with a line feed. -/
def EndsLine (cs : List Char) : Prop := cs = [] ∨ cs.getLast? = some '\n'

theorem getLast?_append_of_endsLine {a b : List Char} (ha : a.getLast? = some '\n')
    (hb : EndsLine b) : (a ++ b).getLast? = some '\n' := by
  rcases hb with rfl | hb
  · simpa using ha
  · rw [List.getLast?_append, hb]
    rfl

theorem EndsLine.append {a b : List Char} (ha : EndsLine a) (hb : EndsLine b) :
    EndsLine (a ++ b) := by
  rcases ha with rfl | ha
  · simpa using hb
  · exact .inr (getLast?_append_of_endsLine ha hb)

theorem endsLine_line (s : String) : EndsLine (s ++ "\n").toList := .inr (by simp)

theorem endsLine_join_map {α : Type} {f : α → String} (hf : ∀ a, EndsLine (f a).toList) :
    ∀ xs : List α, EndsLine (String.join (xs.map f)).toList
  | [] => .inl (by simp)
  | a :: xs => by
    rw [List.map_cons, String.join_cons, String.toList_append]
    exact (hf a).append (endsLine_join_map hf xs)

/-- Language `l` reads `cs` without error and finds no `*/` in it: inside a block comment, `cs`
leaves the comment open. -/
def KeepsCommentOpen (l : Language) (cs : List Char) : Prop :=
  ∃ t, sourceChars l cs = some t ∧ ¬ ['*', '/'] <:+: t

section KeepsOpen

variable {l : Language}

theorem keepsCommentOpen_append_newline {a b : List Char} :
    KeepsCommentOpen l (a ++ '\n' :: b) ↔ KeepsCommentOpen l a ∧ KeepsCommentOpen l b := by
  unfold KeepsCommentOpen
  rw [sourceChars_append_newline]
  constructor
  · rintro ⟨t, ht, hclose⟩
    obtain ⟨ta, hta, hmap⟩ := Option.bind_eq_some_iff.1 ht
    obtain ⟨tb, htb, rfl⟩ := Option.map_eq_some_iff.1 hmap
    rw [pair_infix_append, not_or, not_or] at hclose
    exact ⟨⟨ta, hta, hclose.1⟩, ⟨tb, htb, fun h => hclose.2.1 (List.infix_cons h)⟩⟩
  · rintro ⟨⟨ta, hta, ha⟩, ⟨tb, htb, hb⟩⟩
    refine ⟨ta ++ '\n' :: tb, by simp [hta, htb], ?_⟩
    rw [pair_infix_append, pair_infix_cons]
    simp [ha, hb]

theorem sourceChars_nil : sourceChars l [] = some [] := by
  cases l <;> rfl

theorem keepsCommentOpen_nil : KeepsCommentOpen l [] :=
  ⟨[], sourceChars_nil, fun h => by simpa using h.length_le⟩

theorem sourceChars_of_no_backslash {a : List Char} (ha : '\\' ∉ a) : sourceChars l a = some a := by
  simpa [sourceChars_nil] using sourceChars_append_of_no_backslash l ha []

/-- C++, C# and Rust read a comment as it is written: a line keeps it open exactly when it holds
no `*/`. -/
theorem keepsCommentOpen_iff_of_ne_java (hl : l ≠ .java) (cs : List Char) :
    KeepsCommentOpen l cs ↔ ¬ ['*', '/'] <:+: cs := by
  have hread : sourceChars l cs = some cs := by
    cases l with
    | java => exact absurd rfl hl
    | cpp => rfl
    | csharp => rfl
    | rust => rfl
  unfold KeepsCommentOpen
  rw [hread]
  simp

theorem not_closes_of_slash_not_mem {a : List Char} (h : '/' ∉ a) : ¬ ['*', '/'] <:+: a :=
  fun hin => h (hin.subset (by simp))

theorem keepsCommentOpen_of_plain {a : List Char} (ha : '\\' ∉ a) (hclose : ¬ ['*', '/'] <:+: a) :
    KeepsCommentOpen l a :=
  ⟨a, sourceChars_of_no_backslash ha, hclose⟩

theorem keepsCommentOpen_append_of_plain {a : List Char} (ha : '\\' ∉ a)
    (hclose : ¬ ['*', '/'] <:+: a) (hlast : a.getLast? ≠ some '*') (b : List Char) :
    KeepsCommentOpen l (a ++ b) ↔ KeepsCommentOpen l b := by
  unfold KeepsCommentOpen
  rw [sourceChars_append_of_no_backslash l ha]
  constructor
  · rintro ⟨t, ht, h⟩
    obtain ⟨tb, htb, rfl⟩ := Option.map_eq_some_iff.1 ht
    exact ⟨tb, htb, fun h' => h (pair_infix_append.2 (.inr (.inl h')))⟩
  · rintro ⟨tb, htb, h⟩
    refine ⟨a ++ tb, by simp [htb], fun h' => ?_⟩
    rcases pair_infix_append.1 h' with h' | h' | ⟨h', -⟩
    · exact hclose h'
    · exact h h'
    · exact hlast h'

theorem keepsCommentOpen_append_newline_nil {a : List Char} :
    KeepsCommentOpen l (a ++ ['\n']) ↔ KeepsCommentOpen l a := by
  simpa [keepsCommentOpen_nil] using keepsCommentOpen_append_newline (l := l) (a := a) (b := [])

theorem keepsCommentOpen_append_of_endsLine {a : List Char} (ha : EndsLine a) (b : List Char) :
    KeepsCommentOpen l (a ++ b) ↔ KeepsCommentOpen l a ∧ KeepsCommentOpen l b := by
  rcases ha with rfl | ha
  · simp [keepsCommentOpen_nil]
  · obtain ⟨a', rfl⟩ : ∃ a', a = a' ++ ['\n'] :=
      ⟨a.dropLast, (List.dropLast_append_getLast? '\n' ha).symm⟩
    rw [List.append_assoc, List.singleton_append, keepsCommentOpen_append_newline,
      keepsCommentOpen_append_newline_nil]

end KeepsOpen

/-! ## The banner -/

/-- `text` is one block comment of language `l` that ends at its last `*/`, followed by two line
feeds: the shape of a file's banner. -/
def OneBlockComment (l : Language) (text : String) : Prop :=
  ∃ rest body, sourceChars l text.toList = some ('/' :: '*' :: rest) ∧
    closeComment rest = some (body, ['\n', '\n'])

/-- The comment that ends in a blank, `*/` and two line feeds closes there exactly when nothing
before it closes it. -/
theorem closeComment_last {t : List Char} :
    (∃ body, closeComment (t ++ ['\n', ' ', '*', '/', '\n', '\n']) = some (body, ['\n', '\n'])) ↔
      ¬ ['*', '/'] <:+: t := by
  simp only [closeComment_eq_some_iff]
  constructor
  · rintro ⟨body, hbody, hclose⟩
    have hcancel : (t ++ ['\n', ' ']) ++ ['*', '/', '\n', '\n'] = body ++ ['*', '/', '\n', '\n'] := by
      simpa using hbody
    rw [← List.append_cancel_right hcancel] at hclose
    exact fun h => hclose (h.trans (List.prefix_append _ _).isInfix)
  · intro h
    refine ⟨t ++ ['\n', ' '], by simp, fun h' => ?_⟩
    rcases pair_infix_append.1 h' with h' | h' | ⟨-, h'⟩
    · exact h h'
    · exact absurd h' (by decide)
    · exact absurd h' (by decide)

/-- A text `/*`, lines each ended by a line feed, ` */` and two line feeds is one block comment
exactly when its lines keep the comment open. -/
theorem oneBlockComment_iff {l : Language} {text : String} {x : List Char}
    (h : text.toList = '/' :: '*' :: (x ++ [' ', '*', '/', '\n', '\n']))
    (hx : x.getLast? = some '\n') :
    OneBlockComment l text ↔ KeepsCommentOpen l x := by
  obtain ⟨x, rfl⟩ : ∃ x', x = x' ++ ['\n'] :=
    ⟨x.dropLast, (List.dropLast_append_getLast? '\n' hx).symm⟩
  have hread : sourceChars l text.toList =
      (sourceChars l x).map fun t => '/' :: '*' :: (t ++ ['\n', ' ', '*', '/', '\n', '\n']) := by
    have hsplit : text.toList = ['/', '*'] ++ (x ++ '\n' :: [' ', '*', '/', '\n', '\n']) := by
      simp [h]
    have hclose : sourceChars l [' ', '*', '/', '\n', '\n'] = some [' ', '*', '/', '\n', '\n'] :=
      sourceChars_of_no_backslash (by decide)
    rw [hsplit, sourceChars_append_of_no_backslash l (a := ['/', '*']) (by decide),
      sourceChars_append_newline, hclose]
    cases sourceChars l x <;> simp
  rw [keepsCommentOpen_append_newline_nil]
  unfold OneBlockComment KeepsCommentOpen
  rw [hread]
  constructor
  · rintro ⟨rest, body, hrest, hclose⟩
    obtain ⟨t, ht, heq⟩ := Option.map_eq_some_iff.1 hrest
    obtain rfl := (List.cons.inj (List.cons.inj heq).2).2
    exact ⟨t, ht, closeComment_last.1 ⟨body, hclose⟩⟩
  · rintro ⟨t, ht, hopen⟩
    obtain ⟨body, hbody⟩ := closeComment_last.2 hopen
    exact ⟨_, body, by simp [ht], hbody⟩

/-! ### The parts of the banner -/

/-- How the banner writes one line of a description: a blank line as a bare ` *`. -/
def bannerLine (line : String) : String :=
  if (Text.trimBlank line).isEmpty then " *\n" else " * " ++ line ++ "\n"

theorem banner_eq (e : ResolvedEntity) (date fp : Option String) :
    banner e date fp = "/*\n * WARNING! This file was autogenerated. Do not modify it!\n" ++
      date.elim "" (fun d => " *\n * Creation date: " ++ d ++ "\n") ++
      fp.elim "" (fun f => " * " ++ fingerprintLabel ++ f ++ "\n") ++
      e.description.elim "" (fun text => " *\n" ++ String.join ((Text.splitLines text).map bannerLine)) ++
      " */\n\n" := by
  unfold banner
  cases date <;> cases fp <;> cases e.description <;> rfl

theorem isBlank_of_trimBlank_isEmpty {s : String} (h : (Text.trimBlank s).isEmpty = true) :
    ∀ c ∈ s.toList, Text.isBlank c = true := by
  unfold Text.trimBlank at h
  rw [String.isEmpty_iff, String.ofList_eq_empty_iff, List.reverse_eq_nil_iff,
    List.dropWhile_eq_nil_iff] at h
  intro c hc
  rw [← List.takeWhile_append_dropWhile (p := Text.isBlank) (l := s.toList), List.mem_append] at hc
  rcases hc with hc | hc
  · exact List.mem_takeWhile_imp hc
  · exact h c (List.mem_reverse.2 hc)

section Parts

variable {l : Language}

theorem keepsCommentOpen_of_blank {s : String} (h : (Text.trimBlank s).isEmpty = true) :
    KeepsCommentOpen l s.toList := by
  have hblank := isBlank_of_trimBlank_isEmpty h
  refine keepsCommentOpen_of_plain (fun hc => absurd (hblank _ hc) (by decide)) fun hclose => ?_
  exact absurd (hblank '*' (hclose.subset (by simp))) (by decide)


theorem keepsCommentOpen_bannerLine (line : String) :
    KeepsCommentOpen l (bannerLine line).toList ↔ KeepsCommentOpen l line.toList := by
  unfold bannerLine
  split
  · rename_i hblank
    exact iff_of_true (keepsCommentOpen_of_plain (by decide) (by decide))
      (keepsCommentOpen_of_blank hblank)
  · have hline : (" * " ++ line ++ "\n").toList = [' ', '*', ' '] ++ (line.toList ++ ['\n']) := by
      simp
    rw [hline, keepsCommentOpen_append_of_plain (by decide) (by decide) (by decide),
      keepsCommentOpen_append_newline_nil]

theorem endsLine_bannerLine (line : String) : EndsLine (bannerLine line).toList := by
  unfold bannerLine
  split
  · exact .inr (by decide)
  · exact endsLine_line _


/-- The description keeps the comment open exactly when each of its lines does. -/
theorem keepsCommentOpen_join_bannerLine (lines : List String) :
    KeepsCommentOpen l (String.join (lines.map bannerLine)).toList ↔
      ∀ line ∈ lines, KeepsCommentOpen l line.toList := by
  induction lines with
  | nil => simpa using keepsCommentOpen_nil
  | cons line lines ih =>
    rw [List.map_cons, String.join_cons, String.toList_append,
      keepsCommentOpen_append_of_endsLine (endsLine_bannerLine line), keepsCommentOpen_bannerLine,
      ih, List.forall_mem_cons]

/-- A line that writes a value behind a label ending in a blank keeps the comment open when the
value holds no `*` and no backslash. -/
theorem keepsCommentOpen_labelled {label v : String} (hlabel : '\\' ∉ label.toList)
    (hclose : ¬ ['*', '/'] <:+: label.toList) (hlast : label.toList.getLast? = some ' ')
    (hv : '*' ∉ v.toList ∧ '\\' ∉ v.toList) : KeepsCommentOpen l (label ++ v ++ "\n").toList := by
  have hline : (label ++ v ++ "\n").toList = label.toList ++ v.toList ++ ['\n'] := by simp
  rw [hline]
  apply keepsCommentOpen_of_plain
  · simp [hlabel, hv.2]
  · intro h
    rcases pair_infix_append.1 h with h | h | ⟨-, h⟩
    · rcases pair_infix_append.1 h with h | h | ⟨hl, -⟩
      · exact hclose h
      · exact hv.1 (h.subset (by simp))
      · rw [hlast] at hl
        cases hl
    · exact absurd h (by decide)
    · exact absurd h (by decide)


theorem keepsCommentOpen_dateLines {date : Option String}
    (hdate : ∀ d ∈ date, '*' ∉ d.toList ∧ '\\' ∉ d.toList) :
    KeepsCommentOpen l (date.elim "" fun d => " *\n * Creation date: " ++ d ++ "\n").toList := by
  cases date with
  | none => exact keepsCommentOpen_nil
  | some d =>
    exact keepsCommentOpen_labelled (by decide) (not_closes_of_slash_not_mem (by decide)) (by decide)
      (hdate d rfl)

theorem keepsCommentOpen_fingerprintLines {fp : Option String}
    (hfp : ∀ f ∈ fp, '*' ∉ f.toList ∧ '\\' ∉ f.toList) :
    KeepsCommentOpen l (fp.elim "" fun f => " * " ++ fingerprintLabel ++ f ++ "\n").toList := by
  cases fp with
  | none => exact keepsCommentOpen_nil
  | some f =>
    exact keepsCommentOpen_labelled (by decide) (not_closes_of_slash_not_mem (by decide)) (by decide)
      (hfp f rfl)

theorem keepsCommentOpen_descriptionLines (description : Option String) :
    KeepsCommentOpen l (description.elim "" fun text =>
        " *\n" ++ String.join ((Text.splitLines text).map bannerLine)).toList ↔
      ∀ text ∈ description, ∀ line ∈ Text.splitLines text, KeepsCommentOpen l line.toList := by
  cases description with
  | none => simpa using keepsCommentOpen_nil
  | some text =>
    have hsplit : (" *\n" ++ String.join ((Text.splitLines text).map bannerLine)).toList =
        [' ', '*'] ++ '\n' :: (String.join ((Text.splitLines text).map bannerLine)).toList := by
      simp
    rw [Option.elim_some, hsplit, keepsCommentOpen_append_newline, keepsCommentOpen_join_bannerLine]
    have hopen : KeepsCommentOpen l [' ', '*'] := keepsCommentOpen_of_plain (by decide) (by decide)
    simp [hopen]

end Parts

theorem endsLine_elim {o : Option String} {f : String → String}
    (hf : ∀ s, EndsLine (f s).toList) : EndsLine (o.elim "" f).toList := by
  cases o with
  | none => exact .inl (by simp)
  | some s => exact hf s

/-- The banner is one block comment exactly when no line of the description closes it, provided
the creation date and the fingerprint hold no `*` and no backslash. -/
theorem banner_oneBlockComment_iff (l : Language) (e : ResolvedEntity) {date fp : Option String}
    (hdate : ∀ d ∈ date, '*' ∉ d.toList ∧ '\\' ∉ d.toList)
    (hfp : ∀ f ∈ fp, '*' ∉ f.toList ∧ '\\' ∉ f.toList) :
    OneBlockComment l (banner e date fp) ↔
      ∀ text ∈ e.description, ∀ line ∈ Text.splitLines text, KeepsCommentOpen l line.toList := by
  set warning := ("\n * WARNING! This file was autogenerated. Do not modify it!\n" : String).toList
  set dateLines := (date.elim "" fun d => " *\n * Creation date: " ++ d ++ "\n").toList
  set fpLines := (fp.elim "" fun f => " * " ++ fingerprintLabel ++ f ++ "\n").toList
  set descLines := (e.description.elim "" fun text =>
    " *\n" ++ String.join ((Text.splitLines text).map bannerLine)).toList
  have hdateEnds : EndsLine dateLines := endsLine_elim fun _ => endsLine_line _
  have hfpEnds : EndsLine fpLines := endsLine_elim fun _ => endsLine_line _
  have hdescEnds : EndsLine descLines := endsLine_elim fun text => by
    rw [String.toList_append]
    exact EndsLine.append (.inr (by decide)) (endsLine_join_map endsLine_bannerLine _)
  have hwarning : ("/*\n * WARNING! This file was autogenerated. Do not modify it!\n" : String).toList =
      '/' :: '*' :: warning := by simp [warning]
  have hlast : (warning ++ (dateLines ++ (fpLines ++ descLines))).getLast? = some '\n' :=
    getLast?_append_of_endsLine (by decide) (hdateEnds.append (hfpEnds.append hdescEnds))
  have htext : (banner e date fp).toList =
      '/' :: '*' :: (warning ++ (dateLines ++ (fpLines ++ descLines)) ++ [' ', '*', '/', '\n', '\n']) := by
    rw [banner_eq]
    simp [hwarning]
    rfl
  rw [oneBlockComment_iff htext hlast]
  rw [keepsCommentOpen_append_of_endsLine (.inr (by decide)),
    keepsCommentOpen_append_of_endsLine hdateEnds, keepsCommentOpen_append_of_endsLine hfpEnds,
    keepsCommentOpen_descriptionLines]
  have hwarningOpen : KeepsCommentOpen l warning :=
    keepsCommentOpen_of_plain (by decide) (not_closes_of_slash_not_mem (by decide))
  have hdateOpen : KeepsCommentOpen l dateLines := keepsCommentOpen_dateLines hdate
  have hfpOpen : KeepsCommentOpen l fpLines := keepsCommentOpen_fingerprintLines hfp
  simp only [hwarningOpen, hdateOpen, hfpOpen, true_and]
end EntitySchema.Emit
