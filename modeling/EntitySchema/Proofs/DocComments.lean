import Mathlib.Data.List.DropRight
import EntitySchema.Proofs.DescriptionComments

/-!
# Descriptions in documentation comments

A Rust struct or enumeration carries its entity's description as documentation, each line of it
behind `/// ` at the start of a line of the file. A line comment runs to the next line feed, and
no line of a description holds one, so every line lies inside a documentation comment
(`renderRust_inDocComment`). The writer cuts text at line feeds and drops a carriage return before
one, so a line may lose carriage returns that end it; they are no part of its text.

With `banner_oneBlockComment_iff` this says where a description can leave the comments it is
written into: in C++, C# and Java at a line that closes the banner's block comment, in Rust
nowhere (`description_in_comments`).
-/

namespace EntitySchema.Emit

open EntitySchema.Target

/-! ## Lines of a text -/

/-- A line without the carriage returns that end it. -/
def lineText (line : List Char) : List Char := line.rdropWhile (· == '\r')

/-- A line as the writer cuts it off a text: a carriage return at its end dropped. -/
def cutLine (line : List Char) : List Char :=
  if line.getLast? = some '\r' then line.dropLast else line

theorem lineText_cutLine (line : List Char) : lineText (cutLine line) = lineText line := by
  unfold cutLine
  split
  · rename_i h
    conv_rhs => rw [← List.dropLast_append_getLast? '\r' h]
    exact (List.rdropWhile_concat_pos _ _ '\r' rfl).symm
  · rfl

theorem splitLinesAux_newline (rest current : List Char) :
    Text.splitLinesAux ('\n' :: rest) current =
      String.ofList (cutLine current.reverse) :: Text.splitLinesAux rest [] := by
  unfold cutLine
  rcases current with _ | ⟨c, before⟩
  · rw [Text.splitLinesAux.eq_4 _ _ (by simp)]
    simp
  · by_cases hc : c = '\r'
    · subst hc
      rw [Text.splitLinesAux.eq_3]
      simp
    · rw [Text.splitLinesAux.eq_4 _ _ (by simp [hc])]
      simp [hc]

theorem splitLinesAux_append_of_no_newline {xs : List Char} (h : '\n' ∉ xs) (rest : List Char) :
    ∀ current, Text.splitLinesAux (xs ++ rest) current = Text.splitLinesAux rest (xs.reverse ++ current) := by
  induction xs with
  | nil => exact fun _ => rfl
  | cons c xs ih =>
    intro current
    have hc : c ≠ '\n' := fun hc => h (hc ▸ List.mem_cons_self)
    rw [List.cons_append, Text.splitLinesAux.eq_5 _ _ _ hc, ih fun h' => h (List.mem_cons_of_mem c h')]
    simp

theorem splitLinesAux_ne_nil : ∀ {cs current : List Char}, cs ≠ [] ∨ current ≠ [] →
    Text.splitLinesAux cs current ≠ []
  | [], [], h => by simp at h
  | [], _ :: _, _ => by simp [Text.splitLinesAux]
  | c :: cs, current, _ => by
    by_cases hc : c = '\n'
    · subst hc
      simp [splitLinesAux_newline]
    · rw [Text.splitLinesAux.eq_5 _ _ _ hc]
      exact splitLinesAux_ne_nil (.inr (List.cons_ne_nil c current))

theorem newline_not_mem_of_mem_splitLinesAux : ∀ {cs current : List Char}, '\n' ∉ current →
    ∀ line ∈ Text.splitLinesAux cs current, '\n' ∉ line.toList
  | [], [], _, line, hline => by simp [Text.splitLinesAux] at hline
  | [], c :: current, hcur, line, hline => by
    simp only [Text.splitLinesAux, List.mem_singleton] at hline
    subst hline
    simpa [and_comm] using hcur
  | c :: cs, current, hcur, line, hline => by
    by_cases hc : c = '\n'
    · subst hc
      rw [splitLinesAux_newline, List.mem_cons] at hline
      rcases hline with rfl | hline
      · intro hmem
        have hsub : List.Sublist (cutLine current.reverse) current.reverse := by
          unfold cutLine
          split
          · exact List.dropLast_sublist _
          · exact List.Sublist.refl _
        exact hcur (List.mem_reverse.1 (hsub.subset (by simpa using hmem)))
      · exact newline_not_mem_of_mem_splitLinesAux (by simp) line hline
    · rw [Text.splitLinesAux.eq_5 _ _ _ hc] at hline
      refine newline_not_mem_of_mem_splitLinesAux ?_ line hline
      rintro (_ | ⟨_, hmem⟩)
      · exact hc rfl
      · exact hcur hmem

theorem newline_not_mem_of_mem_splitLines {s line : String} (h : line ∈ Text.splitLines s) :
    '\n' ∉ line.toList :=
  newline_not_mem_of_mem_splitLinesAux (by simp) line h

/-- Text after a line feed leaves the lines before it as they were, up to the carriage returns that
end the last of them. -/
theorem exists_line_of_append_newline (b : List Char) : ∀ {a current : List Char} {line : String},
    line ∈ Text.splitLinesAux a current →
      ∃ line' ∈ Text.splitLinesAux (a ++ '\n' :: b) current, lineText line'.toList = lineText line.toList
  | [], [], line, hline => by simp [Text.splitLinesAux] at hline
  | [], c :: current, line, hline => by
    simp only [Text.splitLinesAux, List.mem_singleton] at hline
    subst hline
    refine ⟨_, (splitLinesAux_newline b (c :: current)) ▸ List.mem_cons_self, ?_⟩
    simp [lineText_cutLine]
  | c :: a, current, line, hline => by
    by_cases hc : c = '\n'
    · subst hc
      rw [splitLinesAux_newline, List.mem_cons] at hline
      rw [List.cons_append, splitLinesAux_newline]
      rcases hline with rfl | hline
      · exact ⟨_, List.mem_cons_self, rfl⟩
      · obtain ⟨line', hmem, heq⟩ := exists_line_of_append_newline b hline
        exact ⟨line', List.mem_cons_of_mem _ hmem, heq⟩
    · rw [Text.splitLinesAux.eq_5 _ _ _ hc] at hline
      rw [List.cons_append, Text.splitLinesAux.eq_5 _ _ _ hc]
      exact exists_line_of_append_newline b hline

/-! ## What the writer adds -/

namespace Indented

/-- The text of `v` is a beginning of the text of `w`: `w` is `v` with more written. -/
def Grows (v w : Indented) : Prop := v.text.toList <+: w.text.toList

theorem Grows.refl (w : Indented) : Grows w w := List.prefix_refl _

theorem Grows.trans {u v w : Indented} (h₁ : Grows u v) (h₂ : Grows v w) : Grows u w :=
  List.IsPrefix.trans h₁ h₂

theorem Grows.of_text {v w : Indented} {t : String} (h : w.text = v.text ++ t) : Grows v w := by
  unfold Grows
  rw [h, String.toList_append]
  exact List.prefix_append _ _

theorem Grows.exists_append {v w : Indented} (h : Grows v w) : ∃ t, w.text.toList = v.text.toList ++ t := by
  obtain ⟨t, ht⟩ := h
  exact ⟨t, ht.symm⟩

theorem grows_write (w : Indented) (piece : String) : Grows w (w.write piece) := by
  obtain ⟨t, ht⟩ := write_extends w piece
  exact .of_text ht

theorem grows_writeAll (w : Indented) (pieces : List String) : Grows w (w.writeAll pieces) := by
  obtain ⟨-, t, ht⟩ := writeAll_extends w pieces
  exact .of_text ht

theorem grows_foldl {α : Type} {f : Indented → α → Indented} (hf : ∀ w a, Grows w (f w a)) :
    ∀ (xs : List α) (w : Indented), Grows w (xs.foldl f w)
  | [], w => .refl w
  | a :: xs, w => (hf w a).trans (grows_foldl hf xs (f w a))

theorem grows_block (w : Indented) {body : Indented → Indented} (hbody : ∀ v, Grows v (body v)) :
    Grows w (w.block body) := by
  unfold block
  dsimp only
  set v := if w.atLineStart = true then w else w.write " " with hv
  have hopen : Grows w v := by
    rw [hv]
    split
    · exact .refl w
    · exact grows_write w " "
  refine (hopen.trans ?_).trans (grows_write _ _)
  exact (grows_write v _).trans (hbody { text := (v.write "\x7b\n").text, spaces := v.spaces + 4 })

theorem grows_writeDocs (w : Indented) (docs : String) : Grows w (w.writeDocs docs) :=
  grows_foldl (fun w _ => grows_writeAll w _) _ w

theorem grows_ite {c : Prop} [Decidable c] {w a b : Indented} (ha : Grows w a) (hb : Grows w b) :
    Grows w (if c then a else b) := by
  split
  · exact ha
  · exact hb

theorem writeStruct_of_docs {s : StructDef} {d : String} (hd : s.docs = some d) (w : Indented) :
    w.writeStruct s = (w.writeDocs d).writeStruct { s with docs := none } := by
  obtain ⟨name, docs, derives, fields⟩ := s
  cases hd
  rfl

theorem grows_fieldLoop (fields : List FieldDef) (v : Indented) :
    Grows v (fields.foldl (fun w f =>
      let w := f.docs.foldl (fun w d => w.writeAll ["/// ", d, "\n"]) w
      let w := f.annotations.foldl (fun w a => w.writeAll [a, "\n"]) w
      w.writeAll [f.name, ": ", f.type, ",\n"]) v) := by
  apply grows_foldl
  intro w f
  have hdocs := grows_foldl (fun w (d : String) => grows_writeAll w ["/// ", d, "\n"]) f.docs w
  have hannotations := grows_foldl (fun w (a : String) => grows_writeAll w [a, "\n"]) f.annotations
    (f.docs.foldl (fun w d => w.writeAll ["/// ", d, "\n"]) w)
  exact (hdocs.trans hannotations).trans (grows_writeAll _ _)

theorem grows_writeStruct_undocumented {s : StructDef} (hs : s.docs = none) (w : Indented) :
    Grows w (w.writeStruct s) := by
  obtain ⟨name, docs, derives, fields⟩ := s
  cases hs
  unfold writeStruct
  dsimp only
  have hhead : Grows w ((if derives.isEmpty = true then w
      else w.write ("#[derive(" ++ ", ".intercalate derives ++ ")]\n")).writeAll ["pub ", "struct ", name]) :=
    (grows_ite (.refl w) (grows_write w _)).trans (grows_writeAll _ _)
  split
  · exact hhead.trans (grows_write _ _)
  · exact hhead.trans (grows_block _ (grows_fieldLoop fields))

theorem grows_writeStruct (w : Indented) (s : StructDef) : Grows w (w.writeStruct s) := by
  cases hd : s.docs with
  | none => exact grows_writeStruct_undocumented hd w
  | some d =>
    rw [writeStruct_of_docs hd]
    exact (grows_writeDocs w d).trans (grows_writeStruct_undocumented rfl _)

theorem grows_writeFn (w : Indented) (f : FnDef) : Grows w (w.writeFn f) := by
  obtain ⟨name, returns, body⟩ := f
  have hbody : ∀ v : Indented, Grows v (body.foldl (fun w line => w.writeAll [line, "\n"]) v) :=
    grows_foldl (fun w (line : String) => grows_writeAll w [line, "\n"]) body
  have hhead := grows_writeAll w ["fn ", name, "(", ")"]
  unfold writeFn
  cases returns <;> dsimp only
  case none => exact hhead.trans (grows_block _ hbody)
  case some r => exact (hhead.trans (grows_writeAll _ _)).trans (grows_block _ hbody)

theorem grows_writeImpl (w : Indented) (i : ImplDef) : Grows w (w.writeImpl i) := by
  obtain ⟨target, traitName, fns⟩ := i
  have hfns : ∀ v : Indented, Grows v (fns.zipIdx.foldl
      (fun w (f, k) => (if k == 0 then w else w.write "\n").writeFn f) v) := by
    apply grows_foldl
    rintro w ⟨f, k⟩
    exact (grows_ite (.refl w) (grows_write w _)).trans (grows_writeFn _ f)
  have hhead := grows_write w "impl"
  unfold writeImpl
  cases traitName <;> dsimp only
  case none => exact (hhead.trans (grows_writeAll _ _)).trans (grows_block _ hfns)
  case some t =>
    exact ((hhead.trans (grows_writeAll _ _)).trans (grows_writeAll _ _)).trans (grows_block _ hfns)

theorem grows_writeItem (w : Indented) : ∀ item : Item, Grows w (w.writeItem item)
  | .raw _ => grows_writeAll w _
  | .structDef s => grows_writeStruct w s
  | .implDef i => grows_writeImpl w i

end Indented

/-! ## Writing at depth zero -/

namespace Indented

theorem endsWith_newline_eq_false {s : String} (hn : '\n' ∉ s.toList) : s.endsWith "\n" = false := by
  have hiff := @String.Slice.endsWith_string_iff "\n" s.toSlice
  rw [← Bool.not_eq_true]
  intro h
  have hsuffix : ['\n'] <:+ s.toList := by simpa using hiff.1 h
  exact hn (hsuffix.subset (by simp))

theorem foldl_unindented {f : String × Bool × Bool → String → String × Bool × Bool}
    (hf : ∀ text first sl line,
      f (text, first, sl) line = ((if first then text else text ++ "\n") ++ line, false, true)) :
    ∀ (lines : List String) (text : String) (sl : Bool),
      (lines.foldl f (text, false, sl)).1 = text ++ String.join (lines.map ("\n" ++ ·))
  | [], text, _ => by simp
  | x :: xs, text, sl => by
    rw [List.foldl_cons, hf, foldl_unindented hf xs]
    simp [String.append_assoc]

/-- At depth zero a piece is written as its lines, a line feed between two of them, and at most a
final line feed. -/
theorem write_unindented {w : Indented} (hw : w.spaces = 0) {piece x : String} {xs : List String}
    (h : Text.splitLines piece = x :: xs) :
    ∃ t, (w.write piece).text = w.text ++ x ++ String.join (xs.map ("\n" ++ ·)) ++ t := by
  unfold write
  simp only [h, List.foldl_cons]
  rw [foldl_unindented]
  · simp only [hw, gt_iff_lt, Nat.lt_irrefl, decide_false, Bool.and_false, Bool.false_eq_true,
      if_false, if_true]
    split
    · exact ⟨"\n", rfl⟩
    · exact ⟨"", by simp⟩
  · intro text first sl line
    simp [hw]

theorem write_of_no_newline {w : Indented} (hw : w.spaces = 0) {piece : String}
    (hn : '\n' ∉ piece.toList) : (w.write piece).text = w.text ++ piece := by
  by_cases hp : piece = ""
  · subst hp
    have hlines : Text.splitLines "" = [] := rfl
    unfold write
    simp [hlines, endsWith_newline_eq_false hn]
  · unfold write
    simp [splitLines_of_no_newline hn hp, hw, endsWith_newline_eq_false hn]


theorem spaces_write (w : Indented) (piece : String) : (w.write piece).spaces = w.spaces := rfl

theorem foldl_docLine {w : Indented} (hw : w.spaces = 0) :
    ∀ lines : List String, (∀ line ∈ lines, '\n' ∉ line.toList) →
      (lines.foldl (fun w line => w.writeAll ["/// ", line, "\n"]) w).spaces = 0 ∧
      (lines.foldl (fun w line => w.writeAll ["/// ", line, "\n"]) w).text =
        w.text ++ String.join (lines.map fun line => "/// " ++ line ++ "\n") := by
  intro lines
  induction lines generalizing w with
  | nil => exact fun _ => ⟨hw, by simp⟩
  | cons line lines ih =>
    intro hlines
    have hline : '\n' ∉ line.toList := hlines line List.mem_cons_self
    have hstep : (w.writeAll ["/// ", line, "\n"]).text = w.text ++ ("/// " ++ line ++ "\n") := by
      simp only [writeAll, List.foldl_cons, List.foldl_nil]
      rw [write_newline, write_of_no_newline (w := w.write "/// ") hw hline,
        write_of_no_newline hw (by decide)]
      simp only [String.append_assoc]
    obtain ⟨hs, ht⟩ := ih (w := w.writeAll ["/// ", line, "\n"]) hw
      fun l hl => hlines l (List.mem_cons_of_mem line hl)
    refine ⟨hs, ?_⟩
    rw [List.foldl_cons, ht, hstep, List.map_cons, String.join_cons, String.append_assoc]

theorem writeDocs_text {w : Indented} (hw : w.spaces = 0) (docs : String) :
    (w.writeDocs docs).spaces = 0 ∧ (w.writeDocs docs).text =
      w.text ++ String.join ((Text.splitLines docs).map fun line => "/// " ++ line ++ "\n") :=
  foldl_docLine hw _ fun _ => newline_not_mem_of_mem_splitLines

theorem writeStruct_undocumented_text {w : Indented} (hw : w.spaces = 0) {s : StructDef}
    (hs : s.docs = none) : ∃ t, (w.writeStruct s).text.toList = w.text.toList ++ t ∧ t ≠ [] := by
  obtain ⟨name, docs, derives, fields⟩ := s
  cases hs
  unfold writeStruct
  dsimp only
  set v := if derives.isEmpty = true then w
    else w.write ("#[derive(" ++ ", ".intercalate derives ++ ")]\n") with hv
  have hgrows : Grows w v := grows_ite (.refl w) (grows_write w _)
  have hspaces : v.spaces = 0 := by
    rw [hv]
    split
    · exact hw
    · exact hw
  have hpub : (v.write "pub ").text = v.text ++ "pub " := write_of_no_newline hspaces (by decide)
  have hhead : Grows (v.write "pub ") (v.writeAll ["pub ", "struct ", name]) :=
    grows_writeAll (v.write "pub ") ["struct ", name]
  have htail : Grows (v.write "pub ") (if fields.isEmpty = true then
      (v.writeAll ["pub ", "struct ", name]).write ";\n"
      else (v.writeAll ["pub ", "struct ", name]).block fun w => fields.foldl (fun w f =>
        let w := f.docs.foldl (fun w d => w.writeAll ["/// ", d, "\n"]) w
        let w := f.annotations.foldl (fun w a => w.writeAll [a, "\n"]) w
        w.writeAll [f.name, ": ", f.type, ",\n"]) w) :=
    grows_ite (hhead.trans (grows_write _ _)) (hhead.trans (grows_block _ (grows_fieldLoop fields)))
  obtain ⟨a, ha⟩ := hgrows.exists_append
  obtain ⟨b, hb⟩ := htail.exists_append
  refine ⟨a ++ ['p', 'u', 'b', ' '] ++ b, ?_, by simp⟩
  rw [hb, hpub, String.toList_append, ha]
  simp

end Indented

/-! ## Documentation comments -/

/-- `line` lies in a documentation comment of `out`: it holds no line feed, and `out` has, right
after a line feed, `/// `, the line without the carriage returns that end it, carriage returns
and a line feed. -/
def InDocComment (out line : List Char) : Prop :=
  '\n' ∉ line ∧ ∃ pre crs rest, out = pre ++ ['/', '/', '/', ' '] ++ lineText line ++ crs ++ '\n' :: rest ∧
    pre.getLast? = some '\n' ∧ ∀ c ∈ crs, c = '\r'

theorem inDocComment_of_eq {out pre written line rest : List Char} (hn : '\n' ∉ line)
    (hpre : pre.getLast? = some '\n') (hline : lineText written = lineText line)
    (h : out = pre ++ ['/', '/', '/', ' '] ++ written ++ '\n' :: rest) : InDocComment out line := by
  refine ⟨hn, pre, written.rtakeWhile (· == '\r'), rest, ?_, hpre, ?_⟩
  · rw [h, ← hline, lineText]
    conv_lhs => rw [← List.rdropWhile_append_rtakeWhile (p := (· == '\r')) (l := written)]
    simp only [List.append_assoc]
  · intro c hc
    simpa using List.mem_rtakeWhile_imp hc

theorem InDocComment.append_left {out line : List Char} (h : InDocComment out line) (a : List Char) :
    InDocComment (a ++ out) line := by
  obtain ⟨hn, pre, crs, rest, rfl, hpre, hcrs⟩ := h
  refine ⟨hn, a ++ pre, crs, rest, by simp, ?_, hcrs⟩
  rw [List.getLast?_append, hpre]
  rfl

theorem InDocComment.append_right {out line : List Char} (h : InDocComment out line) (t : List Char) :
    InDocComment (out ++ t) line := by
  obtain ⟨hn, pre, crs, rest, rfl, hpre, hcrs⟩ := h
  exact ⟨hn, pre, crs, rest ++ t, by simp, hpre, hcrs⟩

theorem inDocComment_docLines {text : String} (htext : text.toList.getLast? = some '\n')
    {lines : List String} (hlines : ∀ line ∈ lines, '\n' ∉ line.toList) {line : String}
    (hline : line ∈ lines) :
    InDocComment (text ++ String.join (lines.map fun line => "/// " ++ line ++ "\n")).toList line.toList := by
  obtain ⟨xs, ys, rfl⟩ := List.append_of_mem hline
  have hpre : (text ++ String.join (xs.map fun line => "/// " ++ line ++ "\n")).toList.getLast? =
      some '\n' := by
    rw [String.toList_append]
    exact getLast?_append_of_endsLine htext (endsLine_join_map (fun _ => endsLine_line _) xs)
  refine @inDocComment_of_eq _ _ _ _ (String.join (ys.map fun line => "/// " ++ line ++ "\n")).toList
    (hlines line (by simp)) hpre rfl ?_
  simp [String.join_append]

theorem InDocComment.of_lineText {out line line' : List Char} (h : InDocComment out line')
    (hn : '\n' ∉ line) (heq : lineText line' = lineText line) : InDocComment out line := by
  obtain ⟨-, pre, crs, rest, hout, hpre, hcrs⟩ := h
  exact ⟨hn, pre, crs, rest, heq ▸ hout, hpre, hcrs⟩

theorem cutLine_append {a b : List Char} (ha : a.getLast? ≠ some '\r') :
    cutLine (a ++ b) = a ++ cutLine b := by
  by_cases hb : b = []
  · subst hb
    simp [cutLine, ha]
  · obtain ⟨c, hc⟩ : ∃ c, b.getLast? = some c := Option.ne_none_iff_exists'.1 (by simpa using hb)
    have hlast : (a ++ b).getLast? = b.getLast? := by
      rw [List.getLast?_append, hc]
      rfl
    unfold cutLine
    rw [hlast]
    split
    · exact List.dropLast_append_of_ne_nil hb
    · rfl

/-! ## Rendering a scope -/

/-- The end of a rendering: a final line feed dropped. -/
def finishText (text : String) : String :=
  if text.endsWith "\n" then String.ofList text.toList.dropLast else text

/-- One step of the item loop of a rendering: a line feed between two items. -/
def itemStep (w : Indented) (p : Item × Nat) : Indented :=
  (if p.2 == 0 then w else w.write "\n").writeItem p.1

theorem inDocComment_finishText {text : String} {A t line : List Char} (hA : InDocComment A line)
    (htext : text.toList = A ++ t) (ht : t ≠ []) : InDocComment (finishText text).toList line := by
  unfold finishText
  split
  · rw [String.toList_ofList, htext, List.dropLast_append_of_ne_nil ht]
    exact hA.append_right _
  · rw [htext]
    exact hA.append_right _

theorem spaces_writeImports (w : Indented) :
    ∀ imports : List (String × List String), (w.writeImports imports).spaces = w.spaces := by
  intro imports
  induction imports generalizing w with
  | nil => rfl
  | cons entry imports ih =>
    obtain ⟨path, names⟩ := entry
    unfold Indented.writeImports at ih ⊢
    rw [List.foldl_cons, ih]
    dsimp only
    split
    · rfl
    · exact (Indented.writeAll_extends w _).1
    · exact (Indented.writeAll_extends w _).1

theorem writeItem_raw_empty {w : Indented} (hw : w.spaces = 0) :
    (w.writeItem (.raw "")).text = w.text ++ "\n" ∧ (w.writeItem (.raw "")).spaces = 0 := by
  refine ⟨?_, hw⟩
  simp only [Indented.writeItem, Indented.writeAll, List.foldl_cons, List.foldl_nil]
  rw [Indented.write_newline, Indented.write_of_no_newline hw (by simp), String.append_empty]

/-- A scope whose items start with an empty line: the second item is written at depth zero after
a line feed. -/
theorem render_raw_empty_cons (imports : List (String × List String)) (item : Item)
    (more : List Item) : ∃ w : Indented, w.spaces = 0 ∧ w.text.toList.getLast? = some '\n' ∧
      Scope.render ⟨imports, .raw "" :: item :: more⟩ =
        finishText ((more.zipIdx 2).foldl itemStep (w.writeItem item)).text := by
  set w₀ := if imports.isEmpty = true then ({} : Indented).writeImports imports
    else (({} : Indented).writeImports imports).write "\n" with hw₀
  have hs₀ : w₀.spaces = 0 := by
    rw [hw₀]
    split
    · exact spaces_writeImports _ imports
    · exact spaces_writeImports _ imports
  obtain ⟨htext, hs₁⟩ := writeItem_raw_empty hs₀
  refine ⟨(w₀.writeItem (.raw "")).write "\n", hs₁, ?_, rfl⟩
  rw [Indented.write_newline]
  simp

theorem grows_itemStep (w : Indented) (p : Item × Nat) : Indented.Grows w (itemStep w p) :=
  (Indented.grows_ite (.refl w) (Indented.grows_write w _)).trans (Indented.grows_writeItem _ p.1)

theorem render_structDocs (imports : List (String × List String)) {model : StructDef} {d : String}
    (hd : model.docs = some d) (more : List Item) {line : String} (hline : line ∈ Text.splitLines d) :
    InDocComment (Scope.render ⟨imports, .raw "" :: .structDef model :: more⟩).toList line.toList := by
  obtain ⟨w, hw, hlast, hrender⟩ := render_raw_empty_cons imports (.structDef model) more
  rw [hrender]
  obtain ⟨hspaces, hdocs⟩ := Indented.writeDocs_text hw d
  have hin : InDocComment (w.writeDocs d).text.toList line.toList := by
    rw [hdocs]
    exact inDocComment_docLines hlast (fun _ => newline_not_mem_of_mem_splitLines) hline
  obtain ⟨t, ht, hne⟩ := Indented.writeStruct_undocumented_text (s := { model with docs := none })
    hspaces rfl
  obtain ⟨u, hu⟩ :=
    (Indented.grows_foldl grows_itemStep (more.zipIdx 2) (w.writeItem (.structDef model))).exists_append
  refine inDocComment_finishText hin (t := t ++ u) ?_ (by simp [hne])
  rw [hu]
  simp only [Indented.writeItem, Indented.writeStruct_of_docs hd, ht, List.append_assoc]

/-- Documentation lines followed by more text split into the documentation lines, each cut where
its line feed was, and the lines of the text after them. -/
theorem splitLinesAux_docLines {lines : List String} (hlines : ∀ line ∈ lines, '\n' ∉ line.toList)
    (rest : List Char) :
    Text.splitLinesAux ((String.join (lines.map fun line => "/// " ++ line ++ "\n")).toList ++ rest) [] =
      lines.map (fun line => String.ofList (cutLine ("/// " ++ line).toList)) ++
        Text.splitLinesAux rest [] := by
  induction lines with
  | nil => simp
  | cons line lines ih =>
    have hn : '\n' ∉ ("/// " ++ line).toList := by
      simpa using hlines line List.mem_cons_self
    have hpiece : ("/// " ++ line ++ "\n").toList = ("/// " ++ line).toList ++ ['\n'] := by simp
    rw [List.map_cons, String.join_cons, String.toList_append, hpiece, List.append_assoc,
      List.append_assoc, List.singleton_append, splitLinesAux_append_of_no_newline hn,
      List.append_nil, splitLinesAux_newline, List.reverse_reverse,
      ih fun l hl => hlines l (List.mem_cons_of_mem line hl)]
    rfl

/-- Lines joined by line feeds after a text that ends a line: each line but the last stands after a
line feed and before one. -/
theorem exists_joinLines {T : String} (hT : T.toList.getLast? = some '\n') :
    ∀ (xs : List String) {y z x₀ : String} {zs rest : List String}, xs ++ y :: z :: zs = x₀ :: rest →
      ∃ pre post : String, T ++ x₀ ++ String.join (rest.map ("\n" ++ ·)) = pre ++ y ++ "\n" ++ post ∧
        pre.toList.getLast? = some '\n'
  | [], y, z, x₀, zs, rest, h => by
    obtain ⟨rfl, rfl⟩ := List.cons.inj h
    exact ⟨T, z ++ String.join (zs.map ("\n" ++ ·)), by simp [String.append_assoc], hT⟩
  | x :: xs, y, z, x₀, zs, rest, h => by
    obtain ⟨rfl, rfl⟩ := List.cons.inj h
    refine ⟨T ++ x ++ String.join (xs.map ("\n" ++ ·)) ++ "\n", z ++ String.join (zs.map ("\n" ++ ·)),
      ?_, by simp⟩
    simp [String.join_append, String.append_assoc]

/-- Documentation lines written as one raw piece, with more text after them: each line lies in a
documentation comment of the rendering. -/
theorem render_rawDocs (imports : List (String × List String)) {lines : List String}
    (hlines : ∀ line ∈ lines, '\n' ∉ line.toList) {tail : String} (htail : tail ≠ "")
    {line : String} (hline : line ∈ lines) :
    InDocComment (Scope.render ⟨imports,
      [.raw "", .raw (String.join (lines.map fun line => "/// " ++ line ++ "\n") ++ tail)]⟩).toList
      line.toList := by
  set code := String.join (lines.map fun line => "/// " ++ line ++ "\n") ++ tail
  obtain ⟨w, hw, hlast, hrender⟩ := render_raw_empty_cons imports (.raw code) []
  rw [hrender]
  set g := fun line : String => String.ofList (cutLine ("/// " ++ line).toList)
  have hsplit : Text.splitLines code = lines.map g ++ Text.splitLinesAux tail.toList [] := by
    unfold Text.splitLines
    rw [String.toList_append]
    exact splitLinesAux_docLines hlines _
  have htailLines : Text.splitLinesAux tail.toList [] ≠ [] :=
    splitLinesAux_ne_nil (.inl (by simpa using htail))
  obtain ⟨ls₁, ls₂, rfl⟩ := List.append_of_mem hline
  obtain ⟨z, zs, hz⟩ : ∃ z zs, ls₂.map g ++ Text.splitLinesAux tail.toList [] = z :: zs :=
    List.exists_cons_of_ne_nil (by simp [htailLines])
  have hfull : Text.splitLines code = ls₁.map g ++ g line :: z :: zs := by
    rw [hsplit, ← hz]
    simp
  obtain ⟨x₀, rest, hx₀⟩ : ∃ x₀ rest, Text.splitLines code = x₀ :: rest :=
    List.exists_cons_of_ne_nil (by simp [hfull])
  obtain ⟨t, ht⟩ := Indented.write_unindented hw hx₀
  obtain ⟨pre, post, hpp, hpre⟩ := exists_joinLines hlast (ls₁.map g) (hfull.symm.trans hx₀)
  have hloop : (([] : List Item).zipIdx 2).foldl itemStep (w.writeItem (.raw code)) =
      (w.write code).write "\n" := rfl
  have hn : '\n' ∉ line.toList := hlines line (by simp)
  have hin : InDocComment (pre ++ g line ++ "\n").toList line.toList := by
    refine @inDocComment_of_eq _ _ _ _ [] hn hpre (lineText_cutLine line.toList) ?_
    simp only [g, String.toList_append, String.toList_ofList]
    rw [cutLine_append (by decide)]
    simp
  refine inDocComment_finishText hin (t := (post ++ t ++ "\n").toList) ?_ (by simp)
  rw [hloop, Indented.write_newline, ht, hpp]
  simp [String.append_assoc]

/-! ## Rust files -/

theorem items_addImport (s : Scope) (path name : String) : (s.addImport path name).items = s.items := by
  unfold Scope.addImport
  split
  · rfl
  · rfl

theorem items_rustImports (e : ResolvedEntity) : (rustImports e).items = [] := by
  have hfold : ∀ (refs : List String) (s : Scope),
      (refs.foldl (fun s n => s.addImport "super" n) s).items = s.items := by
    intro refs
    induction refs with
    | nil => exact fun _ => rfl
    | cons n refs ih => exact fun s => (ih _).trans (items_addImport s _ n)
  exact hfold _ _

theorem renderRustStruct_eq (e : ResolvedEntity) (date fp : Option String) :
    ∃ (model : StructDef) (more : List Item),
      renderRustStruct e date fp =
        rustHeader e date fp ++ Scope.render ⟨(rustImports e).imports, .raw "" :: .structDef model :: more⟩ ∧
      model.docs = some (e.description.getD ("Model: " ++ e.name) ++
        (if e.ancestors.isEmpty then "" else "\n\nFlattened from: " ++ " -> ".intercalate e.ancestors)) := by
  unfold renderRustStruct
  simp only [Scope.push, items_rustImports, List.nil_append, List.cons_append]
  exact ⟨_, _, rfl, rfl⟩

theorem renderRustEnum_eq (e : ResolvedEntity) (date fp : Option String) :
    ∃ tail : String, renderRustEnum e date fp = rustHeader e date fp ++
      Scope.render ⟨serdeScope.imports, [.raw "", .raw (String.join
        ((Text.splitLines (e.description.getD ("Enumeration: " ++ e.name))).map fun line =>
          "/// " ++ line ++ "\n") ++ tail)]⟩ ∧ tail ≠ "" := by
  have hitems : serdeScope.items = [] := items_addImport _ _ _
  unfold renderRustEnum
  exact ⟨_, by simp only [Scope.push, hitems, List.nil_append, List.cons_append, String.append_assoc]; rfl,
    by simp⟩

/-- Every line of an entity's description lies in a documentation comment of its Rust file. -/
theorem renderRust_inDocComment (e : ResolvedEntity) (date fp : Option String) {text : String}
    (htext : e.description = some text) {line : String} (hline : line ∈ Text.splitLines text) :
    InDocComment (renderRust e date fp).toList line.toList := by
  unfold renderRust
  split
  · obtain ⟨tail, heq, htail⟩ := renderRustEnum_eq e date fp
    rw [heq, String.toList_append, htext, Option.getD_some]
    exact (render_rawDocs _ (fun _ => newline_not_mem_of_mem_splitLines) htail hline).append_left _
  · obtain ⟨model, more, heq, hdocs⟩ := renderRustStruct_eq e date fp
    rw [heq, String.toList_append]
    refine InDocComment.append_left ?_ _
    rw [htext, Option.getD_some] at hdocs
    split at hdocs
    · rw [String.append_empty] at hdocs
      exact render_structDocs _ hdocs more hline
    · obtain ⟨line', hmem, hsame⟩ := exists_line_of_append_newline
        ("\nFlattened from: " ++ " -> ".intercalate e.ancestors).toList hline
      have hsplit : Text.splitLines (text ++ ("\n\nFlattened from: " ++ " -> ".intercalate e.ancestors)) =
          Text.splitLinesAux (text.toList ++ '\n' ::
            ("\nFlattened from: " ++ " -> ".intercalate e.ancestors).toList) [] := by
        unfold Text.splitLines
        simp
      exact (render_structDocs _ hdocs more (hsplit ▸ hmem)).of_lineText
        (newline_not_mem_of_mem_splitLines hline) hsame

/-! ## Where a description can leave its comments -/

/-- An entity's description stays inside the comments it is written into except where a line of it
closes the banner's block comment: the banner of a C++, C# or Java file is one block comment
exactly when every line of the description keeps the comment open in that language, and in the
Rust file every line lies in a documentation comment. The creation date and the fingerprint hold
no `*` and no backslash, as the clock's text and a hexadecimal digest do not. -/
theorem description_in_comments (e : ResolvedEntity) {date fp : Option String}
    (hdate : ∀ d ∈ date, '*' ∉ d.toList ∧ '\\' ∉ d.toList)
    (hfp : ∀ f ∈ fp, '*' ∉ f.toList ∧ '\\' ∉ f.toList) :
    (∀ l : Language, OneBlockComment l (banner e date fp) ↔
      ∀ text ∈ e.description, ∀ line ∈ Text.splitLines text, KeepsCommentOpen l line.toList) ∧
    ∀ text ∈ e.description, ∀ line ∈ Text.splitLines text,
      InDocComment (renderRust e date fp).toList line.toList :=
  ⟨fun l => banner_oneBlockComment_iff l e hdate hfp,
    fun _ htext _ hline => renderRust_inDocComment e date fp htext hline⟩

/-- A class `Note` with a description and a creation date. -/
def datedNote : ResolvedEntity :=
  { name := "Note", kind := .record, ancestors := [], fields := [], rank := 0, dependencies := [],
    references := [], description := some "Notes are kept\nin order.", namespaceName := none,
    package := none, implements := none, subdir := none }

theorem datedNote_in_comments :
    (∀ l : Language, OneBlockComment l (banner datedNote (some "2024-05-01 12:00:00 UTC") none) ↔
      ∀ text ∈ datedNote.description, ∀ line ∈ Text.splitLines text,
        KeepsCommentOpen l line.toList) ∧
    ∀ text ∈ datedNote.description, ∀ line ∈ Text.splitLines text,
      InDocComment (renderRust datedNote (some "2024-05-01 12:00:00 UTC") none).toList line.toList :=
  description_in_comments datedNote (fun d hd => by cases hd; exact ⟨by decide, by decide⟩)
    (fun f hf => by cases hf)

/-- A class `Note` whose description holds `*/`. -/
def closingNote : Registry :=
  ⟨[{ name := "Note", description := some "Closes */ early",
      fields := [⟨"x", .primitive .boolean, none⟩] }]⟩

/-- The banner of `Note`'s C++ file closes its comment inside the description: `early` and the
rest of the banner are read as code. -/
theorem closingNote_closes_early : ∃ m, closingNote.resolve {} = .ok m ∧
    ∃ e ∈ m.entities, e.description = some "Closes */ early" ∧
      ¬ OneBlockComment .cpp (banner e none none) := by
  refine ⟨_, rfl, ?_⟩
  refine ⟨_, List.mem_cons_self, ?_⟩
  refine ⟨rfl, ?_⟩
  rw [banner_oneBlockComment_iff .cpp _ (fun _ h => by cases h) (fun _ h => by cases h)]
  intro hopen
  have hlines : Text.splitLines "Closes */ early" = ["Closes */ early"] := by decide
  have hline := hopen "Closes */ early" rfl "Closes */ early" (by rw [hlines]; exact List.mem_cons_self)
  rw [keepsCommentOpen_iff_of_ne_java (by decide)] at hline
  exact hline (by decide +kernel)

end EntitySchema.Emit
