import EntitySchema.Emit.Disk

/-!
# Every generated file carries its fingerprint line

A file is skipped on regeneration when the text `Fingerprint: ` followed by the entity's current
fingerprint occurs in it. This module shows that every file the generator renders with a
fingerprint contains that text, in each of the four languages, so that a file just written is
recognised as current the next time. The fingerprint is a hexadecimal digest: it has no line
feed, which is what keeps it on one line of the Rust header.
-/

namespace EntitySchema.Emit

/-! ### Occurrence of a pattern -/

theorem occursInChars_append_left (p s : List Char) :
    ∀ t : List Char, occursInChars p t = true → occursInChars p (s ++ t) = true := by
  induction s with
  | nil => intro t h; exact h
  | cons c s ih => intro t h; simp [occursInChars, ih t h]

theorem occursInChars_append_right (p t : List Char) :
    ∀ s : List Char, occursInChars p s = true → occursInChars p (s ++ t) = true
  | [], h => by
    obtain rfl : p = [] := by simpa [occursInChars] using h
    cases t <;> simp [occursInChars]
  | c :: s, h => by
    simp only [occursInChars, Bool.or_eq_true] at h
    rcases h with h | h
    · have hpre : p.isPrefixOf (c :: (s ++ t)) = true := by
        rw [List.isPrefixOf_iff_prefix] at h ⊢
        exact h.trans (List.prefix_append _ _)
      rw [List.cons_append]
      simp only [occursInChars, hpre, Bool.true_or]
    · rw [List.cons_append]
      simp [occursInChars, occursInChars_append_right p t s h]

theorem occursInChars_self (p : List Char) : occursInChars p p = true := by
  cases p with
  | nil => rfl
  | cons c rest => simp [occursInChars, List.isPrefixOf_iff_prefix]

theorem occursIn_append_left {p t : String} (s : String) (h : occursIn p t = true) :
    occursIn p (s ++ t) = true := by
  simpa [occursIn, String.toList_append] using occursInChars_append_left _ s.toList _ h

theorem occursIn_append_right {p s : String} (t : String) (h : occursIn p s = true) :
    occursIn p (s ++ t) = true := by
  simpa [occursIn, String.toList_append] using occursInChars_append_right _ t.toList _ h

theorem occursIn_self (p : String) : occursIn p p = true := occursInChars_self p.toList

theorem occursIn_dropLast {p a b : String} (h : occursIn p a = true) (hb : b ≠ "") :
    occursIn p (String.ofList (a ++ b).toList.dropLast) = true := by
  have hb' : b.toList ≠ [] := by simpa using hb
  simp only [occursIn, String.toList_ofList, String.toList_append,
    List.dropLast_append_of_ne_nil hb']
  exact occursInChars_append_right _ _ _ h

/-! ### The fingerprint is one line -/

theorem digitChar_ne_newline (d : Nat) : d.digitChar ≠ '\n' := by
  by_cases h : 16 ≤ d
  · rw [Nat.digitChar_eq_star.2 h]
    decide
  · have hsmall : ∀ k < 16, k.digitChar ≠ '\n' := by decide
    exact hsmall d (by omega)

theorem mem_toDigitsCore {base fuel n : Nat} {cs : List Char} {c : Char}
    (h : c ∈ Nat.toDigitsCore base fuel n cs) : c ∈ cs ∨ ∃ d : Nat, c = d.digitChar := by
  induction fuel generalizing n cs with
  | zero => exact .inl h
  | succ fuel ih =>
    rw [Nat.toDigitsCore] at h
    split at h
    · rcases List.mem_cons.1 h with rfl | h
      · exact .inr ⟨_, rfl⟩
      · exact .inl h
    · rcases ih h with h | h
      · rcases List.mem_cons.1 h with rfl | h
        · exact .inr ⟨_, rfl⟩
        · exact .inl h
      · exact .inr h

theorem newline_not_mem_wordHex (x : UInt32) : '\n' ∉ (Digest.wordHex x).toList := by
  simp only [Digest.wordHex, String.toList_ofList, List.mem_append, List.mem_replicate, not_or]
  refine ⟨by simp, fun h => ?_⟩
  rcases mem_toDigitsCore h with h | ⟨d, hd⟩
  · simp at h
  · exact digitChar_ne_newline d hd.symm

theorem newline_not_mem_sha256Hex (b : ByteArray) : '\n' ∉ (Digest.sha256Hex b).toList := by
  simp only [Digest.sha256Hex, String.toList_join, List.mem_flatMap, List.mem_map, not_exists,
    not_and]
  rintro _ ⟨x, -, rfl⟩
  exact newline_not_mem_wordHex x

theorem newline_not_mem_fingerprint (g : Generator) (e : ResolvedEntity) (m : Model) :
    '\n' ∉ (g.fingerprint e m).toList := by
  unfold Generator.fingerprint Digest.sha256HexOfText
  exact newline_not_mem_sha256Hex _

theorem splitLinesAux_of_no_newline {cs : List Char} (hn : '\n' ∉ cs) :
    ∀ current : List Char, cs ≠ [] ∨ current ≠ [] →
      Text.splitLinesAux cs current = [String.ofList (current.reverse ++ cs)] := by
  induction cs with
  | nil =>
    rintro (_ | c) h
    · simp at h
    · simp [Text.splitLinesAux]
  | cons c rest ih =>
    intro current _
    have hc : c ≠ '\n' := fun h => hn (h ▸ List.mem_cons_self)
    have hrest : '\n' ∉ rest := fun h => hn (List.mem_cons_of_mem c h)
    rw [Text.splitLinesAux.eq_5 _ _ _ hc, ih hrest (c :: current) (.inr (List.cons_ne_nil c current))]
    simp

theorem splitLines_of_no_newline {s : String} (hn : '\n' ∉ s.toList) (hs : s ≠ "") :
    Text.splitLines s = [s] := by
  unfold Text.splitLines
  rw [splitLinesAux_of_no_newline hn _ (.inl (by simpa using hs))]
  simp

/-! ### Writing only appends -/

namespace Indented

theorem foldl_fst_extends {β γ : Type} {f : String × γ → β → String × γ}
    (hf : ∀ acc x, ∃ t, (f acc x).1 = acc.1 ++ t) :
    ∀ (xs : List β) {acc : String × γ} {s : String}, acc.1 = s → ∃ t, (xs.foldl f acc).1 = s ++ t
  | [], acc, s, hs => ⟨"", by simp [hs]⟩
  | x :: xs, acc, s, hs => by
    obtain ⟨t₁, h₁⟩ := hf acc x
    obtain ⟨t₂, h₂⟩ := foldl_fst_extends hf xs (rfl : (f acc x).1 = _)
    exact ⟨t₁ ++ t₂, by rw [List.foldl_cons, h₂, h₁, hs, String.append_assoc]⟩

theorem exists_append_append {x y : String} (z : String) (h : ∃ t, x = y ++ t) :
    ∃ t, x ++ z = y ++ t := by
  obtain ⟨t, rfl⟩ := h
  exact ⟨t ++ z, String.append_assoc⟩

theorem write_extends (w : Indented) (piece : String) : ∃ t, (w.write piece).text = w.text ++ t := by
  unfold write
  simp only
  split
  · apply exists_append_append
    apply foldl_fst_extends _ _ rfl
    intro acc line
    split <;> split <;> simp only [String.append_assoc] <;> exact ⟨_, rfl⟩
  · apply foldl_fst_extends _ _ rfl
    intro acc line
    split <;> split <;> simp only [String.append_assoc] <;> exact ⟨_, rfl⟩

theorem writeAll_extends (w : Indented) : ∀ pieces : List String,
    (w.writeAll pieces).spaces = w.spaces ∧ ∃ t, (w.writeAll pieces).text = w.text ++ t
  | [] => ⟨rfl, "", by simp [writeAll]⟩
  | p :: ps => by
    obtain ⟨t₁, h₁⟩ := write_extends w p
    obtain ⟨hs, t₂, h₂⟩ := writeAll_extends (w.write p) ps
    simp only [writeAll, List.foldl_cons] at h₂ ⊢
    exact ⟨hs, t₁ ++ t₂, by rw [h₂, h₁, String.append_assoc]⟩

theorem write_line (w : Indented) (hw : w.spaces = 0) {piece : String}
    (h : Text.splitLines piece = [piece]) : ∃ t, (w.write piece).text = w.text ++ piece ++ t := by
  unfold write
  simp only [h, List.foldl_cons, List.foldl_nil, hw]
  split
  · exact ⟨"\n", by simp⟩
  · exact ⟨"", by simp⟩

theorem write_newline (w : Indented) : (w.write "\n").text = w.text ++ "\n" := by
  have hs : Text.splitLines "\n" = [""] := by decide
  have he : "\n".endsWith "\n" = true := by decide +kernel
  unfold write
  simp [hs, he]

theorem rawStep_extends (w : Indented) (line : String) (k : Nat) :
    ((if k == 0 then w else w.write "\n").writeItem (.raw line)).spaces = w.spaces ∧
      ∃ t, ((if k == 0 then w else w.write "\n").writeItem (.raw line)).text = w.text ++ t := by
  split
  · exact writeAll_extends w _
  · obtain ⟨hs, t, ht⟩ := writeAll_extends (w.write "\n") [line, "\n"]
    exact ⟨hs, "\n" ++ t, by simp only [writeItem, ht, write_newline, String.append_assoc]⟩

theorem rawStep_line (w : Indented) (hw : w.spaces = 0) {line : String}
    (h : Text.splitLines line = [line]) (k : Nat) :
    ∃ a t, ((if k == 0 then w else w.write "\n").writeItem (.raw line)).text = a ++ line ++ t ++ "\n" := by
  have hstep : ∀ v : Indented, v.spaces = 0 →
      ∃ t, (v.writeItem (.raw line)).text = v.text ++ line ++ t ++ "\n" := by
    intro v hv
    obtain ⟨t, ht⟩ := write_line v hv h
    exact ⟨t, by simp only [writeItem, writeAll, List.foldl_cons, List.foldl_nil, write_newline, ht]⟩
  split
  · obtain ⟨t, ht⟩ := hstep w hw
    exact ⟨w.text, t, ht⟩
  · obtain ⟨t, ht⟩ := hstep (w.write "\n") hw
    exact ⟨_, t, ht⟩

/-- The item loop of a scope of raw lines. -/
abbrev rawLoop (lines : List String) (n : Nat) (w : Indented) : Indented :=
  ((lines.map Item.raw).zipIdx n).foldl
    (fun w (item, k) => (if k == 0 then w else w.write "\n").writeItem item) w

theorem rawLoop_extends : ∀ (lines : List String) (n : Nat) (w : Indented),
    (rawLoop lines n w).spaces = w.spaces ∧ ∃ t, (rawLoop lines n w).text = w.text ++ t
  | [], _, w => ⟨rfl, "", by simp [rawLoop]⟩
  | l :: rest, n, w => by
    obtain ⟨hs₁, t₁, h₁⟩ := rawStep_extends w l n
    obtain ⟨hs₂, t₂, h₂⟩ := rawLoop_extends rest (n + 1)
      ((if n == 0 then w else w.write "\n").writeItem (.raw l))
    simp only [rawLoop, List.map_cons, List.zipIdx_cons, List.foldl_cons] at h₂ hs₂ ⊢
    exact ⟨hs₂.trans hs₁, t₁ ++ t₂, by rw [h₂, h₁, String.append_assoc]⟩

theorem rawLoop_line {line : String} (h : Text.splitLines line = [line]) :
    ∀ (lines : List String) (n : Nat) (w : Indented), w.spaces = 0 → line ∈ lines →
      ∃ a b, (rawLoop lines n w).text = a ++ line ++ b ∧ b ≠ ""
  | l :: rest, n, w, hw, hmem => by
    simp only [rawLoop, List.map_cons, List.zipIdx_cons, List.foldl_cons]
    rcases List.mem_cons.1 hmem with rfl | hrest
    · obtain ⟨a, t, ht⟩ := rawStep_line w hw h n
      obtain ⟨-, t', ht'⟩ := rawLoop_extends rest (n + 1)
        ((if n == 0 then w else w.write "\n").writeItem (.raw line))
      refine ⟨a, t ++ "\n" ++ t', ?_, by simp⟩
      rw [ht', ht]
      simp only [String.append_assoc]
    · obtain ⟨hs, -⟩ := rawStep_extends w l n
      exact rawLoop_line h rest (n + 1) _ (hs.trans hw) hrest

end Indented

theorem occursIn_render_raw {p line : String} (hp : occursIn p line = true)
    (h : Text.splitLines line = [line]) {lines : List String} (hmem : line ∈ lines) :
    occursIn p ({ items := lines.map Item.raw } : Scope).render = true := by
  obtain ⟨a, b, hab, hb⟩ := Indented.rawLoop_line h lines 0 {} rfl hmem
  have hin : occursIn p (a ++ line) = true := occursIn_append_left _ hp
  simp only [Scope.render, Indented.writeImports, List.foldl_nil, List.isEmpty_nil, if_true]
  change occursIn p (if (Indented.rawLoop lines 0 {}).text.endsWith "\n" then _ else _) = true
  rw [hab]
  split
  · exact occursIn_dropLast hin hb
  · exact occursIn_append_right _ hin

/-! ### The fingerprint line of each language -/

theorem occursIn_rustHeader (e : ResolvedEntity) (date : Option String) {fp : String}
    (hfp : '\n' ∉ fp.toList) :
    occursIn (fingerprintLabel ++ fp) (rustHeader e date (some fp)) = true := by
  have hlabel : '\n' ∉ ("// " ++ fingerprintLabel).toList := by decide
  have hline : '\n' ∉ ("// " ++ fingerprintLabel ++ fp).toList := by
    rw [String.toList_append, List.mem_append]
    exact fun h => h.elim hlabel hfp
  have hp : occursIn (fingerprintLabel ++ fp) ("// " ++ fingerprintLabel ++ fp) = true := by
    rw [String.append_assoc]
    exact occursIn_append_left _ (occursIn_self _)
  unfold rustHeader
  exact occursIn_render_raw hp (splitLines_of_no_newline hline (by simp [String.append_assoc]))
    (by simp)

theorem occursIn_banner (e : ResolvedEntity) (date : Option String) (fp : String) :
    occursIn (fingerprintLabel ++ fp) (banner e date (some fp)) = true := by
  unfold banner
  simp only [String.append_assoc]
  refine occursIn_append_left _ (occursIn_append_left _ (occursIn_append_left _ ?_))
  rw [← String.append_assoc]
  exact occursIn_append_right _ (occursIn_self _)

theorem renderCpp_eq (e : ResolvedEntity) (m : Model) (o : EmitOptions) (date fp : Option String) :
    ∃ rest, renderCpp e m o date fp = banner e date fp ++ rest := by
  unfold renderCpp
  split
  simp only [String.append_assoc]
  exact ⟨_, rfl⟩

theorem renderCsharp_eq (e : ResolvedEntity) (m : Model) (o : EmitOptions) (date fp : Option String) :
    ∃ rest, renderCsharp e m o date fp = banner e date fp ++ rest := by
  unfold renderCsharp
  split
  simp only [String.append_assoc]
  exact ⟨_, rfl⟩

theorem renderJava_eq (e : ResolvedEntity) (m : Model) (o : EmitOptions) (date fp : Option String) :
    ∃ rest, renderJava e m o date fp = banner e date fp ++ rest := by
  unfold renderJava
  split <;> simp only [String.append_assoc] <;> exact ⟨_, rfl⟩

theorem renderRust_eq (e : ResolvedEntity) (date fp : Option String) :
    ∃ rest, renderRust e date fp = rustHeader e date fp ++ rest := by
  unfold renderRust renderRustEnum renderRustStruct
  split <;> exact ⟨_, rfl⟩

theorem occursIn_render (g : Generator) (e : ResolvedEntity) (m : Model) (date : Option String)
    {fp : String} (hfp : '\n' ∉ fp.toList) :
    occursIn (fingerprintLabel ++ fp) (g.render e m date (some fp)) = true := by
  have hbanner : ∀ rest, occursIn (fingerprintLabel ++ fp) (banner e date (some fp) ++ rest) = true :=
    fun rest => occursIn_append_right rest (occursIn_banner e date fp)
  unfold Generator.render
  split
  · obtain ⟨rest, h⟩ := renderCpp_eq e m g.options date (some fp)
    rw [h]; exact hbanner rest
  · obtain ⟨rest, h⟩ := renderCsharp_eq e m g.options date (some fp)
    rw [h]; exact hbanner rest
  · obtain ⟨rest, h⟩ := renderJava_eq e m g.options date (some fp)
    rw [h]; exact hbanner rest
  · obtain ⟨rest, h⟩ := renderRust_eq e date (some fp)
    rw [h]; exact occursIn_append_right rest (occursIn_rustHeader e date hfp)

/-- A generated file carries the fingerprint of its entity, whatever its creation date. -/
theorem occursIn_generateEntity (g : Generator) (e : ResolvedEntity) (m : Model) (now : String) :
    occursIn (fingerprintLabel ++ g.fingerprint e m) (g.generateEntity e m now) = true :=
  occursIn_render g e m _ (newline_not_mem_fingerprint g e m)

end EntitySchema.Emit
