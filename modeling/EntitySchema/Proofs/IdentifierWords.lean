import EntitySchema.Proofs.OutputNames

/-!
# Words of identifiers

An identifier is ASCII: letters, digits and underscores. Each of its characters is a grapheme
cluster of its own, and the word splitter drops every underscore cluster, so the words of an
identifier are made of letters and digits. The case maps send an ASCII letter or digit to one
letter or digit. Hence the Pascal-case form of an identifier holds no underscore, and its
snake-case form never ends in one: its underscores stand between words.
-/

namespace EntitySchema

namespace Text

/-! ### Clusters of identifiers -/

theorem identPart_outside_tables : ∀ n < 128, isIdentPart (Char.ofNat n) = true →
    47 < n ∧ inRanges controlRanges n = false ∧ inRanges extendRanges n = false ∧
      inRanges spacingMarkRanges n = false ∧ inRanges prependRanges n = false ∧
      inRanges leadingJamoRanges n = false ∧ inRanges vowelJamoRanges n = false ∧
      inRanges trailingJamoRanges n = false ∧ inRanges pictographicRanges n = false ∧
      inRanges conjunctConsonantRanges n = false ∧ inRanges conjunctLinkerRanges n = false ∧
      inRanges conjunctExtendRanges n = false := by
  decide +kernel

section IdentPart

variable {c : Char} (hc : isIdentPart c = true)

include hc

theorem breakClass_of_isIdentPart : breakClass c = .other := by
  have hlt := toNat_lt_of_isIdentPart hc
  obtain ⟨hlo, hcontrol, hextend, hspacing, hprepend, hleading, hvowel, htrailing, -⟩ :=
    identPart_outside_tables c.toNat hlt (by rwa [Char.ofNat_toNat])
  unfold breakClass
  have h13 : c.toNat ≠ 13 := by omega
  have h10 : c.toNat ≠ 10 := by omega
  have hzwj : c.toNat ≠ 0x200D := by omega
  have hregional : ¬ 0x1F1E6 ≤ c.toNat := by omega
  have hsyllable : ¬ firstSyllable ≤ c.toNat := by
    unfold firstSyllable
    omega
  simp [h13, h10, hzwj, hcontrol, hextend, hregional, hspacing, hprepend, hsyllable, hleading,
    hvowel, htrailing]

theorem conjunctClass_of_isIdentPart : conjunctClass c = .none := by
  obtain ⟨-, -, -, -, -, -, -, -, -, hconsonant, hlinker, hextend⟩ :=
    identPart_outside_tables c.toNat (toNat_lt_of_isIdentPart hc) (by rwa [Char.ofNat_toNat])
  simp [conjunctClass, hconsonant, hlinker, hextend]

theorem isPictographic_of_isIdentPart : isPictographic c = false := by
  obtain ⟨-, -, -, -, -, -, -, -, hpicto, -⟩ :=
    identPart_outside_tables c.toNat (toNat_lt_of_isIdentPart hc) (by rwa [Char.ofNat_toNat])
  exact hpicto

/-- After an identifier character, or at the start of the text, the text breaks before the next
identifier character. -/
theorem breaksBefore_of_isIdentPart {s : BreakState}
    (hs : s.previous = .other ∨ s.previous = .control) : s.breaksBefore c = true := by
  unfold BreakState.breaksBefore
  rw [breakClass_of_isIdentPart hc, conjunctClass_of_isIdentPart hc,
    isPictographic_of_isIdentPart hc]
  rcases hs with hs | hs <;> simp +decide [hs, hangulJoins]

end IdentPart

theorem clustersAux_of_isIdentPart :
    ∀ {s : BreakState} {x : Char} {l : List Char}, s.previous = .other →
      (∀ c ∈ l, isIdentPart c = true) →
        clustersAux s [x] l = (x :: l).map fun c => String.ofList [c]
  | _, _, [], _, _ => rfl
  | s, x, c :: rest, hs, hl => by
    have hc := hl c List.mem_cons_self
    have hstep : (s.step c).previous = .other := breakClass_of_isIdentPart hc
    have hrest := clustersAux_of_isIdentPart (x := c) hstep fun d hd =>
      hl d (List.mem_cons_of_mem c hd)
    simp [clustersAux, breaksBefore_of_isIdentPart hc (.inl hs), hrest]

theorem clustersAux_nil_cons (s : BreakState) (c : Char) (rest : List Char) :
    clustersAux s [] (c :: rest) = clustersAux (s.step c) [c] rest := by
  simp [clustersAux]

theorem clusters_of_isIdentPart {s : String} (hs : ∀ c ∈ s.toList, isIdentPart c = true) :
    clusters s = s.toList.map fun c => String.ofList [c] := by
  unfold clusters
  cases h : s.toList with
  | nil => rfl
  | cons c rest =>
    rw [h] at hs
    have hc := hs c List.mem_cons_self
    rw [clustersAux_nil_cons]
    exact clustersAux_of_isIdentPart (breakClass_of_isIdentPart hc) fun d hd =>
      hs d (List.mem_cons_of_mem c hd)

/-! ### Words hold no underscore -/

/-- No cluster from position `a` up to position `b` is an underscore. -/
def FreeOfUnderscores (gs : List String) (a b : Nat) : Prop := ∀ j, a ≤ j → j < b → gs[j]? ≠ some "_"

theorem FreeOfUnderscores.succ {gs : List String} {a i : Nat} (h : FreeOfUnderscores gs a i)
    (hi : gs[i]? ≠ some "_") : FreeOfUnderscores gs a (i + 1) := by
  intro j hj hji
  rcases Nat.lt_or_ge j i with hj' | hj'
  · exact h j hj hj'
  · rwa [show j = i by omega]

theorem FreeOfUnderscores.of_le {gs : List String} {a b b' : Nat} (h : FreeOfUnderscores gs a b)
    (hb : b' ≤ b) : FreeOfUnderscores gs a b' :=
  fun j hj hjb => h j hj (by omega)

theorem freeOfUnderscores_of_le {gs : List String} {a b : Nat} (hb : b ≤ a) :
    FreeOfUnderscores gs a b :=
  fun j hj hjb => absurd hjb (by omega)

theorem boundaryAt_of_underscore {g : String} {rest : List String} (hg : g = "_") :
    boundaryAt (g :: rest) = some (0, 1) := by
  simp [boundaryAt, hg]

/-- A boundary takes one cluster where the word before it ends, or takes none and ends the word
one cluster later. -/
theorem boundaryAt_eq_some {gs : List String} {p : Nat × Nat} (h : boundaryAt gs = some p) :
    p = (0, 1) ∨ p = (1, 0) := by
  unfold boundaryAt at h
  repeat' split at h
  all_goals cases h <;> simp

theorem getElem?_ne_underscore {gs : List String} {i : Nat}
    (hb : boundaryAt (gs.drop i) ≠ some (0, 1)) : gs[i]? ≠ some "_" := by
  intro hu
  obtain ⟨hi, hg⟩ := List.getElem?_eq_some_iff.1 hu
  rw [List.drop_eq_getElem_cons hi, boundaryAt_of_underscore hg] at hb
  exact hb rfl

/-- The fold of `splitWords` over the cuts from position `i` on: it keeps the clusters since
the last cut free of underscores, and every word it pushes is such a stretch. -/
theorem foldl_cuts_free (gs : List String) :
    ∀ (k i : Nat) (acc : Nat × List String), i + k = gs.length → FreeOfUnderscores gs acc.1 i →
      (∀ w ∈ acc.2, ∃ a b, w = sliceJoin gs a b ∧ FreeOfUnderscores gs a b) →
      let acc' := ((List.range' i k).filterMap fun i =>
          (boundaryAt (gs.drop i)).map fun (start, len) =>
            (min gs.length (i + start), min gs.length (i + start + len))).foldl
        (fun p q => (q.2, sliceJoin gs p.1 q.1 :: p.2)) acc
      FreeOfUnderscores gs acc'.1 gs.length ∧
        ∀ w ∈ acc'.2, ∃ a b, w = sliceJoin gs a b ∧ FreeOfUnderscores gs a b := by
  intro k
  induction k with
  | zero =>
    intro i acc hi hfree hwords
    exact ⟨by simpa [← hi] using hfree, hwords⟩
  | succ k ih =>
    intro i acc hi hfree hwords
    have hmin : min gs.length (i + 1) = i + 1 := by omega
    rw [List.range'_succ, List.filterMap_cons]
    cases hb : boundaryAt (gs.drop i) with
    | none =>
      exact ih (i + 1) acc (by omega) (hfree.succ (getElem?_ne_underscore (by simp [hb]))) hwords
    | some p =>
      simp only [Option.map_some, List.foldl_cons]
      rcases boundaryAt_eq_some hb with rfl | rfl
      · refine ih (i + 1) _ (by omega) (freeOfUnderscores_of_le (by simp [hmin]))
          (List.forall_mem_cons.2 ⟨⟨_, _, rfl, hfree.of_le (by omega)⟩, hwords⟩)
      · have hp : gs[i]? ≠ some "_" := getElem?_ne_underscore (by simp [hb])
        refine ih (i + 1) _ (by omega) (freeOfUnderscores_of_le (by simp [hmin]))
          (List.forall_mem_cons.2 ⟨⟨_, _, rfl, (hfree.succ hp).of_le (by omega)⟩, hwords⟩)

theorem exists_free_of_mem_splitWords {s w : String} (hw : w ∈ splitWords s) :
    ∃ a b, w = sliceJoin (clusters s) a b ∧ FreeOfUnderscores (clusters s) a b := by
  unfold splitWords at hw
  dsimp only at hw
  simp only [List.mem_filter, List.mem_reverse, List.mem_cons] at hw
  obtain ⟨hlast, hwords⟩ := foldl_cuts_free (clusters s) (clusters s).length 0 (0, [])
    (by omega) (fun j hj hj0 => absurd hj0 (by omega)) (by simp)
  rw [cutsOf, List.range_eq_range'] at hw
  rcases hw.1 with rfl | hw
  · exact ⟨_, _, rfl, hlast⟩
  · exact hwords w hw

theorem isAlphanum_of_mem_splitWords {s w : String} (hs : ∀ c ∈ s.toList, isIdentPart c = true)
    (hw : w ∈ splitWords s) {c : Char} (hc : c ∈ w.toList) : c.isAlphanum = true := by
  obtain ⟨a, b, rfl, hfree⟩ := exists_free_of_mem_splitWords hw
  rw [sliceJoin, String.toList_join, List.mem_flatMap] at hc
  obtain ⟨g, hg, hcg⟩ := hc
  obtain ⟨i, hi⟩ := List.mem_iff_getElem?.1 hg
  have hib : i < b - a := by
    by_contra hge
    simp [hge] at hi
  rw [List.getElem?_take_of_lt hib, List.getElem?_drop] at hi
  have hgu : g ≠ "_" := fun hu => hfree (a + i) (by omega) (by omega) (hu ▸ hi)
  rw [clusters_of_isIdentPart hs, List.getElem?_map] at hi
  obtain ⟨d, hd, rfl⟩ := Option.map_eq_some_iff.1 hi
  rw [String.toList_ofList, List.mem_singleton] at hcg
  subst hcg
  have hpart := hs c (List.mem_of_getElem? hd)
  have hne : c ≠ '_' := fun hu => hgu (by rw [hu])
  simpa [isIdentPart, hne] using hpart

/-! ### Case maps of letters and digits -/

theorem caseMaps_of_isAlphanum_lt : ∀ n < 128, (Char.ofNat n).isAlphanum = true →
    (lowerChar (Char.ofNat n)).length = 1 ∧ (lowerChar (Char.ofNat n)).all Char.isAlphanum ∧
      (upperChar (Char.ofNat n)).all Char.isAlphanum := by
  decide +kernel

section Alphanum

variable {c : Char} (hc : c.isAlphanum = true)

include hc

theorem toNat_lt_of_isAlphanum : c.toNat < 128 :=
  toNat_lt_of_isIdentPart (by simp [isIdentPart, hc])

theorem caseMaps_of_isAlphanum :
    (lowerChar c).length = 1 ∧ (lowerChar c).all Char.isAlphanum ∧
      (upperChar c).all Char.isAlphanum := by
  have h := caseMaps_of_isAlphanum_lt c.toNat (toNat_lt_of_isAlphanum hc)
    (by rwa [Char.ofNat_toNat])
  rwa [Char.ofNat_toNat] at h

theorem ne_sigma_of_isAlphanum : c ≠ 'Σ' := by
  intro h
  have hlt := toNat_lt_of_isAlphanum hc
  rw [h] at hlt
  exact absurd hlt (by decide)

end Alphanum

theorem isAlphanum_of_mem_toLowercase {w : String} (hw : ∀ c ∈ w.toList, c.isAlphanum = true)
    {d : Char} (hd : d ∈ (toLowercase w).toList) : d.isAlphanum = true := by
  rw [toLowercase, String.toList_ofList] at hd
  obtain ⟨c, hc, hsigma | hd⟩ := mem_lowerAux hd
  · exact absurd hsigma (ne_sigma_of_isAlphanum (hw c hc))
  · exact List.all_eq_true.1 (caseMaps_of_isAlphanum (hw c hc)).2.1 d hd

theorem isAlphanum_of_mem_toUppercase {w : String} (hw : ∀ c ∈ w.toList, c.isAlphanum = true)
    {d : Char} (hd : d ∈ (toUppercase w).toList) : d.isAlphanum = true := by
  rw [toUppercase, String.toList_ofList, List.mem_flatMap] at hd
  obtain ⟨c, hc, hd⟩ := hd
  exact List.all_eq_true.1 (caseMaps_of_isAlphanum (hw c hc)).2.2 d hd

theorem toLowercase_ne_nil {w : String} (hw : ∀ c ∈ w.toList, c.isAlphanum = true)
    (hne : w.toList ≠ []) : (toLowercase w).toList ≠ [] := by
  rw [toLowercase, String.toList_ofList]
  obtain ⟨c, rest, hcons⟩ := List.exists_cons_of_ne_nil hne
  have hc := hw c (by simp [hcons])
  have hlen := (caseMaps_of_isAlphanum hc).1
  rw [hcons, lowerAux]
  simp only [beq_iff_eq, ne_sigma_of_isAlphanum hc, ↓reduceIte]
  intro hnil
  rw [List.append_eq_nil_iff] at hnil
  rw [hnil.1] at hlen
  cases hlen

/-! ### Case styles of identifiers -/

theorem isAlphanum_of_mem_capitalize {w : String} (hw : ∀ c ∈ w.toList, c.isAlphanum = true)
    {d : Char} (hd : d ∈ (capitalize w).toList) : d.isAlphanum = true := by
  have hcl : ∀ g ∈ clusters w, ∀ c ∈ g.toList, c.isAlphanum = true :=
    fun g hg c hc => hw c (mem_of_mem_clusters hg hc)
  unfold capitalize at hd
  split at hd
  · simp at hd
  · rename_i g rest hgs
    have hg : ∀ c ∈ g.toList, c.isAlphanum = true := hcl g (by simp [hgs])
    have hrest : ∀ c ∈ (String.join rest).toList, c.isAlphanum = true := by
      intro c hc
      rw [String.toList_join, List.mem_flatMap] at hc
      obtain ⟨g', hg', hc⟩ := hc
      exact hcl g' (by simp [hgs, hg']) c hc
    rw [String.toList_append, List.mem_append] at hd
    rcases hd with hd | hd
    · exact isAlphanum_of_mem_toUppercase hg hd
    · exact isAlphanum_of_mem_toLowercase hrest hd

theorem isAlphanum_of_mem_pascalCase {s : String} (hs : ∀ c ∈ s.toList, isIdentPart c = true)
    {d : Char} (hd : d ∈ (pascalCase s).toList) : d.isAlphanum = true := by
  rw [pascalCase, String.toList_join, List.mem_flatMap] at hd
  obtain ⟨x, hx, hd⟩ := hd
  obtain ⟨w, hw, rfl⟩ := List.mem_map.1 hx
  exact isAlphanum_of_mem_capitalize (fun c hc => isAlphanum_of_mem_splitWords hs hw hc) hd

/-- The Pascal-case form of an identifier holds no underscore. -/
theorem underscore_not_mem_pascalCase {s : String} (hs : ∀ c ∈ s.toList, isIdentPart c = true) :
    '_' ∉ (pascalCase s).toList :=
  fun hu => absurd (isAlphanum_of_mem_pascalCase hs hu) (by decide)

theorem getLast?_intercalate_underscore :
    ∀ {xs : List String}, xs ≠ [] → (∀ x ∈ xs, x.toList ≠ [] ∧ ∀ c ∈ x.toList, c.isAlphanum) →
      ∃ d, ("_".intercalate xs).toList.getLast? = some d ∧ d.isAlphanum = true
  | [x], _, hx => by
    obtain ⟨hne, halnum⟩ := hx x List.mem_cons_self
    obtain ⟨d, hd⟩ := List.getLast?_isSome.2 hne |> Option.isSome_iff_exists.1
    exact ⟨d, by simpa using hd, halnum d (List.mem_of_getLast? hd)⟩
  | x :: y :: rest, _, hx => by
    obtain ⟨d, hd, halnum⟩ := getLast?_intercalate_underscore (List.cons_ne_nil y rest)
      fun z hz => hx z (List.mem_cons_of_mem x hz)
    refine ⟨d, ?_, halnum⟩
    rw [String.intercalate_cons_cons, String.toList_append, List.getLast?_append, hd]
    rfl

theorem getLast?_snakeCase_ne {s : String} (hs : ∀ c ∈ s.toList, isIdentPart c = true) :
    (snakeCase s).toList.getLast? ≠ some '_' := by
  rw [snakeCase]
  cases hwords : splitWords s with
  | nil => simp
  | cons w rest =>
    have hlower : ∀ x ∈ (w :: rest).map toLowercase,
        x.toList ≠ [] ∧ ∀ c ∈ x.toList, c.isAlphanum = true := by
      intro x hx
      obtain ⟨v, hv, rfl⟩ := List.mem_map.1 hx
      rw [← hwords] at hv
      have halnum : ∀ c ∈ v.toList, c.isAlphanum = true :=
        fun c hc => isAlphanum_of_mem_splitWords hs hv hc
      have hne : v.toList ≠ [] := by
        unfold splitWords at hv
        simp only [List.mem_filter, Bool.not_eq_eq_eq_not, Bool.not_true,
          String.isEmpty_eq_false_iff] at hv
        simpa using hv.2
      exact ⟨toLowercase_ne_nil halnum hne, fun c hc => isAlphanum_of_mem_toLowercase halnum hc⟩
    obtain ⟨d, hd, halnum⟩ := getLast?_intercalate_underscore (by simp) hlower
    rw [hd]
    intro hu
    rw [Option.some.inj hu] at halnum
    exact absurd halnum (by decide)

end Text

end EntitySchema
