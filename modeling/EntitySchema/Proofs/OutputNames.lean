import EntitySchema.Proofs.CrossReferences

/-!
# Output names of distinct entities

Entity names are identifiers and distinct within a model, but the names generated from them pass
through maps that may lose the difference. A C++, C# or Java file is named by the entity's own
name: its path ends in that name after the last separator, so two entities never share a path,
whatever their subdirectories. A Rust file is named by the snake-cased module name, which has no
separator: two entities share a Rust path exactly when they share a module name (`Hat` and `HAT`
both give `hat`), and no entity takes the path of `mod.rs`, since `mod` is a keyword and gets its
underscore. A C++ include guard upper-cases the name, so within one namespace two entities share a
guard exactly when their names agree up to letter case.
-/

namespace EntitySchema

open Target

/-! ### Paths that end in a name -/

namespace Path

theorem isAbsolute_eq_false {p : String} (hp : '/' ∉ p.toList) : isAbsolute p = false := by
  cases h : isAbsolute p with
  | false => rfl
  | true =>
    obtain ⟨t, ht⟩ := String.startsWith_string_iff.1 h
    exact absurd (by rw [← ht]; simp) hp

/-- A name without separators joined to a directory ends the path, after nothing or a
separator. -/
theorem exists_join_eq (D : String) {p : String} (hp : '/' ∉ p.toList) :
    ∃ X : List Char, (join D p).toList = X ++ p.toList ∧ (X = [] ∨ X.getLast? = some '/') := by
  unfold join
  rw [isAbsolute_eq_false hp]
  simp only [Bool.false_eq_true, ↓reduceIte]
  split
  · exact ⟨[], rfl, .inl rfl⟩
  · split
    · rename_i hend
      have hsuf : ['/'] <:+ D.toList := by
        have hslice : D.toSlice.endsWith "/" = true := hend
        simpa using String.Slice.endsWith_string_iff.1 hslice
      obtain ⟨t, ht⟩ := hsuf
      exact ⟨D.toList, String.toList_append, .inr (by rw [← ht]; simp)⟩
    · exact ⟨D.toList ++ ['/'], by simp [String.toList_append], .inr (by simp)⟩

/-- Two texts that end in separator-free names, each after nothing or a separator, end in the same
name when they are equal. -/
theorem eq_of_append_eq {X₁ X₂ p₁ p₂ : List Char} (hX₁ : X₁ = [] ∨ X₁.getLast? = some '/')
    (hX₂ : X₂ = [] ∨ X₂.getLast? = some '/') (hp₁ : '/' ∉ p₁) (hp₂ : '/' ∉ p₂)
    (h : X₁ ++ p₁ = X₂ ++ p₂) : p₁ = p₂ := by
  have key : ∀ {X₁ X₂ p₁ p₂ : List Char} (a : List Char), (X₂ = [] ∨ X₂.getLast? = some '/') →
      '/' ∉ p₁ → X₂ = X₁ ++ a → p₁ = a ++ p₂ → p₁ = p₂ := by
    intro X₁ X₂ p₁ p₂ a hX₂ hp₁ hx hp
    rcases List.eq_nil_or_concat a with rfl | ⟨L, b, rfl⟩
    · simpa using hp
    · exfalso
      rcases hX₂ with hX₂ | hX₂
      · simp [hx] at hX₂
      · simp [hx] at hX₂
        apply hp₁
        simp [hp, hX₂]
  rcases List.append_eq_append_iff.1 h with ⟨a, hx, hp⟩ | ⟨c, hx, hp⟩
  · exact key a hX₂ hp₁ hx hp
  · exact (key c hX₁ hp₂ hx hp).symm

theorem eq_of_join_eq {D₁ D₂ p₁ p₂ : String} (hp₁ : '/' ∉ p₁.toList) (hp₂ : '/' ∉ p₂.toList)
    (h : join D₁ p₁ = join D₂ p₂) : p₁ = p₂ := by
  obtain ⟨X₁, h₁, hX₁⟩ := exists_join_eq D₁ hp₁
  obtain ⟨X₂, h₂, hX₂⟩ := exists_join_eq D₂ hp₂
  have h' : X₁ ++ p₁.toList = X₂ ++ p₂.toList := by rw [← h₁, ← h₂, h]
  exact String.toList_inj.1 (eq_of_append_eq hX₁ hX₂ hp₁ hp₂ h')

end Path

/-! ### Characters of snake-cased names -/

namespace Text

theorem mem_clustersAux {c : Char} :
    ∀ {st : BreakState} {cur l : List Char} {g : String},
      g ∈ clustersAux st cur l → c ∈ g.toList → c ∈ cur ∨ c ∈ l
  | _, _, [], _, hg, hc => by
    unfold clustersAux at hg
    split at hg
    · cases hg
    · rw [List.mem_singleton.1 hg, String.toList_ofList, List.mem_reverse] at hc
      exact .inl hc
  | _, _, x :: rest, _, hg, hc => by
    unfold clustersAux at hg
    split at hg
    · rcases List.mem_cons.1 hg with rfl | hg
      · rw [String.toList_ofList, List.mem_reverse] at hc
        exact .inl hc
      · rcases mem_clustersAux hg hc with hc | hc
        · rw [List.mem_singleton.1 hc]
          exact .inr List.mem_cons_self
        · exact .inr (List.mem_cons_of_mem x hc)
    · rcases mem_clustersAux hg hc with hc | hc
      · rcases List.mem_cons.1 hc with rfl | hc
        · exact .inr List.mem_cons_self
        · exact .inl hc
      · exact .inr (List.mem_cons_of_mem x hc)

theorem mem_of_mem_clusters {s g : String} (hg : g ∈ clusters s) {c : Char} (hc : c ∈ g.toList) :
    c ∈ s.toList :=
  (mem_clustersAux hg hc).resolve_left List.not_mem_nil

theorem exists_sliceJoin_of_mem_splitWords {s w : String} (hw : w ∈ splitWords s) :
    ∃ a b, w = sliceJoin (clusters s) a b := by
  unfold splitWords at hw
  dsimp only at hw
  simp only [List.mem_filter, List.mem_reverse, List.mem_cons] at hw
  rcases hw.1 with rfl | hw
  · exact ⟨_, _, rfl⟩
  have key : ∀ (cuts : List (Nat × Nat)) (acc : Nat × List String),
      (∀ x ∈ acc.2, ∃ a b, x = sliceJoin (clusters s) a b) →
        ∀ x ∈ (cuts.foldl (fun p q => (q.2, sliceJoin (clusters s) p.1 q.1 :: p.2)) acc).2,
          ∃ a b, x = sliceJoin (clusters s) a b := by
    intro cuts
    induction cuts with
    | nil => exact fun _ h => h
    | cons q cuts ih =>
      intro acc h
      apply ih
      rintro x (_ | ⟨_, hx⟩)
      · exact ⟨_, _, rfl⟩
      · exact h x hx
  exact key _ (0, []) (by simp) w hw

theorem mem_of_mem_splitWords {s w : String} (hw : w ∈ splitWords s) {c : Char} (hc : c ∈ w.toList) :
    c ∈ s.toList := by
  obtain ⟨a, b, rfl⟩ := exists_sliceJoin_of_mem_splitWords hw
  rw [sliceJoin, String.toList_join, List.mem_flatMap] at hc
  obtain ⟨g, hg, hcg⟩ := hc
  exact mem_of_mem_clusters (List.mem_of_mem_drop (List.mem_of_mem_take hg)) hcg

/-- Each character of a lowercased text is the lowercase of one of the text's characters, or a
sigma. -/
theorem mem_lowerAux {d : Char} :
    ∀ {before l : List Char}, d ∈ lowerAux before l → ∃ c ∈ l, c = 'Σ' ∨ d ∈ lowerChar c
  | _, [], h => by simp [lowerAux] at h
  | _, c :: rest, h => by
    simp only [lowerAux, List.mem_append] at h
    rcases h with h | h
    · refine ⟨c, List.mem_cons_self, ?_⟩
      by_cases hc : c = 'Σ'
      · exact .inl hc
      · simp only [beq_iff_eq, hc, ↓reduceIte] at h
        exact .inr h
    · obtain ⟨c', hc', h'⟩ := mem_lowerAux h
      exact ⟨c', List.mem_cons_of_mem c hc', h'⟩

end Text

/-- Identifier characters are ASCII: letters and digits lie at most at `z`, the underscore below
it. -/
theorem toNat_lt_of_isIdentPart {c : Char} (hc : isIdentPart c = true) : c.toNat < 128 := by
  delta isIdentPart Char.isAlphanum Char.isAlpha Char.isUpper Char.isLower Char.isDigit at hc
  simp only [Bool.or_eq_true, Bool.and_eq_true, decide_eq_true_eq, beq_iff_eq,
    UInt32.le_iff_toNat_le, ge_iff_le] at hc
  rcases hc with h | rfl
  · have : c.toNat = c.val.toNat := rfl
    have : 'Z'.val.toNat = 90 := rfl
    have : 'z'.val.toNat = 122 := rfl
    have : '9'.val.toNat = 57 := rfl
    omega
  · decide

theorem slash_not_mem_lowerChar {c : Char} (hc : isIdentPart c = true) : '/' ∉ Text.lowerChar c := by
  have hascii : ∀ n < 128, isIdentPart (Char.ofNat n) = true → '/' ∉ Text.lowerChar (Char.ofNat n) := by
    decide +kernel
  have h := hascii c.toNat (toNat_lt_of_isIdentPart hc) (by rwa [Char.ofNat_toNat])
  rwa [Char.ofNat_toNat] at h

theorem slash_not_mem_toLowercase {w : String} (hw : ∀ c ∈ w.toList, isIdentPart c = true) :
    '/' ∉ (Text.toLowercase w).toList := by
  intro hd
  rw [Text.toLowercase, String.toList_ofList] at hd
  obtain ⟨c, hc, hsigma | hd⟩ := Text.mem_lowerAux hd
  · have hlt := toNat_lt_of_isIdentPart (hw c hc)
    rw [hsigma] at hlt
    exact absurd hlt (by decide)
  · exact slash_not_mem_lowerChar (hw c hc) hd

theorem not_mem_intercalate {c : Char} {sep : List Char} (hsep : c ∉ sep) :
    ∀ {xs : List (List Char)}, (∀ x ∈ xs, c ∉ x) → c ∉ sep.intercalate xs
  | [], _ => by simp
  | [x], h => by
    rw [List.intercalate_singleton]
    exact h x List.mem_cons_self
  | x :: y :: rest, h => by
    rw [List.intercalate_cons_cons]
    simp only [List.mem_append, not_or]
    exact ⟨⟨h x List.mem_cons_self, hsep⟩,
      not_mem_intercalate hsep fun z hz => h z (List.mem_cons_of_mem x hz)⟩

theorem slash_not_mem_snakeCase {s : String} (hs : ∀ c ∈ s.toList, isIdentPart c = true) :
    '/' ∉ (Text.snakeCase s).toList := by
  rw [Text.snakeCase, String.toList_intercalate, List.map_map]
  refine not_mem_intercalate (by decide) fun x hx => ?_
  obtain ⟨w, hw, rfl⟩ := List.mem_map.1 hx
  exact slash_not_mem_toLowercase fun c hc => hs c (Text.mem_of_mem_splitWords hw hc)

theorem slash_not_mem_rustModuleName {s : String} (hs : isIdentifier s = true) :
    '/' ∉ (rustModuleName s).toList := by
  have hsnake := slash_not_mem_snakeCase fun c hc => isIdentPart_of_mem hs hc
  unfold rustModuleName suffixKeyword
  split
  · simpa [String.toList_append] using hsnake
  · exact hsnake

theorem rustModuleName_ne_mod (s : String) : rustModuleName s ≠ "mod" := by
  unfold rustModuleName suffixKeyword
  split
  · intro h
    have hlast := congrArg (fun t : String => t.toList.getLast?) h
    simp [String.toList_append] at hlast
  · rename_i hkw
    intro h
    rw [h] at hkw
    exact hkw (by decide)

namespace Emit

/-! ### File names and include guards -/

section Names

variable {g : Generator} {e₁ e₂ : ResolvedEntity}

theorem fileName_of_ne_rust (hg : g.language ≠ .rust) (e : ResolvedEntity) :
    g.fileName e = e.name ++ "." ++ g.language.extension := by
  unfold Generator.fileName
  split
  · contradiction
  · rfl

theorem slash_not_mem_fileName (hg : g.language ≠ .rust) {e : ResolvedEntity}
    (he : isIdentifier e.name = true) : '/' ∉ (g.fileName e).toList := by
  rw [fileName_of_ne_rust hg, String.toList_append, String.toList_append]
  simp only [List.mem_append, not_or]
  refine ⟨⟨fun hc => absurd (isIdentPart_of_mem he hc) (by decide), by decide⟩, ?_⟩
  cases g.language <;> decide

/-- C++, C# and Java files of entities of distinct identifier names have distinct paths, whatever
their subdirectories. -/
theorem outputPath_ne_of_name_ne (hg : g.language ≠ .rust) (h₁ : isIdentifier e₁.name = true)
    (h₂ : isIdentifier e₂.name = true) (hne : e₁.name ≠ e₂.name) (dst : String) :
    g.outputPath e₁ dst ≠ g.outputPath e₂ dst := by
  intro h
  have hfile := Path.eq_of_join_eq (slash_not_mem_fileName hg h₁) (slash_not_mem_fileName hg h₂) h
  rw [fileName_of_ne_rust hg, fileName_of_ne_rust hg, String.append_left_inj,
    String.append_left_inj] at hfile
  exact hne hfile

theorem outputPath_of_rust (hg : g.language = .rust) (e : ResolvedEntity) (dst : String) :
    g.outputPath e dst = Path.join dst (rustModuleName e.name ++ ".rs") := by
  have hdir : g.outputDir e dst = dst := by
    unfold Generator.outputDir
    rw [hg]
    cases e.subdir <;> rfl
  rw [Generator.outputPath, hdir]
  simp [Generator.fileName, hg]

theorem slash_not_mem_rustFile {s : String} (hs : isIdentifier s = true) :
    '/' ∉ (rustModuleName s ++ ".rs").toList := by
  rw [String.toList_append]
  simp only [List.mem_append, not_or]
  exact ⟨slash_not_mem_rustModuleName hs, by decide⟩

/-- Rust files of entities with identifier names share a path exactly when they share a module
name. -/
theorem outputPath_eq_iff_of_rust (hg : g.language = .rust) (h₁ : isIdentifier e₁.name = true)
    (h₂ : isIdentifier e₂.name = true) (dst : String) :
    g.outputPath e₁ dst = g.outputPath e₂ dst ↔ rustModuleName e₁.name = rustModuleName e₂.name := by
  rw [outputPath_of_rust hg, outputPath_of_rust hg]
  constructor
  · intro h
    exact (String.append_left_inj ".rs").1
      (Path.eq_of_join_eq (slash_not_mem_rustFile h₁) (slash_not_mem_rustFile h₂) h)
  · intro h
    rw [h]

theorem outputPath_ne_mod (hg : g.language = .rust) (h₁ : isIdentifier e₁.name = true)
    (dst : String) : g.outputPath e₁ dst ≠ Path.join dst "mod.rs" := by
  rw [outputPath_of_rust hg]
  intro h
  have hfile := Path.eq_of_join_eq (slash_not_mem_rustFile h₁) (by decide) h
  have hmod : rustModuleName e₁.name = "mod" := (String.append_left_inj ".rs").1 hfile
  exact rustModuleName_ne_mod e₁.name hmod

theorem guardPart_eq_toUpper {s : String} (hs : isIdentifier s = true) : guardPart s = s.toUpper := by
  rw [guardPart, String.toUpper]
  apply String.toList_inj.1
  rw [String.toList_map, String.toList_map]
  apply List.map_congr_left
  intro c hc
  have hpart := isIdentPart_of_mem hs hc
  by_cases ha : c.isAlphanum = true
  · simp [ha]
  · have hu : c = '_' := by simpa [isIdentPart, ha] using hpart
    subst hu
    decide

/-- Within one namespace, two entities with identifier names share an include guard exactly when
their names agree up to letter case. -/
theorem cppGuard_eq_iff {o : EmitOptions} (hns : o.namespaceFor e₁ = o.namespaceFor e₂)
    (h₁ : isIdentifier e₁.name = true) (h₂ : isIdentifier e₂.name = true) :
    cppGuard o e₁ = cppGuard o e₂ ↔ e₁.name.toUpper = e₂.name.toUpper := by
  rw [cppGuard, cppGuard, hns, guardPart_eq_toUpper h₁, guardPart_eq_toUpper h₂,
    String.append_left_inj, String.append_right_inj]

end Names

/-! ### Entities of a resolved model -/

section Resolved

variable {opts : ResolveOptions} {r : Registry} {m : Model} {e₁ e₂ : ResolvedEntity}

theorem name_ne_of_ne (hr : r.Frozen) (h : r.resolve opts = .ok m) (he₁ : e₁ ∈ m.entities)
    (he₂ : e₂ ∈ m.entities) (hne : e₁ ≠ e₂) : e₁.name ≠ e₂.name := by
  have hnodup : (m.entities.map (·.name)).Nodup := by
    change m.emissionOrder.Nodup
    rw [Registry.emissionOrder_of_resolve_ok h]
    exact (DependencyGraph.topologicalOrder_perm hr (Registry.wellFormed_of_resolve_ok hr h).acyclic).nodup_iff.2 hr
  exact fun heq => hne (List.inj_on_of_nodup_map hnodup he₁ he₂ heq)

theorem isIdentifier_of_mem_entities (hr : r.Frozen)
    (hnames : ∀ d ∈ r.decls, isIdentifier d.name = true) (h : r.resolve opts = .ok m)
    {e : ResolvedEntity} (he : e ∈ m.entities) : isIdentifier e.name = true := by
  obtain ⟨d, hd, anc, k, -, rfl⟩ := Registry.exists_materialize hr h he
  exact hnames d hd

/-- Two distinct entities of a model resolved from declarations named by identifiers: their C++,
C# and Java files have distinct paths; their Rust files share a path exactly when they share a
module name, and neither is the module file; and within one namespace their include guards agree
exactly when their names agree up to letter case. -/
theorem resolve_outputsApart (hr : r.Frozen) (hnames : ∀ d ∈ r.decls, isIdentifier d.name = true)
    (h : r.resolve opts = .ok m) (g : Generator) (dst : String) (he₁ : e₁ ∈ m.entities)
    (he₂ : e₂ ∈ m.entities) (hne : e₁ ≠ e₂) :
    (g.language ≠ .rust → g.outputPath e₁ dst ≠ g.outputPath e₂ dst) ∧
      (g.language = .rust →
        (g.outputPath e₁ dst = g.outputPath e₂ dst ↔
          rustModuleName e₁.name = rustModuleName e₂.name) ∧
        g.outputPath e₁ dst ≠ Path.join dst "mod.rs") ∧
      (g.options.namespaceFor e₁ = g.options.namespaceFor e₂ →
        (cppGuard g.options e₁ = cppGuard g.options e₂ ↔ e₁.name.toUpper = e₂.name.toUpper)) := by
  have h₁ := isIdentifier_of_mem_entities hr hnames h he₁
  have h₂ := isIdentifier_of_mem_entities hr hnames h he₂
  refine ⟨fun hg => outputPath_ne_of_name_ne hg h₁ h₂ (name_ne_of_ne hr h he₁ he₂ hne) dst,
    fun hg => ⟨outputPath_eq_iff_of_rust hg h₁ h₂ dst, outputPath_ne_mod hg h₁ dst⟩,
    fun hns => cppGuard_eq_iff hns h₁ h₂⟩

end Resolved

theorem shapesOnCanvas_outputsApart : shapesOnCanvas.Frozen ∧
    (∀ d ∈ shapesOnCanvas.decls, isIdentifier d.name = true) ∧
    ∃ m, shapesOnCanvas.resolve {} = .ok m ∧ ∀ (g : Generator) (dst : String),
      ∀ e₁ ∈ m.entities, ∀ e₂ ∈ m.entities, e₁ ≠ e₂ →
        (g.language ≠ .rust → g.outputPath e₁ dst ≠ g.outputPath e₂ dst) ∧
          (g.language = .rust →
            (g.outputPath e₁ dst = g.outputPath e₂ dst ↔
              rustModuleName e₁.name = rustModuleName e₂.name) ∧
            g.outputPath e₁ dst ≠ Path.join dst "mod.rs") ∧
          (g.options.namespaceFor e₁ = g.options.namespaceFor e₂ →
            (cppGuard g.options e₁ = cppGuard g.options e₂ ↔
              e₁.name.toUpper = e₂.name.toUpper)) := by
  obtain ⟨m, hm⟩ : ∃ m, shapesOnCanvas.resolve {} = .ok m := ⟨_, rfl⟩
  have hr : shapesOnCanvas.Frozen := by decide
  have hnames : ∀ d ∈ shapesOnCanvas.decls, isIdentifier d.name = true := by decide
  exact ⟨hr, hnames, m, hm, fun g dst e₁ he₁ e₂ he₂ hne =>
    resolve_outputsApart hr hnames hm g dst he₁ he₂ hne⟩

/-- Two entities whose names differ only in letter case. -/
def hatAndHAT : Registry := ⟨[{ name := "Hat" }, { name := "HAT" }]⟩

/-- `Hat` and `HAT` share the Rust file `out/hat.rs` and the include guard `MODELS_HAT_H`. -/
theorem hatAndHAT_share_outputs : ∃ m, hatAndHAT.resolve {} = .ok m ∧
    ∃ e₁ ∈ m.entities, ∃ e₂ ∈ m.entities, e₁.name ≠ e₂.name ∧
      ({ language := .rust } : Generator).outputPath e₁ "out" = "out/hat.rs" ∧
      ({ language := .rust } : Generator).outputPath e₂ "out" = "out/hat.rs" ∧
      cppGuard {} e₁ = "MODELS_HAT_H" ∧ cppGuard {} e₂ = "MODELS_HAT_H" := by
  refine ⟨_, rfl, ?_⟩
  decide +kernel

end Emit

end EntitySchema
