import EntitySchema.Proofs.MemberLayout
import EntitySchema.Proofs.FingerprintLine

/-!
# References between generated files

A generated file names other generated declarations: a C++ header includes the headers of its
base and of the entities its own fields refer to, a Java class imports those of other packages,
and a Rust struct uses the entities its fields refer to from the sibling modules that `mod.rs`
re-exports. Every name so written is an entity of the resolved model.

A C++ include is the bare file name `N.h`, while headers go to the subdirectory of their entity.
The include therefore names the header relative to the output root when `N` has no subdirectory,
and relative to the including header's directory when both share one, but not across two
subdirectories. A Java class imports each entity of another package exactly once; an entity of its
own package only where its import line happens to be one the class needs anyway, that of
`java.util.ArrayList` or of its interface. Every entity a Rust struct uses from `super` is
re-exported by `mod.rs` under its own name.
-/

namespace EntitySchema

open Relation

theorem isIdentPart_of_mem {s : String} (h : isIdentifier s = true) {c : Char} (hc : c ∈ s.toList) :
    isIdentPart c = true := by
  unfold isIdentifier at h
  split at h
  · cases h
  · rename_i c₀ rest hs
    rw [hs] at hc
    simp only [Bool.and_eq_true, List.all_eq_true] at h
    rcases List.mem_cons.1 hc with rfl | hc
    · have hstart := h.1
      simp only [isIdentStart, isIdentPart, Char.isAlphanum, Bool.or_eq_true] at hstart ⊢
      tauto
    · exact h.2 c hc

theorem dot_not_mem_of_isIdentifier {s : String} (h : isIdentifier s = true) : '.' ∉ s.toList :=
  fun hc => absurd (isIdentPart_of_mem h hc) (by decide)

namespace Registry

variable {opts : ResolveOptions} {r : Registry} {m : Model} {e : ResolvedEntity}

theorem isSome_get?_iff (hr : r.Frozen) (h : r.resolve opts = .ok m) (n : String) :
    (m.get? n).isSome ↔ n ∈ r.names := by
  have hget := congrArg Option.isSome (get?_of_resolve_ok hr h n)
  rw [Option.isSome_map, Option.isSome_map] at hget
  rw [hget, ← contains_eq_isSome_lookup, contains_iff]

theorem exists_get?_of_mem_names (hr : r.Frozen) (h : r.resolve opts = .ok m) {n : String}
    (hn : n ∈ r.names) : ∃ t, m.get? n = some t :=
  Option.isSome_iff_exists.1 ((isSome_get?_iff hr h n).2 hn)

theorem get?_ancestor (hr : r.Frozen) (h : r.resolve opts = .ok m) (he : e ∈ m.entities)
    {a : String} (ha : a ∈ e.ancestors) : ∃ t, m.get? a = some t := by
  obtain ⟨d, hd, anc, k, hc, rfl⟩ := exists_materialize hr h he
  have hext : TransGen r.Extends d.name a := (mem_ancestors_iff hr hd hc a).1 ha
  obtain ⟨p, hp, -⟩ := lookup?_of_transGen_extends (wellFormed_of_resolve_ok hr h) hext
  exact exists_get?_of_mem_names hr h (mem_names_of_lookup? hp)

/-- Every entity the own fields of an entity of a resolved model refer to is an entity of the
model. -/
theorem get?_reference (hr : r.Frozen) (h : r.resolve opts = .ok m) (he : e ∈ m.entities)
    {n : String} (hn : n ∈ e.references) : ∃ t, m.get? n = some t := by
  obtain ⟨d, hd, anc, k, hc, rfl⟩ := exists_materialize hr h he
  have hn : (∃ f ∈ d.fields, f.type.referencedName? = some n) ∧ n ≠ d.name := by
    simpa [materialize, referencesOf] using hn
  obtain ⟨⟨f, hf, hfn⟩, -⟩ := hn
  exact exists_get?_of_mem_names hr h
    ((wellFormed_of_resolve_ok hr h).references_registered d hd f hf n hfn)

/-- Every entity a field of an entity of a resolved model refers to, inherited fields included, is
an entity of the model. -/
theorem get?_fieldReference (hr : r.Frozen) (h : r.resolve opts = .ok m) (he : e ∈ m.entities)
    {x : ResolvedField} (hx : x ∈ e.fields) {n : String} (hn : x.type.referencedName? = some n) :
    ∃ t, m.get? n = some t := by
  obtain ⟨d, hd, anc, k, hc, rfl⟩ := exists_materialize hr h he
  obtain ⟨p, hp, f, hf, rfl⟩ := exists_owner_of_mem_flattenFields hx
  have hpd : p ∈ r.decls := by
    rcases List.mem_append.1 hp with hp | hp
    · obtain ⟨a, -, ha⟩ := List.mem_filterMap.1 hp
      exact lookup?_mem ha
    · rw [List.mem_singleton.1 hp]
      exact hd
  exact exists_get?_of_mem_names hr h
    ((wellFormed_of_resolve_ok hr h).references_registered p hpd f hf n hn)

/-- In a model resolved from declarations named by identifiers, every name of an entity is an
identifier. -/
theorem isIdentifier_of_get? (hr : r.Frozen) (hnames : ∀ d ∈ r.decls, isIdentifier d.name = true)
    (h : r.resolve opts = .ok m) {x : String} {t : ResolvedEntity} (hx : m.get? x = some t) :
    isIdentifier x = true := by
  have hmem : x ∈ r.names := (isSome_get?_iff hr h x).1 (by simp [hx])
  obtain ⟨d, hd, rfl⟩ := mem_names.1 hmem
  exact hnames d hd

end Registry

namespace Model

variable {m : Model} {n : String} {t : ResolvedEntity}

theorem name_of_get? (h : m.get? n = some t) : t.name = n := by
  simpa using List.find?_some h

theorem mem_of_get? (h : m.get? n = some t) : t ∈ m.entities := List.mem_of_find?_eq_some h

end Model

namespace Emit

open Target

/-! ### C++ includes -/

section Cpp

variable {e : ResolvedEntity} {dst : String}

/-- A C++ header includes the entities a Java class of the same entity imports from elsewhere: its
base and those its own fields refer to. -/
theorem mem_cppIncludes {n : String} (h : n ∈ cppIncludes e) : n ∈ e.parent?.toList ++ e.references := by
  rcases List.mem_append.1 h with h | h
  · exact List.mem_append_left _ h
  · exact List.mem_append_right _ (List.mem_filter.1 h).1

variable (g : Generator)

theorem outputDir_of_subdir_none {t : ResolvedEntity} (h : t.subdir = none) :
    g.outputDir t dst = dst := by
  simp [Generator.outputDir, h]

theorem outputDir_congr {t : ResolvedEntity} (h : t.subdir = e.subdir) :
    g.outputDir t dst = g.outputDir e dst := by
  simp [Generator.outputDir, h]

end Cpp

/-! ### Java imports -/

section Java

variable {m : Model} {o : EmitOptions} {package : String}

theorem mem_pushNew {xs : List String} {x y : String} : x ∈ pushNew xs y ↔ x ∈ xs ∨ x = y := by
  unfold pushNew
  split
  · rename_i hy
    have hy : y ∈ xs := by simpa using hy
    constructor
    · exact .inl
    · rintro (hx | rfl) <;> assumption
  · simp

theorem nodup_pushNew {xs : List String} (y : String) (h : xs.Nodup) : (pushNew xs y).Nodup := by
  unfold pushNew
  split
  · exact h
  · rename_i hy
    have hy : y ∉ xs := by simpa using hy
    refine List.nodup_append.2 ⟨h, List.nodup_singleton y, fun a ha b hb hab => hy ?_⟩
    rw [← List.mem_singleton.1 hb, ← hab]
    exact ha

theorem mem_importEntity {acc : List String} {name x : String} :
    x ∈ importEntity m o package acc name ↔ x ∈ acc ∨ ∃ t, m.get? name = some t ∧
      o.packageFor t ≠ package ∧ x = "import " ++ o.packageFor t ++ "." ++ name ++ ";" := by
  unfold importEntity
  cases m.get? name with
  | none => simp
  | some t =>
    by_cases hp : o.packageFor t = package
    · simp [hp]
    · simp [hp, mem_pushNew]

theorem nodup_importEntity {acc : List String} (name : String) (h : acc.Nodup) :
    (importEntity m o package acc name).Nodup := by
  unfold importEntity
  cases m.get? name with
  | none => exact h
  | some t =>
    dsimp only
    split
    · exact nodup_pushNew _ h
    · exact h

theorem mem_foldl_importEntity {x : String} :
    ∀ (names acc : List String), x ∈ names.foldl (importEntity m o package) acc ↔
      x ∈ acc ∨ ∃ name ∈ names, ∃ t, m.get? name = some t ∧ o.packageFor t ≠ package ∧
        x = "import " ++ o.packageFor t ++ "." ++ name ++ ";"
  | [], acc => by simp
  | name :: names, acc => by
    rw [List.foldl_cons, mem_foldl_importEntity names, mem_importEntity]
    simp only [List.mem_cons, exists_eq_or_imp, or_assoc]

theorem nodup_foldl_importEntity :
    ∀ (names : List String) {acc : List String}, acc.Nodup →
      (names.foldl (importEntity m o package) acc).Nodup
  | [], _, h => h
  | name :: names, _, h => nodup_foldl_importEntity names (nodup_importEntity name h)

variable {e : ResolvedEntity}

theorem nodup_javaImports : (javaImports e m o).Nodup := by
  have hbase : ((e.parent?.toList ++ e.references).foldl (importEntity m o (o.packageFor e))
      (if hasCollection e.ownFields then ["import java.util.ArrayList;"] else [])).Nodup :=
    nodup_foldl_importEntity _ (by split <;> simp)
  rcases hj : javaInterface e m o (o.packageFor e) with _ | ⟨simple, _ | path⟩ <;>
    simp only [javaImports, hj]
  · exact hbase
  · exact hbase
  · exact nodup_pushNew _ hbase

/-- The import lines of a Java class: `java.util.ArrayList` for a collection among its own fields,
one for each entity it uses from another package, and the import of its interface. -/
theorem mem_javaImports {x : String} :
    x ∈ javaImports e m o ↔
      (hasCollection e.ownFields = true ∧ x = "import java.util.ArrayList;") ∨
      (∃ name ∈ e.parent?.toList ++ e.references, ∃ t, m.get? name = some t ∧
        o.packageFor t ≠ o.packageFor e ∧ x = "import " ++ o.packageFor t ++ "." ++ name ++ ";") ∨
      ∃ path, (javaInterface e m o (o.packageFor e)).bind Prod.snd = some path ∧
        x = "import " ++ path ++ ";" := by
  have hinit : x ∈ (if hasCollection e.ownFields then ["import java.util.ArrayList;"] else []) ↔
      hasCollection e.ownFields = true ∧ x = "import java.util.ArrayList;" := by
    split <;> simp_all
  rcases hj : javaInterface e m o (o.packageFor e) with _ | ⟨simple, _ | path⟩ <;>
    simp only [javaImports, hj, mem_foldl_importEntity, hinit, Option.bind_none, Option.bind_some,
      reduceCtorEq, false_and, exists_false, or_false]
  rw [mem_pushNew, mem_foldl_importEntity, hinit]
  simp only [Option.some.injEq, exists_eq_left', or_assoc]

theorem append_cons_cancel {α : Type} {c : α} :
    ∀ {x₁ x₂ z₁ z₂ : List α}, c ∉ x₁ → c ∉ x₂ → x₁ ++ c :: z₁ = x₂ ++ c :: z₂ → x₁ = x₂ ∧ z₁ = z₂
  | [], [], _, _, _, _, h => ⟨rfl, (List.cons.inj h).2⟩
  | [], a :: _, _, _, _, h₂, h => by
    simp only [List.nil_append, List.cons_append, List.cons.injEq] at h
    rw [h.1] at h₂
    exact absurd List.mem_cons_self h₂
  | a :: _, [], _, _, h₁, _, h => by
    simp only [List.nil_append, List.cons_append, List.cons.injEq] at h
    rw [← h.1] at h₁
    exact absurd List.mem_cons_self h₁
  | a :: _, b :: _, _, _, h₁, h₂, h => by
    simp only [List.cons_append, List.cons.injEq] at h
    obtain ⟨rfl, h⟩ := h
    obtain ⟨rfl, rfl⟩ := append_cons_cancel (fun hx => h₁ (List.mem_cons_of_mem a hx))
      (fun hx => h₂ (List.mem_cons_of_mem a hx)) h
    exact ⟨rfl, rfl⟩

theorem dotted_inj {a b a' b' : String} (hb : '.' ∉ b.toList) (hb' : '.' ∉ b'.toList)
    (h : a ++ "." ++ b = a' ++ "." ++ b') : a = a' ∧ b = b' := by
  have hrev : b.toList.reverse ++ '.' :: a.toList.reverse = b'.toList.reverse ++ '.' :: a'.toList.reverse := by
    have := congrArg (fun s : String => s.toList.reverse) h
    simpa [String.toList_append] using this
  obtain ⟨hbb, haa⟩ := append_cons_cancel (by simpa using hb) (by simpa using hb') hrev
  exact ⟨String.toList_inj.1 (List.reverse_inj.1 haa), String.toList_inj.1 (List.reverse_inj.1 hbb)⟩

theorem importLine_inj {a b a' b' : String} (hb : '.' ∉ b.toList) (hb' : '.' ∉ b'.toList)
    (h : "import " ++ a ++ "." ++ b ++ ";" = "import " ++ a' ++ "." ++ b' ++ ";") :
    a = a' ∧ b = b' := by
  have h₁ : "import " ++ a ++ "." ++ b = "import " ++ a' ++ "." ++ b' := (String.append_left_inj ";").1 h
  simp only [String.append_assoc, String.append_right_inj] at h₁
  exact dotted_inj hb hb' (by simpa only [String.append_assoc] using h₁)

/-- Every entity a Java class uses from another package is imported exactly once. -/
theorem count_javaImports_of_ne {n : String} (hn : n ∈ e.parent?.toList ++ e.references)
    {t : ResolvedEntity} (ht : m.get? n = some t) (hp : o.packageFor t ≠ o.packageFor e) :
    (javaImports e m o).count ("import " ++ o.packageFor t ++ "." ++ n ++ ";") = 1 :=
  List.count_eq_one_of_mem nodup_javaImports (mem_javaImports.2 (.inr (.inl ⟨n, hn, t, ht, hp, rfl⟩)))

/-- With dotless entity names, a Java class imports an entity of its own package only where the
line is one it writes anyway: that of `java.util.ArrayList`, or that of its interface. -/
theorem javaImports_of_same_package {n : String} (hn : '.' ∉ n.toList)
    (hused : ∀ x ∈ e.parent?.toList ++ e.references, ∀ t, m.get? x = some t → '.' ∉ x.toList)
    (hmem : "import " ++ o.packageFor e ++ "." ++ n ++ ";" ∈ javaImports e m o) :
    (o.packageFor e = "java.util" ∧ n = "ArrayList" ∧ hasCollection e.ownFields = true) ∨
      (javaInterface e m o (o.packageFor e)).bind Prod.snd = some (o.packageFor e ++ "." ++ n) := by
  rcases mem_javaImports.1 hmem with ⟨hc, hline⟩ | ⟨x, hx, t, ht, hne, hline⟩ | ⟨path, hpath, hline⟩
  · have harray : "import java.util.ArrayList;" = "import " ++ "java.util" ++ "." ++ "ArrayList" ++ ";" :=
      rfl
    obtain ⟨hp, rfl⟩ := importLine_inj hn (by decide) (hline.trans harray)
    exact .inl ⟨hp, rfl, hc⟩
  · exact absurd (importLine_inj hn (hused x hx t ht) hline).1.symm hne
  · have hpath' : path = o.packageFor e ++ "." ++ n := by
      have h₁ : "import " ++ (o.packageFor e ++ "." ++ n) ++ ";" = "import " ++ path ++ ";" := by
        simpa only [String.append_assoc] using hline
      exact ((String.append_right_inj "import ").1 ((String.append_left_inj ";").1 h₁)).symm
    exact .inr (hpath ▸ congrArg some hpath')

end Java

/-! ### Rust imports -/

section Rust

theorem names_addImport {s : Scope} {path n p : String} {ns : List String}
    (h : (p, ns) ∈ (s.addImport path n).imports) :
    ∀ x ∈ ns, x = n ∨ ∃ ns₀, (p, ns₀) ∈ s.imports ∧ x ∈ ns₀ := by
  intro x hx
  unfold Scope.addImport at h
  split at h
  · obtain ⟨⟨p₀, ns₀⟩, h₀, heq⟩ := List.mem_map.1 h
    dsimp only at heq
    by_cases hc : (p₀ == path && !ns₀.contains n) = true
    · rw [if_pos hc] at heq
      obtain ⟨rfl, rfl⟩ := Prod.mk.inj heq
      rcases List.mem_append.1 hx with hx | hx
      · exact .inr ⟨ns₀, h₀, hx⟩
      · exact .inl (List.mem_singleton.1 hx)
    · rw [if_neg hc] at heq
      obtain ⟨rfl, rfl⟩ := Prod.mk.inj heq
      exact .inr ⟨ns₀, h₀, hx⟩
  · rcases List.mem_append.1 h with h | h
    · exact .inr ⟨ns, h, hx⟩
    · obtain ⟨rfl, rfl⟩ := Prod.mk.inj (List.mem_singleton.1 h)
      exact .inl (List.mem_singleton.1 hx)

theorem names_foldl_addImport {path p : String} {ns : List String} :
    ∀ (names : List String) (s : Scope),
      (p, ns) ∈ (names.foldl (fun s n => s.addImport path n) s).imports →
        ∀ x ∈ ns, x ∈ names ∨ ∃ ns₀, (p, ns₀) ∈ s.imports ∧ x ∈ ns₀
  | [], _, h => fun x hx => .inr ⟨ns, h, hx⟩
  | n :: names, s, h => fun x hx => by
    rcases names_foldl_addImport names _ h x hx with hx | ⟨ns₀, h₀, hx₀⟩
    · exact .inl (List.mem_cons_of_mem n hx)
    · rcases names_addImport h₀ x hx₀ with rfl | hx
      · exact .inl List.mem_cons_self
      · exact .inr hx

variable {e : ResolvedEntity}

theorem mem_rustReferences_of_super {ns : List String} (h : ("super", ns) ∈ (rustImports e).imports)
    {x : String} (hx : x ∈ ns) : ∃ f ∈ e.fields, f.type.referencedName? = some x := by
  rcases names_foldl_addImport _ _ h x hx with hx | ⟨ns₀, h₀, -⟩
  · obtain ⟨hx, -⟩ := List.mem_filter.1 hx
    simpa using hx
  · simp [serdeScope, Scope.addImport] at h₀

theorem occursIn_join {s : String} : ∀ {l : List String}, s ∈ l → occursIn s (String.join l) = true
  | a :: l, h => by
    rw [String.join_cons]
    rcases List.mem_cons.1 h with rfl | h
    · exact occursIn_append_right _ (occursIn_self _)
    · exact occursIn_append_left _ (occursIn_join h)

/-- `mod.rs` re-exports every entity of the model from its module. -/
theorem occursIn_rustModuleFile {m : Model} {t : ResolvedEntity} (ht : t ∈ m.entities) :
    occursIn ("pub use " ++ rustModuleName t.name ++ "::" ++ t.name ++ ";\n") (rustModuleFile m) =
      true := by
  unfold rustModuleFile
  exact occursIn_append_left _ (occursIn_join (List.mem_map.2 ⟨t, ht, rfl⟩))

end Rust

/-! ### Files of a resolved model -/

/-- The references the files of entity `e` write resolve against the files written for the model
`m` under `dst`. -/
structure ReferencesResolve (m : Model) (o : EmitOptions) (dst : String) (e : ResolvedEntity) :
    Prop where
  /-- Each header a C++ header includes is that of an entity of the model: it names the header
  relative to the output root when the entity has no subdirectory, and relative to the including
  header's directory when both share their subdirectory. -/
  cpp : ∀ n ∈ cppIncludes e, ∃ t, m.get? n = some t ∧
    ({ language := .cpp } : Generator).fileName t = n ++ ".h" ∧
    (t.subdir = none →
      ({ language := .cpp } : Generator).outputPath t dst = Path.join dst (n ++ ".h")) ∧
    (t.subdir = e.subdir → ({ language := .cpp } : Generator).outputPath t dst =
      Path.join (({ language := .cpp } : Generator).outputDir e dst) (n ++ ".h"))
  /-- The base and each entity the own fields refer to is an entity of the model; one of another
  package is imported exactly once, and one of the class's own package only by a line the class
  writes anyway. -/
  java : ∀ n ∈ e.parent?.toList ++ e.references, ∃ t, m.get? n = some t ∧
    (o.packageFor t ≠ o.packageFor e →
      (javaImports e m o).count ("import " ++ o.packageFor t ++ "." ++ n ++ ";") = 1) ∧
    (o.packageFor t = o.packageFor e →
      "import " ++ o.packageFor e ++ "." ++ n ++ ";" ∈ javaImports e m o →
      (o.packageFor e = "java.util" ∧ n = "ArrayList" ∧ hasCollection e.ownFields = true) ∨
        (javaInterface e m o (o.packageFor e)).bind Prod.snd = some (o.packageFor e ++ "." ++ n))
  /-- Each entity a Rust struct uses from `super` is an entity of the model that `mod.rs`
  re-exports from its module. -/
  rust : ∀ ns, ("super", ns) ∈ (rustImports e).imports → ∀ n ∈ ns, ∃ t ∈ m.entities, t.name = n ∧
    occursIn ("pub use " ++ rustModuleName n ++ "::" ++ n ++ ";\n") (rustModuleFile m) = true

section Resolved

variable {opts : ResolveOptions} {r : Registry} {m : Model} {e : ResolvedEntity}

/-- The base of an entity of a resolved model and the entities its own fields refer to are
entities of the model. -/
theorem get?_of_used (hr : r.Frozen) (h : r.resolve opts = .ok m) (he : e ∈ m.entities) {n : String}
    (hn : n ∈ e.parent?.toList ++ e.references) : ∃ t, m.get? n = some t := by
  rcases List.mem_append.1 hn with hn | hn
  · exact Registry.get?_ancestor hr h he (List.mem_of_getLast? (Option.mem_toList.1 hn))
  · exact Registry.get?_reference hr h he hn

theorem cppInclude_placed (hr : r.Frozen) (h : r.resolve opts = .ok m) (dst : String)
    (he : e ∈ m.entities) {n : String} (hn : n ∈ cppIncludes e) :
    ∃ t, m.get? n = some t ∧ ({ language := .cpp } : Generator).fileName t = n ++ ".h" ∧
      (t.subdir = none →
        ({ language := .cpp } : Generator).outputPath t dst = Path.join dst (n ++ ".h")) ∧
      (t.subdir = e.subdir → ({ language := .cpp } : Generator).outputPath t dst =
        Path.join (({ language := .cpp } : Generator).outputDir e dst) (n ++ ".h")) := by
  obtain ⟨t, ht⟩ := get?_of_used hr h he (mem_cppIncludes hn)
  have hfile : ({ language := .cpp } : Generator).fileName t = n ++ ".h" := by
    show t.name ++ "." ++ Language.cpp.extension = n ++ ".h"
    rw [Model.name_of_get? ht, String.append_assoc]
    rfl
  refine ⟨t, ht, hfile, fun hsub => ?_, fun hsub => ?_⟩
  · rw [Generator.outputPath, outputDir_of_subdir_none _ hsub, hfile]
  · rw [Generator.outputPath, outputDir_congr _ hsub, hfile]

theorem rustImports_reexported (hr : r.Frozen) (h : r.resolve opts = .ok m) (he : e ∈ m.entities)
    {ns : List String} (hs : ("super", ns) ∈ (rustImports e).imports) {n : String} (hn : n ∈ ns) :
    ∃ t ∈ m.entities, t.name = n ∧
      occursIn ("pub use " ++ rustModuleName n ++ "::" ++ n ++ ";\n") (rustModuleFile m) = true := by
  obtain ⟨x, hx, hxn⟩ := mem_rustReferences_of_super hs hn
  obtain ⟨t, ht⟩ := Registry.get?_fieldReference hr h he hx hxn
  have htm := Model.mem_of_get? ht
  obtain rfl := Model.name_of_get? ht
  exact ⟨t, htm, rfl, occursIn_rustModuleFile htm⟩

/-- In a model resolved from declarations named by identifiers, every reference a generated file
writes resolves against the generated files, as `ReferencesResolve` details. -/
theorem resolve_referencesResolve (hr : r.Frozen)
    (hnames : ∀ d ∈ r.decls, isIdentifier d.name = true) (h : r.resolve opts = .ok m)
    (o : EmitOptions) (dst : String) (he : e ∈ m.entities) : ReferencesResolve m o dst e where
  cpp _ hn := cppInclude_placed hr h dst he hn
  java n hn := by
    obtain ⟨t, ht⟩ := get?_of_used hr h he hn
    refine ⟨t, ht, count_javaImports_of_ne hn ht, fun _ hmem => ?_⟩
    have hdot : ∀ x t, m.get? x = some t → '.' ∉ x.toList := fun x t hx =>
      dot_not_mem_of_isIdentifier (Registry.isIdentifier_of_get? hr hnames h hx)
    exact javaImports_of_same_package (hdot n t ht) (fun x _ t hx => hdot x t hx) hmem
  rust _ hs _ hn := rustImports_reexported hr h he hs hn

end Resolved

/-- A canvas of package `ui` holds shapes of package `geo`, which live in the subdirectory `geo`. -/
def shapesOnCanvas : Registry :=
  ⟨[{ name := "Shape", package := some "geo", subdir := some "geo" },
    { name := "Circle", base := some "Shape", package := some "geo", subdir := some "geo",
      fields := [⟨"radius", .primitive .u32, none⟩] },
    { name := "Canvas", package := some "ui",
      fields := [⟨"shapes", .collection (.reference "Shape"), none⟩,
        ⟨"focus", .reference "Circle", none⟩] }]⟩

theorem shapesOnCanvas_referencesResolve : shapesOnCanvas.Frozen ∧
    (∀ d ∈ shapesOnCanvas.decls, isIdentifier d.name = true) ∧
    ∃ m, shapesOnCanvas.resolve {} = .ok m ∧ ∀ e ∈ m.entities, ReferencesResolve m {} "out" e := by
  obtain ⟨m, hm⟩ : ∃ m, shapesOnCanvas.resolve {} = .ok m := ⟨_, rfl⟩
  have hr : shapesOnCanvas.Frozen := by decide
  have hnames : ∀ d ∈ shapesOnCanvas.decls, isIdentifier d.name = true := by decide
  exact ⟨hr, hnames, m, hm, fun e he => resolve_referencesResolve hr hnames hm {} "out" he⟩

/-- `Root` refers to `Leaf`, whose header lives in the subdirectory `sub`. -/
def leafInSubdir : Registry :=
  ⟨[{ name := "Root", fields := [⟨"leaf", .reference "Leaf", none⟩] },
    { name := "Leaf", subdir := some "sub", fields := [⟨"x", .primitive .boolean, none⟩] }]⟩

/-- The header of `Root` includes `Leaf.h` from its directory, the output root, while the header
of `Leaf` is `out/sub/Leaf.h`. -/
theorem leafInSubdir_include_misses : ∃ m, leafInSubdir.resolve {} = .ok m ∧
    ∃ e ∈ m.entities, "Leaf" ∈ cppIncludes e ∧
      ({ language := .cpp } : Generator).outputDir e "out" = "out" ∧
      (m.get? "Leaf").map (({ language := .cpp } : Generator).outputPath · "out") =
        some "out/sub/Leaf.h" := by
  refine ⟨_, rfl, ?_⟩
  decide +kernel

end Emit

end EntitySchema
