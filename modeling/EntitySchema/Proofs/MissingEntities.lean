import Mathlib.Data.List.Dedup
import EntitySchema.Proofs.RegistrationOrder

/-! # Declaring the missing entities

A registry whose resolution fails only with references to names that nothing registers can be
completed by declaring each such name as a stub: a class with no base and no fields
(`withStubs`). The completed registry need not resolve. Two checks stood behind the unresolved
references and now run: a chain that ended at a missing base is complete, so its shadowed
fields are checked, and a field whose type names a missing entity now names a class, which
takes no default. Those are the only ones (`resolve_withStubs_ok_iff`).

Everything else the stubs could change stays as it was. No base link and no hard edge leaves
a stub, so a path of the completed registry that does not end at a stub is a path of the
registry (`transGen_of_source`), and the rings and cycles of the completed registry are those
of the registry, which had none.
-/

namespace EntitySchema

open Relation

namespace SchemaError

/-- The entity an unresolved reference names. -/
def referenced? : SchemaError → Option String
  | .unresolvedReference _ _ n _ => some n
  | _ => none

end SchemaError

namespace Registry

/-- An unresolved reference to a name that nothing registers. -/
def MissingReference (r : Registry) : SchemaError → Prop
  | .unresolvedReference _ _ n _ => n ∉ r.names
  | _ => False

instance (r : Registry) : DecidablePred r.MissingReference
  | .unresolvedReference _ _ n _ => inferInstanceAs (Decidable (n ∉ r.names))
  | .malformed .. | .duplicateEntity .. | .inheritanceCycle .. | .fieldShadow .. | .valueCycle ..
  | .defaultTypeMismatch .. => isFalse id

/-- A class with no base and no fields, declared for a name that nothing registers. -/
def stub (n : String) : EntityDecl := { name := n }

/-- The names that unresolved references among the errors point at, each once. -/
def missingNames (errors : List SchemaError) : List String :=
  (errors.filterMap SchemaError.referenced?).dedup

/-- The registry with a stub appended for each name the errors leave unresolved. -/
def withStubs (r : Registry) (errors : List SchemaError) : Registry :=
  ⟨r.decls ++ (missingNames errors).map stub⟩

variable {r : Registry} {errors : List SchemaError} {d : EntityDecl} {e : SchemaError}
  {a b n : String}

theorem missingReference_iff : r.MissingReference e ↔ ∃ n, e.referenced? = some n ∧ n ∉ r.names := by
  cases e <;> simp [MissingReference, SchemaError.referenced?]

theorem MissingReference.kind_eq (h : r.MissingReference e) : e.kind = .unresolvedReference := by
  cases e <;> simp_all [MissingReference, SchemaError.kind]

theorem mem_missingNames : n ∈ missingNames errors ↔ ∃ e ∈ errors, e.referenced? = some n := by
  simp [missingNames, List.mem_dedup, List.mem_filterMap]

/-! ## The registry with stubs -/

theorem mem_withStubs_decls :
    d ∈ (r.withStubs errors).decls ↔ d ∈ r.decls ∨ ∃ n ∈ missingNames errors, stub n = d := by
  simp [withStubs]

theorem names_withStubs : (r.withStubs errors).names = r.names ++ missingNames errors := by
  simp [withStubs, names, stub, Function.comp_def]

theorem mem_withStubs_names : n ∈ (r.withStubs errors).names ↔ n ∈ r.names ∨ n ∈ missingNames errors := by
  rw [names_withStubs, List.mem_append]

theorem lookup?_withStubs_of_mem (hn : n ∈ r.names) : (r.withStubs errors).lookup? n = r.lookup? n := by
  obtain ⟨d, hd⟩ := exists_lookup? hn
  rw [hd]
  exact List.find?_append.trans (by simp [← lookup?.eq_def, hd])

theorem mem_decls_of_withStubs (hd : d ∈ (r.withStubs errors).decls)
    (hshape : d.base ≠ none ∨ d.fields ≠ []) : d ∈ r.decls := by
  rcases mem_withStubs_decls.1 hd with hd | ⟨n, -, rfl⟩
  · exact hd
  · simp [stub] at hshape

/-- A base link of the registry with stubs leaves a registered name, and is a base link of the
registry when it ends at one. -/
theorem extends_withStubs (h : (r.withStubs errors).Extends a b) :
    a ∈ r.names ∧ (b ∈ r.names → r.Extends a b) := by
  obtain ⟨d, hd, rfl, hb, -⟩ := h
  have hd' := mem_decls_of_withStubs hd (.inl (by simp [hb]))
  exact ⟨name_mem_names hd', fun hreg => ⟨d, hd', rfl, hb, hreg⟩⟩

/-- A hard edge of the registry with stubs leaves a registered name, and is a hard edge of the
registry when it ends at one. -/
theorem hardEdge_withStubs (h : (r.withStubs errors).HardEdge a b) :
    a ∈ r.names ∧ (b ∈ r.names → r.HardEdge a b) := by
  rcases h with ⟨d, hd, rfl, hb, hne, t, ht, henum⟩ | ⟨d, hd, rfl, f, hf, hft, -⟩
  · have hd' := mem_decls_of_withStubs hd (.inl (by simp [hb]))
    refine ⟨name_mem_names hd', fun hreg => .inl ⟨d, hd', rfl, hb, hne, t, ?_, henum⟩⟩
    rwa [← lookup?_withStubs_of_mem hreg]
  · have hd' := mem_decls_of_withStubs hd (.inr (List.ne_nil_of_mem hf))
    exact ⟨name_mem_names hd', fun hreg => .inr ⟨d, hd', rfl, f, hf, hft, hreg⟩⟩

theorem extends_withStubs_of_extends (h : r.Extends a b) : (r.withStubs errors).Extends a b := by
  obtain ⟨d, hd, hn, hb, hreg⟩ := h
  exact ⟨d, mem_withStubs_decls.2 (.inl hd), hn, hb, mem_withStubs_names.2 (.inl hreg)⟩

/-- A path each of whose steps leaves where `P` holds, and is a step of `S` when it ends where
`P` holds, is a path of `S` when it ends where `P` holds. -/
theorem transGen_of_source {α : Type} {R S : α → α → Prop} {P : α → Prop}
    (hstep : ∀ a b, R a b → P a ∧ (P b → S a b)) {x y : α} (h : TransGen R x y) (hy : P y) :
    TransGen S x y := by
  induction h with
  | single hxy => exact .single ((hstep _ _ hxy).2 hy)
  | tail _ hzy ih => exact (ih (hstep _ _ hzy).1).tail ((hstep _ _ hzy).2 hy)

theorem transGen_self_of_source {α : Type} {R S : α → α → Prop} {P : α → Prop}
    (hstep : ∀ a b, R a b → P a ∧ (P b → S a b)) {x : α} (h : TransGen R x x) : TransGen S x x := by
  obtain ⟨c, hc, -⟩ := TransGen.head'_iff.1 h
  exact transGen_of_source hstep h (hstep _ _ hc).1

theorem transGen_extends_of_withStubs (h : TransGen (r.withStubs errors).Extends a b)
    (hb : b ∈ r.names) : TransGen r.Extends a b :=
  transGen_of_source (P := (· ∈ r.names)) (fun _ _ hab => extends_withStubs hab) h hb

theorem transGen_extends_self_of_withStubs (h : TransGen (r.withStubs errors).Extends n n) :
    TransGen r.Extends n n :=
  transGen_self_of_source (P := (· ∈ r.names)) (fun _ _ hab => extends_withStubs hab) h

theorem transGen_hardEdge_self_of_withStubs (h : TransGen (r.withStubs errors).HardEdge n n) :
    TransGen r.HardEdge n n :=
  transGen_self_of_source (P := (· ∈ r.names)) (fun _ _ hab => hardEdge_withStubs hab) h

theorem defaultFits_withStubs {t : FieldType} {l : Literal}
    (hreg : ∀ n, t = .reference n → n ∈ r.names) :
    (r.withStubs errors).DefaultFits t l ↔ r.DefaultFits t l := by
  cases t with
  | primitive k => rfl
  | reference n => simp only [DefaultFits, lookup?_withStubs_of_mem (hreg n rfl)]
  | collection e => rfl

theorem Frozen.transGen_self_of_reach (hr : r.Frozen) (hcyc : TransGen r.Extends n n)
    {x : String} (hx : ReflTransGen r.Extends n x) : TransGen r.Extends x x := by
  induction hx with
  | refl => exact hcyc
  | tail _ hyx ih =>
    obtain ⟨z, hyz, hzy⟩ := TransGen.head'_iff.1 ih
    rw [hr.extends_functional hyz hyx] at hzy
    exact TransGen.tail' hzy hyx

/-! ## Where the reference errors come from -/

/-- A base that is the declaration itself or an enumeration, or that nothing registers, is
reported under its own name. -/
theorem exists_referenced_of_base (hb : d.base = some b)
    (hbad : b = d.name ∨ ∀ t, r.lookup? b = some t → t.isEnum = true) :
    ∃ e ∈ r.referenceErrors d, e.referenced? = some b := by
  unfold referenceErrors
  by_cases hself : b = d.name
  · simp [hb, hself, SchemaError.referenced?]
  · have hself' : (b == d.name) = false := by simpa using hself
    have henum := hbad.resolve_left hself
    cases ht : r.lookup? b with
    | none => simp [hb, hself', ht, SchemaError.referenced?]
    | some t => simp [hb, hself', ht, henum t ht, SchemaError.referenced?]

theorem exists_referenced_of_field {f : FieldDecl} (hf : f ∈ d.fields)
    (hn : f.type.referencedName? = some n) (hreg : n ∉ r.names) :
    ∃ e ∈ r.referenceErrors d, e.referenced? = some n := by
  unfold referenceErrors
  refine ⟨.unresolvedReference d.name (some f.name) n none,
    List.mem_append_right _ (List.mem_filterMap.2 ⟨f, hf, ?_⟩), rfl⟩
  simp [hn, hreg]

/-! ## What a registry that fails only on missing names passes -/

/-- A frozen registry that fails to resolve with `errors` alone, each of them an unresolved
reference to a name that nothing registers, and what its checks then say: every reference
error of a declaration is among `errors`, no chain is a ring, every default fits, and there is
no value cycle. -/
structure OnlyMissing (r : Registry) (errors : List SchemaError) : Prop where
  frozen : r.Frozen
  missing : ∀ e ∈ errors, r.MissingReference e
  references : ∀ d ∈ r.decls, ∀ e ∈ r.referenceErrors d, e ∈ errors
  no_ring : ∀ d ∈ r.decls, ∀ ring, r.chainOf d ≠ .cycle ring
  defaults : ∀ d ∈ r.decls, r.defaultErrors d = []
  no_value_cycle : (DependencyGraph.build r).valueCycles = []

section Errors

variable {o : ResolveOptions}

theorem mem_resolveErrors_of_mem_localErrors (hd : d ∈ r.decls) (he : e ∈ localErrors o r d) :
    e ∈ resolveErrors o r := by
  have hmem : e ∈ (resolveErrors o r).filter (·.kind.isLocal) := by
    rw [filter_local_resolveErrors]
    exact List.mem_flatMap.2 ⟨d, hd, he⟩
  exact List.mem_of_mem_filter hmem

theorem inheritanceCycle_mem_resolveErrors (hd : d ∈ r.decls) {ring : List String}
    (h : r.chainOf d = .cycle ring) : .inheritanceCycle (r.canonicalCycle ring) ∈ resolveErrors o r := by
  have hreported := ((foldl_checkDecl_reported (o := o) r.decls {} List.nodup_nil).2
    (r.canonicalCycle ring)).2 (.inr ⟨d, hd, ring, h, rfl⟩)
  have hrings := foldl_checkDecl_rings (r := r) (o := o) r.decls {} rfl
  have hmem : SchemaError.inheritanceCycle (r.canonicalCycle ring) ∈
      (r.decls.foldl (r.checkDecl o) {}).errors.filter (!·.kind.isLocal) := by
    rw [hrings]
    exact List.mem_map_of_mem hreported
  exact List.mem_append_left _ (List.mem_of_mem_filter hmem)

theorem onlyMissing_of_resolve_error (hr : r.Frozen) (h : r.resolve o = .error errors)
    (hmissing : ∀ e ∈ errors, r.MissingReference e) : OnlyMissing r errors := by
  obtain ⟨rfl, -⟩ := resolve_error_iff.1 h
  have hkind : ∀ e ∈ resolveErrors o r, e.kind = .unresolvedReference :=
    fun e he => (hmissing e he).kind_eq
  refine ⟨hr, hmissing, fun d hd e he => ?_, fun d hd ring hring => ?_, fun d hd => ?_, ?_⟩
  · exact mem_resolveErrors_of_mem_localErrors hd (List.mem_append_left _ (List.mem_append_left _ he))
  · have := hkind _ (inheritanceCycle_mem_resolveErrors hd hring)
    cases this
  · refine List.eq_nil_iff_forall_not_mem.2 fun e he => ?_
    have := hkind e (mem_resolveErrors_of_mem_localErrors hd (List.mem_append_right _ he))
    rw [kind_of_mem_defaultErrors he] at this
    cases this
  · refine List.eq_nil_iff_forall_not_mem.2 fun e he => ?_
    have := hkind e (List.mem_append_right _ he)
    rw [kind_of_mem_valueCycles he] at this
    cases this

end Errors

namespace OnlyMissing

variable (h : OnlyMissing r errors)
include h

theorem not_mem_names (hn : n ∈ missingNames errors) : n ∉ r.names := by
  obtain ⟨e, he, hen⟩ := mem_missingNames.1 hn
  obtain ⟨n', hen', hreg⟩ := missingReference_iff.1 (h.missing e he)
  rw [hen] at hen'
  cases hen'
  exact hreg

theorem frozen_withStubs : (r.withStubs errors).Frozen := by
  unfold Frozen
  rw [names_withStubs]
  exact List.nodup_append.2 ⟨h.frozen, List.nodup_dedup _,
    fun x hx y hy hxy => h.not_mem_names hy (hxy ▸ hx)⟩

theorem lookup?_withStubs_of_missing (hn : n ∈ missingNames errors) :
    (r.withStubs errors).lookup? n = some (stub n) :=
  h.frozen_withStubs.lookup?_self (mem_withStubs_decls.2 (.inr ⟨n, hn, rfl⟩))

theorem mem_missingNames_of_referenced (hd : d ∈ r.decls)
    (hrefers : ∃ e ∈ r.referenceErrors d, e.referenced? = some n) : n ∈ missingNames errors := by
  obtain ⟨e, he, hen⟩ := hrefers
  exact mem_missingNames.2 ⟨e, h.references d hd e he, hen⟩

/-- A base is never the declaration itself nor an enumeration: that would be reported under a
registered name. -/
theorem base_ok (hd : d ∈ r.decls) (hb : d.base = some b) :
    b ≠ d.name ∧ ∀ t, r.lookup? b = some t → t.isEnum = false := by
  have hreported : (∃ e ∈ r.referenceErrors d, e.referenced? = some b) → b ∉ r.names :=
    fun hrefers => h.not_mem_names (h.mem_missingNames_of_referenced hd hrefers)
  refine ⟨fun hself => ?_, fun t ht => ?_⟩
  · exact hreported (exists_referenced_of_base hb (.inl hself)) (hself ▸ name_mem_names hd)
  · cases henum : t.isEnum
    · rfl
    · have hrefers := exists_referenced_of_base (r := r) hb
        (.inr fun t' ht' => (Option.some.inj (ht.symm.trans ht')) ▸ henum)
      exact absurd (mem_names_of_lookup? ht) (hreported hrefers)

theorem base_mem (hd : d ∈ r.decls) (hb : d.base = some b) :
    b ∈ r.names ∨ b ∈ missingNames errors := by
  by_cases hreg : b ∈ r.names
  · exact .inl hreg
  · refine .inr (h.mem_missingNames_of_referenced hd (exists_referenced_of_base hb (.inr ?_)))
    intro t ht
    exact absurd (mem_names_of_lookup? ht) hreg

theorem baseResolves_of_extends (hd : d ∈ r.decls) (hy : r.Extends d.name b) : r.BaseResolves d := by
  obtain ⟨hb, hreg⟩ := (h.frozen.extends_iff hd).1 hy
  intro b' hb'
  rw [hb] at hb'
  cases hb'
  obtain ⟨hself, hclass⟩ := h.base_ok hd hb
  obtain ⟨t, ht⟩ := exists_lookup? hreg
  exact ⟨hself, t, ht, hclass t ht⟩

/-- The registry has no ring of bases: the walk from a member of a ring would be complete,
which cannot be, or a ring, which is reported, or broken, which a base it can follow never is. -/
theorem not_transGen_extends (n : String) : ¬ TransGen r.Extends n n := by
  intro hcyc
  obtain ⟨c, ⟨d, hd, rfl, -⟩, -⟩ := TransGen.head'_iff.1 hcyc
  cases hchain : r.chainOf d with
  | complete anc => exact not_revisit_of_complete h.frozen _ _ _ anc hd hchain _ .refl hcyc
  | cycle ring => exact h.no_ring d hd ring hchain
  | broken =>
    refine walkBases_ne_broken (fun x hx hreach => ?_) _ _ _ (WalkInv.init hd) hchain
    obtain ⟨y, hy, -⟩ := TransGen.head'_iff.1 (h.frozen.transGen_self_of_reach hcyc hreach)
    exact h.baseResolves_of_extends hx hy

/-! ## The registry with stubs, check by check -/

theorem baseResolves_withStubs :
    ∀ d ∈ (r.withStubs errors).decls, (r.withStubs errors).BaseResolves d := by
  intro d hd b hb
  have hd' := mem_decls_of_withStubs hd (.inl (by simp [hb]))
  obtain ⟨hself, hclass⟩ := h.base_ok hd' hb
  refine ⟨hself, ?_⟩
  rcases h.base_mem hd' hb with hreg | hmissing
  · obtain ⟨t, ht⟩ := exists_lookup? hreg
    exact ⟨t, (lookup?_withStubs_of_mem hreg).trans ht, hclass t ht⟩
  · exact ⟨stub b, h.lookup?_withStubs_of_missing hmissing, rfl⟩

theorem references_withStubs : ∀ d ∈ (r.withStubs errors).decls, ∀ f ∈ d.fields, ∀ n,
    f.type.referencedName? = some n → n ∈ (r.withStubs errors).names := by
  intro d hd f hf n hn
  have hd' := mem_decls_of_withStubs hd (.inr (List.ne_nil_of_mem hf))
  rw [mem_withStubs_names]
  by_cases hreg : n ∈ r.names
  · exact .inl hreg
  · exact .inr (h.mem_missingNames_of_referenced hd' (exists_referenced_of_field hf hn hreg))

theorem no_revisit_withStubs : ∀ d ∈ (r.withStubs errors).decls, ∀ n,
    ReflTransGen (r.withStubs errors).Extends d.name n → ¬ TransGen (r.withStubs errors).Extends n n :=
  fun _ _ n _ hcyc => h.not_transGen_extends n (transGen_extends_self_of_withStubs hcyc)

theorem acyclic_withStubs (n : String) : ¬ TransGen (r.withStubs errors).HardEdge n n :=
  fun hcyc => not_transGen_hardEdge h.frozen h.not_transGen_extends h.no_value_cycle n
    (transGen_hardEdge_self_of_withStubs hcyc)

/-- The shadowing check of the registry with stubs is the one of the registry, over every
chain, the chains that ended at a missing base included. -/
theorem noShadow_withStubs_iff :
    (∀ d ∈ (r.withStubs errors).decls, ∀ a, TransGen (r.withStubs errors).Extends d.name a →
      ∀ ad, (r.withStubs errors).lookup? a = some ad → ∀ f ∈ d.fields, ∀ g ∈ ad.fields,
        f.name ≠ g.name) ↔
    (∀ d ∈ r.decls, ∀ a, TransGen r.Extends d.name a →
      ∀ ad, r.lookup? a = some ad → ∀ f ∈ d.fields, ∀ g ∈ ad.fields, f.name ≠ g.name) := by
  constructor
  · intro hshadow d hd a ha ad had
    have hreg := mem_names_of_lookup? had
    exact hshadow d (mem_withStubs_decls.2 (.inl hd)) a
      (TransGen.mono (fun _ _ => extends_withStubs_of_extends) _ _ ha) ad
      ((lookup?_withStubs_of_mem hreg).trans had)
  · intro hshadow d hd a ha ad had f hf g hg
    have hd' := mem_decls_of_withStubs hd (.inr (List.ne_nil_of_mem hf))
    have hreg : a ∈ r.names := by
      have ha' := mem_names_of_lookup? had
      rcases mem_withStubs_names.1 ha' with hreg | hmissing
      · exact hreg
      · rw [h.lookup?_withStubs_of_missing hmissing] at had
        cases had
        simp [stub] at hg
    exact hshadow d hd' a (transGen_extends_of_withStubs ha hreg) ad
      ((lookup?_withStubs_of_mem hreg).symm.trans had) f hf g hg

/-- The defaults of the registry with stubs fit exactly when no field whose type names a
missing entity has one: such a field now names a class. -/
theorem defaultsFit_withStubs_iff :
    (∀ d ∈ (r.withStubs errors).decls, ∀ f ∈ d.fields, ∀ l, f.default = some l →
      (r.withStubs errors).DefaultFits f.type l) ↔
    (∀ d ∈ r.decls, ∀ f ∈ d.fields, ∀ n, f.type = .reference n → n ∉ r.names → f.default = none) := by
  constructor
  · intro hfit d hd f hf n hn hreg
    cases hl : f.default with
    | none => rfl
    | some l =>
      have hmissing := h.mem_missingNames_of_referenced hd
        (exists_referenced_of_field hf (by rw [hn]; rfl) hreg)
      have hfits := hfit d (mem_withStubs_decls.2 (.inl hd)) f hf l hl
      rw [hn] at hfits
      obtain ⟨t, ht, henum, -⟩ := hfits
      rw [h.lookup?_withStubs_of_missing hmissing] at ht
      cases ht
      cases henum
  · intro hnone d hd f hf l hl
    have hd' := mem_decls_of_withStubs hd (.inr (List.ne_nil_of_mem hf))
    have hproblem := defaultErrors_eq_nil_iff.1 (h.defaults d hd') f hf l hl
    have hreg : ∀ n, f.type = .reference n → n ∈ r.names := by
      intro n hn
      by_contra hreg
      rw [hnone d hd' f hf n hn hreg] at hl
      cases hl
    rw [defaultFits_withStubs hreg]
    refine (defaultProblem_eq_none_iff fun n hn => ?_).1 hproblem
    cases ht : f.type with
    | primitive k => simp [ht, FieldType.referencedName?, FieldType.baseType] at hn
    | reference n' =>
      simp [ht, FieldType.referencedName?, FieldType.baseType] at hn
      exact hn ▸ hreg n' ht
    | collection e => simp [ht, defaultProblem] at hproblem

/-- The registry with stubs is well-formed exactly when no field whose type names a missing
entity has a default and, unless shadowing is allowed, no own field takes the name of a field
of an ancestor. -/
theorem wellFormed_withStubs_iff {o : ResolveOptions} :
    (r.withStubs errors).WellFormed o ↔
      (∀ d ∈ r.decls, ∀ f ∈ d.fields, ∀ n, f.type = .reference n → n ∉ r.names →
        f.default = none) ∧
      (o.allowShadowing = false → ∀ d ∈ r.decls, ∀ a, TransGen r.Extends d.name a →
        ∀ ad, r.lookup? a = some ad → ∀ f ∈ d.fields, ∀ g ∈ ad.fields, f.name ≠ g.name) := by
  constructor
  · intro hwf
    exact ⟨h.defaultsFit_withStubs_iff.1 hwf.defaults_fit,
      fun hallow => h.noShadow_withStubs_iff.1 (hwf.no_shadow hallow)⟩
  · rintro ⟨hdefaults, hshadow⟩
    exact ⟨h.baseResolves_withStubs, h.references_withStubs, h.no_revisit_withStubs,
      fun hallow => h.noShadow_withStubs_iff.2 (hshadow hallow),
      h.defaultsFit_withStubs_iff.2 hdefaults, h.acyclic_withStubs⟩

end OnlyMissing

/-- A frozen registry whose resolution fails only with unresolved references to names that
nothing registers resolves, once a stub is declared for each such name, exactly when the checks
that those references had kept from running pass: no field whose type names a missing entity
has a default, and, unless shadowing is allowed, no own field takes the name of a field of an
ancestor. -/
theorem resolve_withStubs_ok_iff (o : ResolveOptions) (r : Registry) (hr : r.Frozen)
    (errors : List SchemaError) (h : r.resolve o = .error errors)
    (hmissing : ∀ e ∈ errors, r.MissingReference e) :
    (∃ m, (r.withStubs errors).resolve o = .ok m) ↔
      (∀ d ∈ r.decls, ∀ f ∈ d.fields, ∀ n, f.type = .reference n → n ∉ r.names →
        f.default = none) ∧
      (o.allowShadowing = false → ∀ d ∈ r.decls, ∀ a, TransGen r.Extends d.name a →
        ∀ ad, r.lookup? a = some ad → ∀ f ∈ d.fields, ∀ g ∈ ad.fields, f.name ≠ g.name) := by
  have honly := onlyMissing_of_resolve_error hr h hmissing
  rw [← wellFormed_iff_resolve_ok honly.frozen_withStubs]
  exact honly.wellFormed_withStubs_iff

def dogWithoutHat : Registry :=
  ⟨[{ name := "Dog", fields := [⟨"hat", .reference "Hat", none⟩] }]⟩

theorem dogWithoutHat_withStubs_ok_iff :
    dogWithoutHat.Frozen ∧
      dogWithoutHat.resolve {} = .error [.unresolvedReference "Dog" (some "hat") "Hat" none] ∧
      (∀ e ∈ [SchemaError.unresolvedReference "Dog" (some "hat") "Hat" none],
        dogWithoutHat.MissingReference e) ∧
      ((∃ m, (dogWithoutHat.withStubs [.unresolvedReference "Dog" (some "hat") "Hat" none]).resolve
          {} = .ok m) ↔
        (∀ d ∈ dogWithoutHat.decls, ∀ f ∈ d.fields, ∀ n, f.type = .reference n →
          n ∉ dogWithoutHat.names → f.default = none) ∧
        (({} : ResolveOptions).allowShadowing = false → ∀ d ∈ dogWithoutHat.decls, ∀ a,
          TransGen dogWithoutHat.Extends d.name a → ∀ ad, dogWithoutHat.lookup? a = some ad →
            ∀ f ∈ d.fields, ∀ g ∈ ad.fields, f.name ≠ g.name)) :=
  ⟨by decide, rfl, by decide,
    resolve_withStubs_ok_iff {} dogWithoutHat (by decide) _ rfl (by decide)⟩

/-- `A` extends `B`, which extends `Missing`, which nothing declares; both declare `x`. -/
def shadowBehindMissing : Registry :=
  ⟨[{ name := "A", base := some "B", fields := [⟨"x", .primitive .string, none⟩] },
    { name := "B", base := some "Missing", fields := [⟨"x", .primitive .string, none⟩] }]⟩

/-- Declaring the missing base does not make the registry resolve: the chain of `A` is now
complete, and `A` declares `x` again. -/
theorem shadowBehindMissing_withStubs_fails :
    shadowBehindMissing.Frozen ∧
      shadowBehindMissing.resolve {} = .error [.unresolvedReference "B" none "Missing" none] ∧
      (∀ e ∈ [SchemaError.unresolvedReference "B" none "Missing" none],
        shadowBehindMissing.MissingReference e) ∧
      (shadowBehindMissing.withStubs [.unresolvedReference "B" none "Missing" none]).resolve {} =
        .error [.fieldShadow "A" "x" "B"] :=
  ⟨by decide, rfl, by decide, rfl⟩

end Registry

end EntitySchema
