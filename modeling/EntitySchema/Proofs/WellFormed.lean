import EntitySchema.Proofs.ResolvePass
import EntitySchema.Proofs.ValueCycles

/-! # Well-formed registries

A frozen registry resolves exactly when it is well-formed (`resolve_ok_iff_wellFormed`): every
base is a registered class other than its declaration, every referenced entity is registered,
following base links never comes back to a name already passed, no own field takes the name of
a field of an ancestor (unless shadowing is allowed), every default fits the compatibility
table, and the hard dependencies have no cycle.

The per-declaration checks and the value-cycle check divide the cycles between them. A cycle
of hard edges is made only of base edges, and then the walk along bases from any of its
members finds it as a ring; or it passes a field edge, and then that field edge lies inside a
cyclic component and is a value cycle (`transGen_hardEdge_cases`).
-/

namespace EntitySchema

namespace Registry

open Relation

variable {r : Registry}

/-- The compatibility table: a primitive kind takes the literals it accepts, a reference to an
enumeration takes a string naming one of its values, and a reference to a class or a
collection takes no default. -/
def DefaultFits (r : Registry) : FieldType → Literal → Prop
  | .primitive k, l => k.accepts l = true
  | .reference n, l =>
    ∃ t, r.lookup? n = some t ∧ t.isEnum = true ∧ ∃ v, l = .string v ∧ v ∈ t.enumValues
  | .collection _, _ => False

/-- A registry that resolves under the given options. -/
structure WellFormed (o : ResolveOptions) (r : Registry) : Prop where
  base_resolves : ∀ d ∈ r.decls, r.BaseResolves d
  references_registered :
    ∀ d ∈ r.decls, ∀ f ∈ d.fields, ∀ n, f.type.referencedName? = some n → n ∈ r.names
  no_revisit : ∀ d ∈ r.decls, ∀ n, ReflTransGen r.Extends d.name n → ¬ TransGen r.Extends n n
  no_shadow : o.allowShadowing = false → ∀ d ∈ r.decls, ∀ a, TransGen r.Extends d.name a →
    ∀ ad, r.lookup? a = some ad → ∀ f ∈ d.fields, ∀ g ∈ ad.fields, f.name ≠ g.name
  defaults_fit : ∀ d ∈ r.decls, ∀ f ∈ d.fields, ∀ l, f.default = some l → r.DefaultFits f.type l
  acyclic : ∀ n, ¬ TransGen r.HardEdge n n

/-- Where the referenced entity is registered, the default check finds no problem exactly when
the table lets the literal stand. -/
theorem defaultProblem_eq_none_iff {t : FieldType} {l : Literal}
    (hreg : ∀ n, t.referencedName? = some n → n ∈ r.names) :
    r.defaultProblem t l = none ↔ r.DefaultFits t l := by
  cases t with
  | primitive k => cases hk : k.accepts l <;> simp [defaultProblem, DefaultFits, hk]
  | reference n =>
    obtain ⟨t, ht⟩ := exists_lookup? (hreg n rfl)
    cases he : t.isEnum
    · simp [defaultProblem, DefaultFits, ht, he]
    · cases l <;> simp [defaultProblem, DefaultFits, ht, he, EntityDecl.acceptsValue]
  | collection e => simp [defaultProblem, DefaultFits]

theorem transGen_hardEdge_cases {x y : String} (h : TransGen r.HardEdge x y) :
    TransGen r.BaseEdge x y ∨
      ∃ a t, ReflTransGen r.HardEdge x a ∧ r.HoldsByValue a t ∧ ReflTransGen r.HardEdge t y := by
  induction h with
  | single hxy =>
    rcases hxy with hb | hv
    · exact .inl (.single hb)
    · exact .inr ⟨_, _, .refl, hv, .refl⟩
  | tail hxy hyz ih =>
    rcases ih with hbase | ⟨a, t, hxa, hat, hty⟩
    · rcases hyz with hb | hv
      · exact .inl (hbase.tail hb)
      · have hhard : TransGen r.HardEdge _ _ := TransGen.mono (fun _ _ => Or.inl) _ _ hbase
        exact .inr ⟨_, _, hhard.to_reflTransGen, hv, .refl⟩
    · exact .inr ⟨a, t, hxa, hat, hty.tail hyz⟩

/-- With no ring of bases and no value cycle, the hard dependencies have no cycle. -/
theorem not_transGen_hardEdge (hr : r.Frozen) (hring : ∀ n, ¬ TransGen r.Extends n n)
    (hvalue : (DependencyGraph.build r).valueCycles = []) (n : String) :
    ¬ TransGen r.HardEdge n n := by
  intro hcyc
  rcases transGen_hardEdge_cases hcyc with hbase | ⟨a, t, hna, hat, htn⟩
  · exact hring n (TransGen.mono (fun _ _ => BaseEdge.extends) _ _ hbase)
  · exact (DependencyGraph.valueCycles_eq_nil_iff hr).1 hvalue a t hat (htn.trans hna)

variable {o : ResolveOptions}

/-- What a clean pass and the absence of value cycles say about the registry. -/
theorem wellFormed_of_clean (hr : r.Frozen) (hclean : ∀ d ∈ r.decls, DeclClean o r d)
    (hvalue : (DependencyGraph.build r).valueCycles = []) : r.WellFormed o := by
  have hrefs := fun d hd => referenceErrors_eq_nil_iff.1 (hclean d hd).references
  have hbases : ∀ d ∈ r.decls, r.BaseResolves d := fun d hd => (hrefs d hd).1
  have hcomplete : ∀ d ∈ r.decls, ∃ anc, r.chainOf d = .complete anc := by
    intro d hd
    cases h : r.chainOf d with
    | complete anc => exact ⟨anc, rfl⟩
    | cycle ring => exact absurd h ((hclean d hd).no_ring ring)
    | broken => exact absurd h (chainOf_ne_broken hbases hd)
  have hno_revisit : ∀ d ∈ r.decls, ∀ n, ReflTransGen r.Extends d.name n →
      ¬ TransGen r.Extends n n :=
    fun d hd => (chainOf_complete_iff hr hbases hd).1 (hcomplete d hd)
  refine ⟨hbases, fun d hd => (hrefs d hd).2, hno_revisit, ?_, ?_, ?_⟩
  · intro hallow d hd a ha ad had f hf g hg
    obtain ⟨anc, hanc⟩ := hcomplete d hd
    have hshadow := (hclean d hd).no_shadow anc hanc hallow
    exact (shadowErrors_eq_nil_iff anc).1 hshadow f hf a
      ((mem_ancestors_iff hr hd hanc a).2 ha) ad had g hg
  · intro d hd f hf l hl
    have hnone := defaultErrors_eq_nil_iff.1 (hclean d hd).defaults f hf l hl
    exact (defaultProblem_eq_none_iff ((hrefs d hd).2 f hf)).1 hnone
  · refine not_transGen_hardEdge hr (fun n hcyc => ?_) hvalue
    obtain ⟨m, ⟨d, hd, rfl, -⟩, -⟩ := TransGen.head'_iff.1 hcyc
    exact hno_revisit d hd d.name .refl hcyc

/-- A well-formed registry passes every check. -/
theorem clean_of_wellFormed (hr : r.Frozen) (hwf : r.WellFormed o) :
    (∀ d ∈ r.decls, DeclClean o r d) ∧ (DependencyGraph.build r).valueCycles = [] := by
  refine ⟨fun d hd => ?_, ?_⟩
  · obtain ⟨anc, hanc⟩ :=
      (chainOf_complete_iff hr hwf.base_resolves hd).2 (hwf.no_revisit d hd)
    refine ⟨referenceErrors_eq_nil_iff.2 ⟨hwf.base_resolves d hd, hwf.references_registered d hd⟩,
      fun ring h => (by simp [hanc] at h), ?_, ?_⟩
    · intro anc' hanc' hallow
      rw [hanc] at hanc'
      cases hanc'
      refine (shadowErrors_eq_nil_iff anc).2 fun f hf a ha ad had g hg => ?_
      exact hwf.no_shadow hallow d hd a ((mem_ancestors_iff hr hd hanc a).1 ha) ad had f hf g hg
    · refine defaultErrors_eq_nil_iff.2 fun f hf l hl => ?_
      exact (defaultProblem_eq_none_iff (hwf.references_registered d hd f hf)).2
        (hwf.defaults_fit d hd f hf l hl)
  · refine (DependencyGraph.valueCycles_eq_nil_iff hr).2 fun a t hat hta => ?_
    exact hwf.acyclic a (TransGen.head' (Or.inr hat) hta)

theorem wellFormed_iff_resolve_ok (hr : r.Frozen) : r.WellFormed o ↔ ∃ m, r.resolve o = .ok m := by
  rw [resolve_ok_iff_clean.1]
  exact ⟨clean_of_wellFormed hr, fun ⟨hclean, hvalue⟩ => wellFormed_of_clean hr hclean hvalue⟩

/-- A frozen registry resolves exactly when it is well-formed, and a registry that does not
resolve fails with at least one error. -/
theorem resolve_ok_iff_wellFormed (o : ResolveOptions) (r : Registry) (hr : r.Frozen) :
    ((∃ m, r.resolve o = .ok m) ↔ r.WellFormed o) ∧
      ∀ errors, r.resolve o = .error errors → errors ≠ [] :=
  ⟨(wellFormed_iff_resolve_ok hr).symm, resolve_ok_iff_clean.2⟩

/-- `C` extends `B`, which extends `A`, registered out of order. -/
def chainOfThree : Registry :=
  ⟨[{ name := "C", base := some "B", fields := [⟨"c1", .primitive .string, none⟩] },
    { name := "A", fields := [⟨"a1", .primitive .string, none⟩, ⟨"a2", .primitive .string, none⟩] },
    { name := "B", base := some "A", fields := [⟨"b1", .primitive .string, none⟩] }]⟩

theorem chainOfThree_resolve_ok_iff_wellFormed :
    chainOfThree.Frozen ∧
      ((∃ m, chainOfThree.resolve {} = .ok m) ↔ chainOfThree.WellFormed {}) ∧
        ∀ errors, chainOfThree.resolve {} = .error errors → errors ≠ [] :=
  ⟨by decide, resolve_ok_iff_wellFormed {} chainOfThree (by decide)⟩

end Registry

end EntitySchema
