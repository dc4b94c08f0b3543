import EntitySchema.Proofs.EmissionOrder
import EntitySchema.Proofs.PassErrors
import EntitySchema.Proofs.ValueCycleCount

/-! # Registration order

The order declarations are registered in breaks ties, and nothing else. Two frozen registries
with the same declarations either both resolve or both fail; when they resolve, each name has
the same entity in both but for its rank; when they fail, they fail with as many errors, of the
same kinds, and with the same unresolved references, shadowed fields and defaults that do not
fit (`resolve_registrationOrder_invariant`). What may differ is where a ring's canonical form
starts and which edge and path a value cycle is reported through.

The errors are the pass's errors and then the value cycles (`resolveErrors`). By kind they are
the local errors of each declaration, one ring error per ring reported and one value-cycle error
per value cycle (`kinds_resolveErrors`), and each of the three is the same, or as many, in
both registries.
-/

namespace EntitySchema

namespace Registry

open DependencyGraph

variable {r : Registry} {o : ResolveOptions}

/-- Every error resolution finds: the pass's, then the value cycles. -/
def resolveErrors (o : ResolveOptions) (r : Registry) : List SchemaError :=
  (r.decls.foldl (r.checkDecl o) {}).errors ++ (build r).valueCycles

theorem resolve_ok_iff_resolveErrors : (∃ m, r.resolve o = .ok m) ↔ resolveErrors o r = [] := by
  unfold resolve resolveErrors
  by_cases h : (r.decls.foldl (r.checkDecl o) {}).errors ++ (build r).valueCycles = []
  · simp [h]
  · simp [h]

theorem resolve_error_iff {errors : List SchemaError} :
    r.resolve o = .error errors ↔ errors = resolveErrors o r ∧ errors ≠ [] := by
  unfold resolve resolveErrors
  by_cases h : (r.decls.foldl (r.checkDecl o) {}).errors ++ (build r).valueCycles = []
  · simp only [h, List.isEmpty_nil, Bool.not_true, Bool.false_eq_true, if_false]
    constructor
    · intro h'
      cases h'
    · rintro ⟨rfl, hne⟩
      exact absurd rfl hne
  · have hne : ((r.decls.foldl (r.checkDecl o) {}).errors ++ (build r).valueCycles).isEmpty = false := by
      simpa using h
    simp only [hne, Bool.not_false, if_true, Except.error.injEq]
    constructor
    · rintro rfl
      exact ⟨rfl, h⟩
    · rintro ⟨rfl, -⟩
      rfl

theorem kind_of_mem_valueCycles {e : SchemaError} (he : e ∈ (build r).valueCycles) :
    e.kind = .valueCycle := by
  obtain ⟨c, -, hc⟩ := List.mem_filterMap.1 he
  obtain ⟨entry, -, rfl⟩ := Option.map_eq_some_iff.1 hc
  rfl

theorem filter_local_resolveErrors :
    (resolveErrors o r).filter (·.kind.isLocal) = r.decls.flatMap (localErrors o r) := by
  have hvalue : (build r).valueCycles.filter (·.kind.isLocal) = [] :=
    List.filter_eq_nil_iff.2 fun e he => by simp [kind_of_mem_valueCycles he, ErrorKind.isLocal]
  rw [resolveErrors, List.filter_append, foldl_checkDecl_local, hvalue]
  simp

/-- By kind, the errors are the local ones, a ring error per ring reported and a value-cycle
error per value cycle. -/
theorem kinds_resolveErrors :
    ((resolveErrors o r).map SchemaError.kind).Perm
      ((r.decls.flatMap (localErrors o r)).map SchemaError.kind ++
        List.replicate (r.decls.foldl (r.checkDecl o) {}).reported.length .inheritanceCycle ++
        List.replicate (build r).valueCycles.length .valueCycle) := by
  set pass := r.decls.foldl (r.checkDecl o) {}
  have hrings : pass.errors.filter (!·.kind.isLocal) = pass.reported.map .inheritanceCycle :=
    foldl_checkDecl_rings r.decls {} rfl
  have hlocal : pass.errors.filter (·.kind.isLocal) = r.decls.flatMap (localErrors o r) := by
    simpa using foldl_checkDecl_local (r := r) (o := o) r.decls {}
  have hsplit : pass.errors.Perm (r.decls.flatMap (localErrors o r) ++
      pass.reported.map .inheritanceCycle) := by
    rw [← hlocal, ← hrings]
    exact (List.filter_append_perm _ _).symm
  have hvalue : (build r).valueCycles.map SchemaError.kind =
      List.replicate (build r).valueCycles.length .valueCycle :=
    List.eq_replicate_iff.2 ⟨by simp, fun k hk => by
      obtain ⟨e, he, rfl⟩ := List.mem_map.1 hk
      exact kind_of_mem_valueCycles he⟩
  have hring : (pass.reported.map SchemaError.inheritanceCycle).map SchemaError.kind =
      List.replicate pass.reported.length .inheritanceCycle := by
    rw [List.map_map]
    exact List.eq_replicate_iff.2 ⟨by simp, fun k hk => by
      obtain ⟨c, -, rfl⟩ := List.mem_map.1 hk
      rfl⟩
  rw [resolveErrors, List.map_append, hvalue]
  refine List.Perm.append_right _ ?_
  rw [← hring, ← List.map_append]
  exact hsplit.map _

/-! ## The entity of a name -/

/-- The ancestors the pass records for a name, in a frozen registry: those of its declaration,
when its chain is complete. -/
theorem lookup_flatMap_completeChains (n : String) :
    ∀ ds : List EntityDecl, (ds.map (·.name)).Nodup →
      (ds.flatMap r.completeChains).lookup n =
        (ds.find? (·.name == n)).bind fun d =>
          match r.chainOf d with
          | .complete ancestors => some ancestors
          | _ => none
  | [], _ => rfl
  | d :: ds, hnodup => by
    obtain ⟨hd, hds⟩ := List.nodup_cons.1 hnodup
    rw [List.flatMap_cons, List.lookup_append, lookup_flatMap_completeChains n ds hds]
    by_cases hname : d.name = n
    · have hrest : ds.find? (·.name == n) = none := by
        rw [List.find?_eq_none]
        intro d' hd' heq
        exact hd (List.mem_map.2 ⟨d', hd', (by simpa using heq : d'.name = n).trans hname.symm⟩)
      simp only [List.find?_cons, hname, beq_self_eq_true, hrest, Option.bind_some, Option.bind_none]
      unfold completeChains
      cases r.chainOf d <;> simp [hname]
    · have hskip : (r.completeChains d).lookup n = none := by
        unfold completeChains
        cases r.chainOf d <;> simp [Ne.symm hname]
      have hne : (d.name == n) = false := by simpa using hname
      simp [hskip, hne]

/-- The entity of a name in a resolved model, but for its rank: the resolved declaration of
that name. -/
theorem get?_of_resolve_ok (hr : r.Frozen) {m : Model} (h : r.resolve o = .ok m) (n : String) :
    (m.get? n).map (fun e => { e with rank := 0 }) =
      (r.lookup? n).map fun d =>
        r.materialize d (((r.decls.foldl (r.checkDecl o) {}).chains.lookup n).getD []) 0
          (build r) := by
  cases hget : m.get? n with
  | some e =>
    have hmem := List.mem_of_find?_eq_some hget
    have hname : e.name = n := by simpa using List.find?_some hget
    obtain ⟨k, hk⟩ := List.getElem?_of_mem hmem
    obtain ⟨d, hd, -, rfl⟩ := entity_of_getElem? h hk
    obtain rfl : d.name = n := hname
    rw [hr.lookup?_self hd]
    rfl
  | none =>
    have hnot : n ∉ m.emissionOrder := by
      intro hn
      obtain ⟨e, he, rfl⟩ := List.mem_map.1 hn
      exact List.find?_eq_none.1 hget e he (by simp)
    have hwf := wellFormed_of_resolve_ok hr h
    have hperm := topologicalOrder_perm hr hwf.acyclic
    rw [← emissionOrder_of_resolve_ok h] at hperm
    rw [lookup?_eq_none_iff.2 fun hn => hnot (hperm.mem_iff.2 hn)]
    rfl

/-! ## Two registration orders -/

section Reorder

variable {r₁ r₂ : Registry}

theorem SameDecls.chains (h : SameDecls r₁ r₂) (hr₁ : r₁.Frozen) (hr₂ : r₂.Frozen) (n : String) :
    (r₁.decls.foldl (r₁.checkDecl o) {}).chains.lookup n =
      (r₂.decls.foldl (r₂.checkDecl o) {}).chains.lookup n := by
  simp only [foldl_checkDecl_chains, List.nil_append]
  rw [lookup_flatMap_completeChains n _ hr₁, lookup_flatMap_completeChains n _ hr₂]
  change (r₁.lookup? n).bind _ = (r₂.lookup? n).bind _
  simp only [h.lookup, h.chainOf]

/-- Two frozen registries with the same declarations, in any two registration orders, either
both resolve or both fail. When they resolve, every name has the same entity in both but for
its rank. When they fail, they fail with as many errors, as many of each kind, and the same
unresolved references, shadowed fields and defaults that do not fit. -/
theorem resolve_registrationOrder_invariant (o : ResolveOptions) (r₁ r₂ : Registry)
    (hr : r₁.Frozen) (hp : r₁.decls.Perm r₂.decls) :
    ((∃ m, r₁.resolve o = .ok m) ↔ ∃ m, r₂.resolve o = .ok m) ∧
      (∀ m₁ m₂, r₁.resolve o = .ok m₁ → r₂.resolve o = .ok m₂ → ∀ n,
        (m₁.get? n).map (fun e => { e with rank := 0 }) =
          (m₂.get? n).map (fun e => { e with rank := 0 })) ∧
      (∀ errors₁ errors₂, r₁.resolve o = .error errors₁ → r₂.resolve o = .error errors₂ →
        errors₁.length = errors₂.length ∧
          (errors₁.map SchemaError.kind).Perm (errors₂.map SchemaError.kind) ∧
          (errors₁.filter (·.kind.isLocal)).Perm (errors₂.filter (·.kind.isLocal))) := by
  have h := sameDecls_of_perm hr hp
  have hr₂ := hr.of_perm hp
  have hlocal : (r₁.decls.flatMap (localErrors o r₁)).Perm (r₂.decls.flatMap (localErrors o r₂)) := by
    rw [show localErrors o r₁ = localErrors o r₂ from funext h.localErrors]
    exact hp.flatMap_right _
  have hkinds : ((resolveErrors o r₁).map SchemaError.kind).Perm
      ((resolveErrors o r₂).map SchemaError.kind) := by
    refine kinds_resolveErrors.trans (List.Perm.trans ?_ kinds_resolveErrors.symm)
    rw [length_reported_eq hr hp, length_valueCycles_eq hr hp]
    exact ((hlocal.map _).append_right _).append_right _
  have hlength : (resolveErrors o r₁).length = (resolveErrors o r₂).length := by
    simpa using hkinds.length_eq
  refine ⟨?_, ?_, ?_⟩
  · rw [resolve_ok_iff_resolveErrors, resolve_ok_iff_resolveErrors, ← List.length_eq_zero_iff,
      hlength, List.length_eq_zero_iff]
  · intro m₁ m₂ h₁ h₂ n
    rw [get?_of_resolve_ok hr h₁, get?_of_resolve_ok hr₂ h₂, h.lookup, h.chains hr hr₂ n]
    simp only [h.materialize]
  · intro errors₁ errors₂ h₁ h₂
    obtain ⟨rfl, -⟩ := resolve_error_iff.1 h₁
    obtain ⟨rfl, -⟩ := resolve_error_iff.1 h₂
    refine ⟨hlength, hkinds, ?_⟩
    rw [filter_local_resolveErrors, filter_local_resolveErrors]
    exact hlocal

end Reorder

def ringOfTwo : Registry :=
  ⟨[{ name := "A", base := some "B" }, { name := "B", base := some "A" }]⟩

/-- The same two declarations, registered the other way round. -/
def ringOfTwoSwapped : Registry :=
  ⟨[{ name := "B", base := some "A" }, { name := "A", base := some "B" }]⟩

theorem ringOfTwo_registrationOrder_invariant :
    ringOfTwo.Frozen ∧ ringOfTwo.decls.Perm ringOfTwoSwapped.decls ∧
      ((∃ m, ringOfTwo.resolve {} = .ok m) ↔ ∃ m, ringOfTwoSwapped.resolve {} = .ok m) ∧
      (∀ m₁ m₂, ringOfTwo.resolve {} = .ok m₁ → ringOfTwoSwapped.resolve {} = .ok m₂ → ∀ n,
        (m₁.get? n).map (fun e => { e with rank := 0 }) =
          (m₂.get? n).map (fun e => { e with rank := 0 })) ∧
      (∀ errors₁ errors₂, ringOfTwo.resolve {} = .error errors₁ →
        ringOfTwoSwapped.resolve {} = .error errors₂ →
        errors₁.length = errors₂.length ∧
          (errors₁.map SchemaError.kind).Perm (errors₂.map SchemaError.kind) ∧
          (errors₁.filter (·.kind.isLocal)).Perm (errors₂.filter (·.kind.isLocal))) := by
  have hfrozen : ringOfTwo.Frozen := by decide
  have hperm : ringOfTwo.decls.Perm ringOfTwoSwapped.decls := List.Perm.swap _ _ _
  exact ⟨hfrozen, hperm, resolve_registrationOrder_invariant {} ringOfTwo ringOfTwoSwapped hfrozen hperm⟩

end Registry

end EntitySchema
