import EntitySchema.Proofs.RegistrationOrder

/-! # Allowing shadowing

`allowShadowing` is read at one place: a complete chain's shadowed fields are reported unless
it is set. Under both settings the pass records the same chains and the same rings, and every
other check reports the same errors (`DropsShadows.foldl`). So with shadowing allowed,
resolution reports the errors it reports without, less the shadowed fields and in the same
order, and a registry that resolves without shadowing resolves to the same model with it
(`resolve_allowShadowing`).
-/

namespace EntitySchema

namespace Registry

variable {r : Registry} {d : EntityDecl}

/-! ## What each check reports under the two settings -/

theorem filter_referenceErrors_notShadow :
    (r.referenceErrors d).filter (·.kind != .fieldShadow) = r.referenceErrors d :=
  List.filter_eq_self.2 fun e he => by rw [kind_of_mem_referenceErrors he]; rfl

theorem filter_defaultErrors_notShadow :
    (r.defaultErrors d).filter (·.kind != .fieldShadow) = r.defaultErrors d :=
  List.filter_eq_self.2 fun e he => by rw [kind_of_mem_defaultErrors he]; rfl

theorem filter_valueCycles_notShadow :
    (DependencyGraph.build r).valueCycles.filter (·.kind != .fieldShadow) =
      (DependencyGraph.build r).valueCycles :=
  List.filter_eq_self.2 fun e he => by rw [kind_of_mem_valueCycles he]; rfl

/-- A chain adds the same ring under both settings, and its shadowed fields only when
shadowing is not allowed. -/
theorem chainErrors_allowShadowing (reported : List (List String)) :
    r.chainErrors { allowShadowing := true } reported d =
      (r.chainErrors { allowShadowing := false } reported d).filter (·.kind != .fieldShadow) := by
  unfold chainErrors
  cases r.chainOf d with
  | complete ancestors =>
    simp only [if_true, Bool.false_eq_true, if_false]
    exact (List.filter_eq_nil_iff.2 fun e he => by rw [kind_of_mem_shadowErrors he]; decide).symm
  | cycle ring =>
    by_cases hnew : r.canonicalCycle ring ∈ reported
    · simp [hnew]
    · simp only [List.contains_iff_mem, hnew, if_false]
      rfl
  | broken => rfl

/-! ## The pass under the two settings -/

/-- The pass with shadowing allowed, `p₁`, beside the pass without, `p₂`: the same chains and
rings, and the same errors but for the shadowed fields. -/
structure DropsShadows (p₁ p₂ : ResolvePass) : Prop where
  errors : p₁.errors = p₂.errors.filter (·.kind != .fieldShadow)
  chains : p₁.chains = p₂.chains
  reported : p₁.reported = p₂.reported

theorem DropsShadows.checkDecl {p₁ p₂ : ResolvePass} (h : DropsShadows p₁ p₂) (d : EntityDecl) :
    DropsShadows (r.checkDecl { allowShadowing := true } p₁ d)
      (r.checkDecl { allowShadowing := false } p₂ d) where
  errors := by
    rw [checkDecl_errors, checkDecl_errors, h.errors, h.reported, chainErrors_allowShadowing]
    simp only [List.filter_append, filter_referenceErrors_notShadow, filter_defaultErrors_notShadow]
  chains := by rw [checkDecl_chains, checkDecl_chains, h.chains]
  reported := by rw [checkDecl_reported, checkDecl_reported, h.reported]

theorem DropsShadows.foldl {p₁ p₂ : ResolvePass} (h : DropsShadows p₁ p₂) (ds : List EntityDecl) :
    DropsShadows (ds.foldl (r.checkDecl { allowShadowing := true }) p₁)
      (ds.foldl (r.checkDecl { allowShadowing := false }) p₂) := by
  induction ds generalizing p₁ p₂ with
  | nil => exact h
  | cons d ds ih => exact ih (h.checkDecl d)

theorem dropsShadows_pass (r : Registry) :
    DropsShadows (r.decls.foldl (r.checkDecl { allowShadowing := true }) {})
      (r.decls.foldl (r.checkDecl { allowShadowing := false }) {}) :=
  DropsShadows.foldl ⟨rfl, rfl, rfl⟩ r.decls

theorem resolveErrors_allowShadowing :
    resolveErrors { allowShadowing := true } r =
      (resolveErrors { allowShadowing := false } r).filter (·.kind != .fieldShadow) := by
  rw [resolveErrors, resolveErrors, (dropsShadows_pass r).errors, List.filter_append,
    filter_valueCycles_notShadow]

/-- Resolving with shadowing allowed fails exactly when resolving without it fails with an
error other than a shadowed field, and then with those errors, in the same order. A registry
that resolves without shadowing resolves to the same model with it. -/
theorem resolve_allowShadowing (r : Registry) :
    (∀ errors, r.resolve { allowShadowing := true } = .error errors ↔
      ∃ errors₀, r.resolve { allowShadowing := false } = .error errors₀ ∧
        errors = errors₀.filter (·.kind != .fieldShadow) ∧ errors ≠ []) ∧
    ∀ m, r.resolve { allowShadowing := false } = .ok m →
      r.resolve { allowShadowing := true } = .ok m := by
  refine ⟨fun errors => ?_, fun m hm => ?_⟩
  · rw [resolve_error_iff, resolveErrors_allowShadowing]
    constructor
    · rintro ⟨rfl, hne⟩
      have hne₀ : resolveErrors { allowShadowing := false } r ≠ [] := by
        intro h
        rw [h] at hne
        exact hne rfl
      exact ⟨_, resolve_error_iff.2 ⟨rfl, hne₀⟩, rfl, hne⟩
    · rintro ⟨errors₀, h₀, rfl, hne⟩
      obtain ⟨rfl, -⟩ := resolve_error_iff.1 h₀
      exact ⟨rfl, hne⟩
  · have hnil : resolveErrors { allowShadowing := false } r = [] :=
      resolve_ok_iff_resolveErrors.1 ⟨m, hm⟩
    have hnil' : resolveErrors { allowShadowing := true } r = [] := by
      rw [resolveErrors_allowShadowing, hnil, List.filter_nil]
    unfold resolveErrors at hnil hnil'
    unfold resolve at hm ⊢
    simp only [hnil, hnil', List.isEmpty_nil, Bool.not_true, Bool.false_eq_true, if_false] at hm ⊢
    rw [(dropsShadows_pass r).chains]
    exact hm

end Registry

end EntitySchema
