import EntitySchema.Proofs.ResolvePass

/-! # Registries that hold the same declarations

Two registries that find the same declaration under every name and hold as many declarations
(`SameDecls`) differ at most in their registration order; two frozen registries whose
declarations are a permutation of each other are such a pair (`sameDecls_of_perm`). Everything
that reads a registry only through its lookups and its size then agrees between them: the walk
along bases and each declaration's chain, the references, shadowed fields and defaults that
each declaration gets wrong, the edges and dependencies of the dependency graph, and each
declaration's resolved entity but for its rank. What reads the registration order itself is
the canonical form of a ring and the positions of the graph.
-/

namespace EntitySchema

namespace Registry

/-- Two registries that find the same declaration under every name and hold as many. -/
structure SameDecls (r₁ r₂ : Registry) : Prop where
  lookup : r₁.lookup? = r₂.lookup?
  size : r₁.size = r₂.size

variable {r₁ r₂ : Registry}

theorem sameDecls_of_perm (hr : r₁.Frozen) (hp : r₁.decls.Perm r₂.decls) : SameDecls r₁ r₂ :=
  ⟨funext (lookup?_eq_of_perm hr hp), hp.length_eq⟩

theorem SameDecls.symm (h : SameDecls r₁ r₂) : SameDecls r₂ r₁ := ⟨h.lookup.symm, h.size.symm⟩

theorem SameDecls.contains (h : SameDecls r₁ r₂) : r₁.contains = r₂.contains := by
  funext n
  rw [contains_eq_isSome_lookup, contains_eq_isSome_lookup, h.lookup]

theorem SameDecls.mem_names (h : SameDecls r₁ r₂) {n : String} : n ∈ r₁.names ↔ n ∈ r₂.names := by
  rw [← contains_iff, ← contains_iff, h.contains]

theorem SameDecls.walkBases (h : SameDecls r₁ r₂) :
    ∀ (fuel : Nat) (way : List String) (current : EntityDecl),
      r₁.walkBases fuel way current = r₂.walkBases fuel way current
  | 0, _, _ => rfl
  | fuel + 1, way, current => by
    simp only [Registry.walkBases, h.lookup, h.walkBases fuel]

theorem SameDecls.chainOf (h : SameDecls r₁ r₂) (d : EntityDecl) : r₁.chainOf d = r₂.chainOf d := by
  rw [Registry.chainOf, Registry.chainOf, h.size, h.walkBases]

theorem SameDecls.referenceErrors (h : SameDecls r₁ r₂) (d : EntityDecl) :
    r₁.referenceErrors d = r₂.referenceErrors d := by
  simp only [Registry.referenceErrors, h.lookup, h.contains]

theorem SameDecls.shadowErrors (h : SameDecls r₁ r₂) (d : EntityDecl) (ancestors : List String) :
    r₁.shadowErrors d ancestors = r₂.shadowErrors d ancestors := by
  simp only [Registry.shadowErrors, Registry.inheritedOwners, h.lookup]

theorem SameDecls.defaultErrors (h : SameDecls r₁ r₂) (d : EntityDecl) :
    r₁.defaultErrors d = r₂.defaultErrors d := by
  have hproblem : r₁.defaultProblem = r₂.defaultProblem := by
    funext t l
    cases t <;> simp only [defaultProblem, h.lookup]
  simp only [Registry.defaultErrors, hproblem]

theorem SameDecls.edgesOf (h : SameDecls r₁ r₂) (d : EntityDecl) : r₁.edgesOf d = r₂.edgesOf d := by
  simp only [Registry.edgesOf, h.lookup, h.contains]

theorem SameDecls.dependencies (h : SameDecls r₁ r₂) (n : String) :
    (DependencyGraph.build r₁).dependencies n = (DependencyGraph.build r₂).dependencies n := by
  have hedges : r₁.edgesOf = r₂.edgesOf := funext h.edgesOf
  simp only [DependencyGraph.dependencies, DependencyGraph.build_edges, h.lookup, hedges]

theorem SameDecls.materialize (h : SameDecls r₁ r₂) (d : EntityDecl) (ancestors : List String)
    (rank : Nat) :
    r₁.materialize d ancestors rank (DependencyGraph.build r₁) =
      r₂.materialize d ancestors rank (DependencyGraph.build r₂) := by
  simp only [Registry.materialize, h.lookup, h.dependencies]

theorem SameDecls.completeChains (h : SameDecls r₁ r₂) (d : EntityDecl) :
    r₁.completeChains d = r₂.completeChains d := by
  simp only [Registry.completeChains, h.chainOf]

/-! ## Hard edges in frozen registries -/

theorem Frozen.hardEdge_iff_lookup {r : Registry} (hr : r.Frozen) {a b : String} :
    r.HardEdge a b ↔ ∃ d, r.lookup? a = some d ∧ ∃ e ∈ r.edgesOf d, e.target = b := by
  constructor
  · intro hab
    obtain ⟨d, hd⟩ := exists_lookup? hab.mem_names.1
    obtain rfl := lookup?_name hd
    exact ⟨d, hd, (hr.hardEdge_iff (lookup?_mem hd)).1 hab⟩
  · rintro ⟨d, hd, hedge⟩
    obtain rfl := lookup?_name hd
    exact (hr.hardEdge_iff (lookup?_mem hd)).2 hedge

theorem Frozen.holdsByValue_iff_lookup {r : Registry} (hr : r.Frozen) {a t : String} :
    r.HoldsByValue a t ↔
      ∃ d, r.lookup? a = some d ∧ ∃ f ∈ d.fields, f.type = .reference t ∧ t ∈ r.names := by
  constructor
  · rintro ⟨d, hd, rfl, hfield⟩
    exact ⟨d, hr.lookup?_self hd, hfield⟩
  · rintro ⟨d, hd, hfield⟩
    obtain rfl := lookup?_name hd
    exact ⟨d, lookup?_mem hd, rfl, hfield⟩

theorem SameDecls.hardEdge (h : SameDecls r₁ r₂) (hr₁ : r₁.Frozen) (hr₂ : r₂.Frozen) :
    r₁.HardEdge = r₂.HardEdge := by
  funext a b
  rw [hr₁.hardEdge_iff_lookup, hr₂.hardEdge_iff_lookup, h.lookup, funext h.edgesOf]

theorem SameDecls.holdsByValue (h : SameDecls r₁ r₂) (hr₁ : r₁.Frozen) (hr₂ : r₂.Frozen) :
    r₁.HoldsByValue = r₂.HoldsByValue := by
  funext a t
  rw [hr₁.holdsByValue_iff_lookup, hr₂.holdsByValue_iff_lookup, h.lookup]
  simp only [h.mem_names]

end Registry

end EntitySchema
