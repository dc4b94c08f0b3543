import EntitySchema.Proofs.BaseChain

/-! # The pass over the declarations

Resolution first checks every declaration in registration order, carrying the errors found so
far, the complete chains and the rings of bases already reported. One check adds, in this
order, the unresolved references of the declaration, what its chain adds (its shadowed fields
when the chain is complete, its ring when that ring is new), and its defaults that do not fit
(`checkDecl_errors`).

Each list of errors is empty exactly when a plain condition on the declaration holds
(`referenceErrors_eq_nil_iff`, `shadowErrors_eq_nil_iff`, `defaultErrors_eq_nil_iff`), and the
pass finds nothing exactly when every declaration passes all its checks
(`pass_errors_eq_nil_iff`): the first ring found is always new, so a ring is never silent.
-/

namespace EntitySchema

namespace Registry

variable {r : Registry} {d : EntityDecl}

/-! ## The checks of one declaration -/

theorem referenceErrors_eq_nil_iff :
    r.referenceErrors d = [] ↔
      r.BaseResolves d ∧ ∀ f ∈ d.fields, ∀ n, f.type.referencedName? = some n → n ∈ r.names := by
  unfold referenceErrors
  rw [List.append_eq_nil_iff, List.filterMap_eq_nil_iff]
  apply and_congr
  · unfold BaseResolves
    cases hb : d.base with
    | none => simp
    | some b =>
      by_cases hself : b = d.name
      · simp [hself]
      · cases ht : r.lookup? b with
        | none => simp [hself, ht]
        | some t => cases he : t.isEnum <;> simp [hself, ht, he]
  · apply forall₂_congr
    intro f hf
    cases hn : f.type.referencedName? with
    | none => simp
    | some n => by_cases hc : n ∈ r.names <;> simp [hc]

/-- The names `inheritedOwners` records are the field names of the owners, each kept with the
owner that declared it first. -/
theorem mem_keys_foldl_owner (a : EntityDecl) :
    ∀ (fs : List FieldDecl) (acc : List (String × String)) (x : String),
      x ∈ (fs.foldl (fun acc f => if acc.any (·.1 == f.name) then acc else acc ++ [(f.name, a.name)])
        acc).map Prod.fst ↔ x ∈ acc.map Prod.fst ∨ ∃ f ∈ fs, f.name = x
  | [], acc, x => by simp
  | f :: fs, acc, x => by
    rw [List.foldl_cons, mem_keys_foldl_owner a fs]
    split
    · rename_i h
      obtain ⟨kv, hkv, hk⟩ := List.any_eq_true.1 h
      have hf : f.name ∈ acc.map Prod.fst := List.mem_map.2 ⟨kv, hkv, by simpa using hk⟩
      constructor
      · rintro (hx | ⟨g, hg, rfl⟩)
        · exact .inl hx
        · exact .inr ⟨g, List.mem_cons_of_mem _ hg, rfl⟩
      · rintro (hx | ⟨g, hg, rfl⟩)
        · exact .inl hx
        · rcases List.mem_cons.1 hg with rfl | hg
          · exact .inl hf
          · exact .inr ⟨g, hg, rfl⟩
    · simp only [List.map_append, List.map_singleton, List.mem_append, List.mem_cons,
        exists_eq_or_imp]
      tauto

theorem mem_keys_inheritedOwners (ancestors : List String) (x : String) :
    x ∈ (r.inheritedOwners ancestors).map Prod.fst ↔
      ∃ a ∈ ancestors.filterMap r.lookup?, ∃ f ∈ a.fields, f.name = x := by
  unfold inheritedOwners
  generalize ancestors.filterMap r.lookup? = owners
  suffices h : ∀ (acc : List (String × String)),
      x ∈ (owners.foldl (fun acc a => a.fields.foldl
        (fun acc f => if acc.any (·.1 == f.name) then acc else acc ++ [(f.name, a.name)]) acc)
        acc).map Prod.fst ↔ x ∈ acc.map Prod.fst ∨ ∃ a ∈ owners, ∃ f ∈ a.fields, f.name = x by
    simpa using h []
  induction owners with
  | nil => simp
  | cons a owners ih =>
    intro acc
    rw [List.foldl_cons, ih, mem_keys_foldl_owner]
    simp only [List.mem_cons, exists_eq_or_imp, or_assoc]

theorem shadowErrors_eq_nil_iff (ancestors : List String) :
    r.shadowErrors d ancestors = [] ↔
      ∀ f ∈ d.fields, ∀ a ∈ ancestors, ∀ ad, r.lookup? a = some ad → ∀ g ∈ ad.fields,
        f.name ≠ g.name := by
  unfold shadowErrors
  rw [List.filterMap_eq_nil_iff]
  apply forall₂_congr
  intro f hf
  have hnone : (r.inheritedOwners ancestors).lookup f.name = none ↔
      f.name ∉ (r.inheritedOwners ancestors).map Prod.fst := by
    rw [List.lookup_eq_none_iff]
    simp only [bne_iff_ne, ne_eq, List.mem_map, not_exists, not_and]
    exact ⟨fun h p hp hpf => h p hp hpf.symm, fun h p hp hpf => h p hp hpf.symm⟩
  rw [Option.map_eq_none_iff, hnone, mem_keys_inheritedOwners]
  constructor
  · intro h a ha ad had g hg hfg
    exact h ⟨ad, List.mem_filterMap.2 ⟨a, ha, had⟩, g, hg, hfg.symm⟩
  · rintro h ⟨ad, had, g, hg, hgf⟩
    obtain ⟨a, ha, hlook⟩ := List.mem_filterMap.1 had
    exact h a ha ad hlook g hg hgf.symm

theorem defaultErrors_eq_nil_iff :
    r.defaultErrors d = [] ↔
      ∀ f ∈ d.fields, ∀ l, f.default = some l → r.defaultProblem f.type l = none := by
  unfold defaultErrors
  rw [List.filterMap_eq_nil_iff]
  apply forall₂_congr
  intro f hf
  cases f.default <;> simp

/-! ## One check and the whole pass -/

/-- The errors the chain of `d` adds, given the rings already reported. -/
def chainErrors (o : ResolveOptions) (r : Registry) (reported : List (List String))
    (d : EntityDecl) : List SchemaError :=
  match r.chainOf d with
  | .complete ancestors => if o.allowShadowing then [] else r.shadowErrors d ancestors
  | .cycle ring =>
    if reported.contains (r.canonicalCycle ring) then [] else [.inheritanceCycle (r.canonicalCycle ring)]
  | .broken => []

/-- The rings the chain of `d` reports, given the rings already reported. -/
def newRings (r : Registry) (reported : List (List String)) (d : EntityDecl) : List (List String) :=
  match r.chainOf d with
  | .cycle ring => if reported.contains (r.canonicalCycle ring) then [] else [r.canonicalCycle ring]
  | _ => []

/-- The chain of `d`, when it is complete. -/
def completeChains (r : Registry) (d : EntityDecl) : List (String × List String) :=
  match r.chainOf d with
  | .complete ancestors => [(d.name, ancestors)]
  | _ => []

variable (o : ResolveOptions) (p : ResolvePass)

theorem checkDecl_eq :
    r.checkDecl o p d =
      { errors := p.errors ++ r.referenceErrors d ++ r.chainErrors o p.reported d ++ r.defaultErrors d
        chains := p.chains ++ r.completeChains d
        reported := p.reported ++ r.newRings p.reported d } := by
  unfold checkDecl chainErrors completeChains newRings
  cases r.chainOf d with
  | complete ancestors => simp
  | cycle ring => by_cases h : r.canonicalCycle ring ∈ p.reported <;> simp [h]
  | broken => simp

theorem checkDecl_errors :
    (r.checkDecl o p d).errors =
      p.errors ++ r.referenceErrors d ++ r.chainErrors o p.reported d ++ r.defaultErrors d := by
  rw [checkDecl_eq]

theorem checkDecl_reported : (r.checkDecl o p d).reported = p.reported ++ r.newRings p.reported d := by
  rw [checkDecl_eq]

theorem checkDecl_chains : (r.checkDecl o p d).chains = p.chains ++ r.completeChains d := by
  rw [checkDecl_eq]

variable {o}

/-- Declaration `d` passes every check of the pass: its references resolve, its chain is no
ring, a complete chain has no shadowed field unless shadowing is allowed, and its defaults fit. -/
structure DeclClean (o : ResolveOptions) (r : Registry) (d : EntityDecl) : Prop where
  references : r.referenceErrors d = []
  no_ring : ∀ ring, r.chainOf d ≠ .cycle ring
  no_shadow : ∀ ancestors, r.chainOf d = .complete ancestors → o.allowShadowing = false →
    r.shadowErrors d ancestors = []
  defaults : r.defaultErrors d = []

/-- With nothing reported yet, the chain adds no error exactly when it is no ring and, when
complete, shadows nothing. -/
theorem chainErrors_nil_eq_nil_iff :
    r.chainErrors o [] d = [] ↔
      (∀ ring, r.chainOf d ≠ .cycle ring) ∧
      ∀ ancestors, r.chainOf d = .complete ancestors → o.allowShadowing = false →
        r.shadowErrors d ancestors = [] := by
  unfold chainErrors
  cases r.chainOf d with
  | complete ancestors => cases o.allowShadowing <;> simp
  | cycle ring => simp
  | broken => simp

theorem checkDecl_errors_eq_nil_iff (hinv : p.errors = [] → p.reported = []) :
    (r.checkDecl o p d).errors = [] ↔ p.errors = [] ∧ DeclClean o r d := by
  rw [checkDecl_errors]
  simp only [List.append_eq_nil_iff]
  constructor
  · rintro ⟨⟨⟨he, hr⟩, hc⟩, hd⟩
    rw [hinv he] at hc
    obtain ⟨hring, hshadow⟩ := chainErrors_nil_eq_nil_iff.1 hc
    exact ⟨he, hr, hring, hshadow, hd⟩
  · rintro ⟨he, ⟨hr, hring, hshadow, hd⟩⟩
    rw [hinv he]
    exact ⟨⟨⟨he, hr⟩, chainErrors_nil_eq_nil_iff.2 ⟨hring, hshadow⟩⟩, hd⟩

theorem checkDecl_reported_inv (hinv : p.errors = [] → p.reported = []) :
    (r.checkDecl o p d).errors = [] → (r.checkDecl o p d).reported = [] := by
  intro h
  obtain ⟨he, hclean⟩ := (checkDecl_errors_eq_nil_iff p hinv).1 h
  rw [checkDecl_reported, hinv he]
  unfold newRings
  cases hc : r.chainOf d with
  | cycle ring => exact absurd hc (hclean.no_ring ring)
  | complete ancestors => rfl
  | broken => rfl

theorem foldl_checkDecl_errors_eq_nil_iff :
    ∀ (ds : List EntityDecl) (p : ResolvePass), (p.errors = [] → p.reported = []) →
      ((ds.foldl (r.checkDecl o) p).errors = [] ↔ p.errors = [] ∧ ∀ d ∈ ds, DeclClean o r d)
  | [], p, _ => by simp
  | d :: ds, p, hinv => by
    rw [List.foldl_cons, foldl_checkDecl_errors_eq_nil_iff ds _ (checkDecl_reported_inv p hinv),
      checkDecl_errors_eq_nil_iff p hinv]
    simp only [List.mem_cons, forall_eq_or_imp]
    tauto

/-- The pass over a registry finds nothing exactly when every declaration is clean. -/
theorem pass_errors_eq_nil_iff :
    (r.decls.foldl (r.checkDecl o) {}).errors = [] ↔ ∀ d ∈ r.decls, DeclClean o r d := by
  rw [foldl_checkDecl_errors_eq_nil_iff _ _ (fun _ => rfl)]
  simp

/-- Resolution succeeds exactly when every declaration is clean and there is no value cycle;
when it fails, it fails with at least one error. -/
theorem resolve_ok_iff_clean :
    ((∃ m, r.resolve o = .ok m) ↔
      (∀ d ∈ r.decls, DeclClean o r d) ∧ (DependencyGraph.build r).valueCycles = []) ∧
    ∀ errors, r.resolve o = .error errors → errors ≠ [] := by
  rw [← pass_errors_eq_nil_iff]
  unfold resolve
  constructor
  · by_cases h : (r.decls.foldl (r.checkDecl o) {}).errors ++ (DependencyGraph.build r).valueCycles = []
    · simp only [List.append_eq_nil_iff] at h
      simp [h]
    · have h' : ¬ ((r.decls.foldl (r.checkDecl o) {}).errors = [] ∧
          (DependencyGraph.build r).valueCycles = []) := by
        simpa [List.append_eq_nil_iff] using h
      simp [h']
  · intro errors h
    simp only at h
    split at h
    · rename_i hne
      cases h
      simpa using hne
    · cases h

end Registry

end EntitySchema
