import EntitySchema.Proofs.CanonicalCycle
import EntitySchema.Proofs.SameDecls

/-! # The errors of the pass, by kind

The pass reports two sorts of error. Unresolved references, shadowed fields and defaults that
do not fit are about one declaration alone (`ErrorKind.isLocal`): the pass reports, for each
declaration in turn, its `localErrors` (`foldl_checkDecl_local`), which read the registry only
through its lookups. The other errors of the pass are the rings of bases it reports
(`foldl_checkDecl_rings`), one per canonical form of a ring that some chain leads into
(`foldl_checkDecl_reported`).

So two frozen registries with the same declarations report local errors that are a permutation
of each other, and as many rings (`length_reported_eq`): their canonical forms differ only in
where each ring starts.
-/

namespace EntitySchema

/-- Whether errors of a kind are about one declaration alone. -/
def ErrorKind.isLocal : ErrorKind → Bool
  | .unresolvedReference | .fieldShadow | .defaultTypeMismatch => true
  | _ => false

namespace Registry

variable {r : Registry} {d : EntityDecl} {o : ResolveOptions}

/-! ## The kinds each check reports -/

theorem kind_of_mem_referenceErrors {e : SchemaError} (he : e ∈ r.referenceErrors d) :
    e.kind = .unresolvedReference := by
  unfold referenceErrors at he
  rcases List.mem_append.1 he with hb | hf
  · split at hb
    · simp at hb
    · split at hb
      · simp [List.mem_singleton.1 hb, SchemaError.kind]
      · split at hb
        · simp [List.mem_singleton.1 hb, SchemaError.kind]
        · split at hb
          · simp [List.mem_singleton.1 hb, SchemaError.kind]
          · simp at hb
  · obtain ⟨f, -, hfe⟩ := List.mem_filterMap.1 hf
    split at hfe
    · split at hfe
      · simp at hfe
      · cases hfe
        rfl
    · simp at hfe

theorem kind_of_mem_shadowErrors {e : SchemaError} {ancestors : List String}
    (he : e ∈ r.shadowErrors d ancestors) : e.kind = .fieldShadow := by
  obtain ⟨f, -, hfe⟩ := List.mem_filterMap.1 he
  obtain ⟨owner, -, rfl⟩ := Option.map_eq_some_iff.1 hfe
  rfl

theorem kind_of_mem_defaultErrors {e : SchemaError} (he : e ∈ r.defaultErrors d) :
    e.kind = .defaultTypeMismatch := by
  obtain ⟨f, -, hfe⟩ := List.mem_filterMap.1 he
  obtain ⟨l, -, hl⟩ := Option.bind_eq_some_iff.1 hfe
  obtain ⟨expected, -, rfl⟩ := Option.map_eq_some_iff.1 hl
  rfl

/-! ## Local errors and rings -/

/-- The shadowed fields the chain of a declaration reports: a complete chain is checked unless
shadowing is allowed. -/
def shadowPart (o : ResolveOptions) (r : Registry) (d : EntityDecl) : List SchemaError :=
  match r.chainOf d with
  | .complete ancestors => if o.allowShadowing then [] else r.shadowErrors d ancestors
  | _ => []

/-- The errors the pass reports about a declaration alone. -/
def localErrors (o : ResolveOptions) (r : Registry) (d : EntityDecl) : List SchemaError :=
  r.referenceErrors d ++ shadowPart o r d ++ r.defaultErrors d

theorem SameDecls.localErrors {r₁ r₂ : Registry} (h : SameDecls r₁ r₂) (d : EntityDecl) :
    localErrors o r₁ d = localErrors o r₂ d := by
  simp only [Registry.localErrors, shadowPart, h.referenceErrors, h.chainOf, h.shadowErrors,
    h.defaultErrors]

theorem filter_chainErrors_local (reported : List (List String)) :
    (r.chainErrors o reported d).filter (·.kind.isLocal) = shadowPart o r d := by
  cases hchain : r.chainOf d with
  | complete ancestors =>
    by_cases hallow : o.allowShadowing
    · simp [chainErrors, shadowPart, hchain, hallow]
    · simp only [chainErrors, shadowPart, hchain, hallow]
      exact List.filter_eq_self.2 fun e he => by
        simp [kind_of_mem_shadowErrors he, ErrorKind.isLocal]
  | cycle ring =>
    by_cases hnew : r.canonicalCycle ring ∈ reported <;>
      simp [chainErrors, shadowPart, hchain, hnew, SchemaError.kind, ErrorKind.isLocal]
  | broken => simp [chainErrors, shadowPart, hchain]

theorem filter_chainErrors_ring (reported : List (List String)) :
    (r.chainErrors o reported d).filter (!·.kind.isLocal) =
      (r.newRings reported d).map .inheritanceCycle := by
  cases hchain : r.chainOf d with
  | complete ancestors =>
    by_cases hallow : o.allowShadowing
    · simp [chainErrors, newRings, hchain, hallow]
    · simp only [chainErrors, newRings, hchain, hallow, List.map_nil]
      exact List.filter_eq_nil_iff.2 fun e he => by
        simp [kind_of_mem_shadowErrors he, ErrorKind.isLocal]
  | cycle ring =>
    by_cases hnew : r.canonicalCycle ring ∈ reported <;>
      simp [chainErrors, newRings, hchain, hnew, SchemaError.kind, ErrorKind.isLocal]
  | broken => simp [chainErrors, newRings, hchain]

theorem foldl_checkDecl_local (ds : List EntityDecl) (p : ResolvePass) :
    (ds.foldl (r.checkDecl o) p).errors.filter (·.kind.isLocal) =
      p.errors.filter (·.kind.isLocal) ++ ds.flatMap (localErrors o r) := by
  induction ds generalizing p with
  | nil => simp
  | cons d ds ih =>
    have href : (r.referenceErrors d).filter (·.kind.isLocal) = r.referenceErrors d :=
      List.filter_eq_self.2 fun e he => by simp [kind_of_mem_referenceErrors he, ErrorKind.isLocal]
    have hdef : (r.defaultErrors d).filter (·.kind.isLocal) = r.defaultErrors d :=
      List.filter_eq_self.2 fun e he => by simp [kind_of_mem_defaultErrors he, ErrorKind.isLocal]
    rw [List.foldl_cons, ih, checkDecl_errors]
    simp only [List.filter_append, href, hdef, filter_chainErrors_local, List.flatMap_cons,
      localErrors, List.append_assoc]

theorem foldl_checkDecl_rings (ds : List EntityDecl) (p : ResolvePass)
    (hp : p.errors.filter (!·.kind.isLocal) = p.reported.map .inheritanceCycle) :
    (ds.foldl (r.checkDecl o) p).errors.filter (!·.kind.isLocal) =
      (ds.foldl (r.checkDecl o) p).reported.map .inheritanceCycle := by
  induction ds generalizing p with
  | nil => exact hp
  | cons d ds ih =>
    refine ih _ ?_
    have href : (r.referenceErrors d).filter (!·.kind.isLocal) = [] :=
      List.filter_eq_nil_iff.2 fun e he => by simp [kind_of_mem_referenceErrors he, ErrorKind.isLocal]
    have hdef : (r.defaultErrors d).filter (!·.kind.isLocal) = [] :=
      List.filter_eq_nil_iff.2 fun e he => by simp [kind_of_mem_defaultErrors he, ErrorKind.isLocal]
    rw [checkDecl_errors, checkDecl_reported]
    simp only [List.filter_append, href, hdef, filter_chainErrors_ring, hp, List.map_append,
      List.append_nil]

/-- The rings reported are the canonical forms of the rings that chains lead into, each once. -/
theorem foldl_checkDecl_reported (ds : List EntityDecl) (p : ResolvePass) (hp : p.reported.Nodup) :
    (ds.foldl (r.checkDecl o) p).reported.Nodup ∧
      ∀ c, c ∈ (ds.foldl (r.checkDecl o) p).reported ↔
        c ∈ p.reported ∨ ∃ d ∈ ds, ∃ ring, r.chainOf d = .cycle ring ∧ c = r.canonicalCycle ring := by
  induction ds generalizing p with
  | nil => simp [hp]
  | cons d ds ih =>
    have hstep : (r.checkDecl o p d).reported.Nodup ∧ ∀ c, c ∈ (r.checkDecl o p d).reported ↔
        c ∈ p.reported ∨ ∃ ring, r.chainOf d = .cycle ring ∧ c = r.canonicalCycle ring := by
      rw [checkDecl_reported]
      unfold newRings
      cases hchain : r.chainOf d with
      | cycle ring =>
        simp only [Chain.cycle.injEq, exists_eq_left']
        by_cases hnew : r.canonicalCycle ring ∈ p.reported
        · simp only [List.contains_iff_mem, hnew, if_true, List.append_nil]
          refine ⟨hp, fun c => ⟨.inl, ?_⟩⟩
          rintro (hc | rfl)
          · exact hc
          · exact hnew
        · simp only [List.contains_iff_mem, hnew, if_false]
          refine ⟨List.nodup_append.2 ⟨hp, List.nodup_singleton _, ?_⟩, fun c => ?_⟩
          · rintro a ha b hb rfl
            exact hnew (List.mem_singleton.1 hb ▸ ha)
          · simp
      | complete ancestors => simp [hp]
      | broken => simp [hp]
    rw [List.foldl_cons]
    obtain ⟨hnodup, hmem⟩ := ih _ hstep.1
    refine ⟨hnodup, fun c => ?_⟩
    rw [hmem, hstep.2]
    simp only [List.mem_cons, exists_eq_or_imp, or_assoc]

/-! ## Two registries with the same declarations -/

section Reorder

variable {r₁ r₂ : Registry}

theorem IsRing.of_sameDecls (h : SameDecls r₁ r₂) {ring : List String} (hring : r₁.IsRing ring) :
    r₂.IsRing ring :=
  ⟨hring.closed, hring.nodup, fun x hx => h.mem_names.1 (hring.registered x hx)⟩

/-- The canonical form of a ring, in any registration order, is a ring with the same members
turned. -/
theorem IsRing.canonicalCycle {ring : List String} (hring : r.IsRing ring) (r' : Registry) :
    r.IsRing (r'.canonicalCycle ring) ∧ (r'.canonicalCycle ring).dropLast ~r ring.dropLast := by
  rw [canonicalCycle_eq_closeRing]
  set turned := ring.dropLast.rotate (r'.leastIndex ring.dropLast)
  have hturned : turned ≠ [] := by
    simpa [turned, List.rotate_eq_nil_iff] using hring.ne_nil
  obtain ⟨first, hfirst⟩ := Option.isSome_iff_exists.1 (List.isSome_head?.2 hturned)
  have hclose : closeRing turned = turned ++ [first] := by simp [closeRing, hfirst]
  refine ⟨⟨⟨first, by simpa using hfirst, by simp [hclose]⟩, ?_, ?_⟩, ?_⟩
  · simpa [turned, List.nodup_rotate] using hring.nodup
  · intro x hx
    exact hring.registered x (by simpa [turned] using hx)
  · have hrot : ring.dropLast ~r turned := ⟨_, rfl⟩
    simpa using hrot.symm

theorem canonicalCycle_canonicalCycle {ring : List String} (hring : r.IsRing ring)
    (r' : Registry) : r.canonicalCycle (r'.canonicalCycle ring) = r.canonicalCycle ring := by
  obtain ⟨hcanon, hrot⟩ := hring.canonicalCycle r'
  exact (canonicalCycle_eq_iff hcanon hring).2 hrot

theorem length_reported_eq (hr₁ : r₁.Frozen) (hp : r₁.decls.Perm r₂.decls) :
    (r₁.decls.foldl (r₁.checkDecl o) {}).reported.length =
      (r₂.decls.foldl (r₂.checkDecl o) {}).reported.length := by
  have h := sameDecls_of_perm hr₁ hp
  obtain ⟨hnodup₁, hmem₁⟩ := foldl_checkDecl_reported (r := r₁) (o := o) r₁.decls {} List.nodup_nil
  obtain ⟨hnodup₂, hmem₂⟩ := foldl_checkDecl_reported (r := r₂) (o := o) r₂.decls {} List.nodup_nil
  simp only [List.not_mem_nil, false_or] at hmem₁ hmem₂
  have hring : ∀ x ∈ (r₁.decls.foldl (r₁.checkDecl o) {}).reported, ∃ ring, r₁.IsRing ring ∧
      x = r₁.canonicalCycle ring ∧ ∃ d ∈ r₁.decls, r₁.chainOf d = .cycle ring := by
    intro x hx
    obtain ⟨d, hd, ring, hchain, rfl⟩ := (hmem₁ x).1 hx
    exact ⟨ring, isRing_of_chainOf hd hchain, rfl, d, hd, hchain⟩
  have hperm : (r₂.decls.foldl (r₂.checkDecl o) {}).reported.Perm
      ((r₁.decls.foldl (r₁.checkDecl o) {}).reported.map r₂.canonicalCycle) := by
    refine (List.perm_ext_iff_of_nodup hnodup₂ (List.Nodup.map_on ?_ hnodup₁)).2 fun y => ?_
    · intro x hx x' hx' hxx'
      obtain ⟨ring, hring₁, rfl, -⟩ := hring x hx
      obtain ⟨ring', hring₁', rfl, -⟩ := hring x' hx'
      rw [canonicalCycle_canonicalCycle (hring₁.of_sameDecls h) r₁,
        canonicalCycle_canonicalCycle (hring₁'.of_sameDecls h) r₁,
        canonicalCycle_eq_iff (hring₁.of_sameDecls h) (hring₁'.of_sameDecls h)] at hxx'
      exact (canonicalCycle_eq_iff hring₁ hring₁').2 hxx'
    · rw [hmem₂, List.mem_map]
      constructor
      · rintro ⟨d, hd, ring, hchain, rfl⟩
        have hd₁ := hp.mem_iff.2 hd
        have hchain₁ : r₁.chainOf d = .cycle ring := (h.chainOf d).trans hchain
        refine ⟨r₁.canonicalCycle ring, (hmem₁ _).2 ⟨d, hd₁, ring, hchain₁, rfl⟩, ?_⟩
        exact canonicalCycle_canonicalCycle ((isRing_of_chainOf hd₁ hchain₁).of_sameDecls h) r₁
      · rintro ⟨x, hx, rfl⟩
        obtain ⟨ring, hring₁, rfl, d, hd, hchain⟩ := hring x hx
        refine ⟨d, hp.mem_iff.1 hd, ring, (h.chainOf d).symm.trans hchain, ?_⟩
        exact canonicalCycle_canonicalCycle (hring₁.of_sameDecls h) r₁
  rw [hperm.length_eq, List.length_map]

end Reorder

end Registry

end EntitySchema
