import EntitySchema.Proofs.MemberLayout

/-!
# What a resolved entity holds

The entity a resolved model holds for a declaration is read off three walks over the registry.

* Its ancestors are the declaration's base chain, the immediate base first and the root last,
  turned around: following base links up from the declaration names each base once, never the
  declaration itself, and each is a registered class.
* Its fields are the fields declared along that chain, root first, laid over one another: each
  name once, in the slot where it first occurs, as its most derived declaration gives it
  (`mergeOverrides`). Without shadowing no name occurs twice along a chain, so when no
  declaration repeats a field name the fields are the declared fields one after another, and
  the entity's own fields are its declaration's.
* Its dependencies are the targets of the declaration's hard edges, the base first and then the
  entities its fields hold by value in declared order, each once.
-/

namespace EntitySchema

open Relation

namespace Registry

variable {r : Registry}

/-! ### Base chains -/

/-- `chain` lists the bases met following base links up from `d`, the immediate base first, to
a declaration with no base. -/
inductive BaseChain (r : Registry) : EntityDecl → List String → Prop
  | root {d : EntityDecl} : d.base = none → BaseChain r d []
  | step {d p : EntityDecl} {chain : List String} : d.base = some p.name →
      r.lookup? p.name = some p → BaseChain r p chain → BaseChain r d (p.name :: chain)

theorem BaseChain.unique {d : EntityDecl} {chain₁ chain₂ : List String}
    (h₁ : BaseChain r d chain₁) (h₂ : BaseChain r d chain₂) : chain₁ = chain₂ := by
  induction h₁ generalizing chain₂ with
  | root hb =>
    cases h₂ with
    | root => rfl
    | step hb' => simp [hb] at hb'
  | step hb hp _ ih =>
    cases h₂ with
    | root hb' => simp [hb] at hb'
    | step hb' hp' hrest =>
      have hname := Option.some.inj (hb.symm.trans hb')
      rw [← hname, hp] at hp'
      cases hp'
      rw [ih hrest]

/-- A complete walk lists the names on the way after its first, then the base chain of the
declaration it is at, all turned around. -/
theorem baseChain_of_walkBases :
    ∀ (fuel : Nat) (way : List String) (current : EntityDecl) (anc : List String),
      r.walkBases fuel way current = .complete anc →
      ∃ path, anc = ((way ++ path).drop 1).reverse ∧ BaseChain r current path
  | 0, _, _, _, hw => by simp [walkBases] at hw
  | fuel + 1, way, current, anc, hw => by
    rcases walkBases_succ_cases hw with
      ⟨hb, hc⟩ | ⟨b, -, -, hc⟩ | ⟨b, pos, -, -, -, hc⟩ | ⟨b, -, -, -, -, hc⟩ |
        ⟨b, p, hb, -, -, hp, -, hc⟩
    · exact ⟨[], by simpa using hc, .root hb⟩
    · cases hc
    · cases hc
    · cases hc
    · obtain ⟨path, hanc, hpath⟩ := baseChain_of_walkBases fuel _ p anc hc.symm
      obtain rfl := lookup?_name hp
      exact ⟨p.name :: path, by simpa using hanc, .step hb hp hpath⟩

theorem baseChain_of_chainOf {d : EntityDecl} {anc : List String}
    (h : r.chainOf d = .complete anc) : BaseChain r d anc.reverse := by
  obtain ⟨path, hanc, hpath⟩ := baseChain_of_walkBases _ _ _ anc h
  rw [hanc, List.singleton_append, List.drop_one, List.tail_cons, List.reverse_reverse]
  exact hpath

/-! ### Fields laid over one another -/

/-- The fields a declaration declares, in declared order, each marked with the declaration. -/
def declaredFields (o : EntityDecl) : List ResolvedField :=
  o.fields.map fun f => ⟨f.name, f.type, f.default, o.name⟩

/-- One field laid over a layout: into the slot of the field of its name, or at the end. -/
def overlay (acc : List ResolvedField) (x : ResolvedField) : List ResolvedField :=
  if acc.any (·.name == x.name) then acc.map fun y => if y.name == x.name then x else y
  else acc ++ [x]

/-- Fields laid over one another: each name once, in the slot where it first occurs, as it
occurs last. -/
def mergeOverrides (xs : List ResolvedField) : List ResolvedField :=
  (xs.map (·.name)).eraseDups.filterMap fun n => xs.reverse.find? (·.name == n)

example : (mergeOverrides
    [⟨"id", .primitive .u32, none, "Base"⟩, ⟨"x", .primitive .boolean, none, "Derived"⟩,
      ⟨"id", .primitive .string, none, "Derived"⟩]).map (fun x => (x.name, x.declaredIn)) =
    [("id", "Derived"), ("x", "Derived")] := by
  decide

theorem flattenFields_eq_foldl_overlay (owners : List EntityDecl) :
    flattenFields owners = (owners.flatMap declaredFields).foldl overlay [] := by
  rw [flattenFields_eq, List.foldl_flatMap]
  congr
  funext acc o
  rw [declaredFields, List.foldl_map]
  rfl

theorem find?_reverse_of_mem {xs : List ResolvedField} {n : String} (hn : n ∈ xs.map (·.name)) :
    ∃ y, xs.reverse.find? (·.name == n) = some y ∧ y.name = n := by
  obtain ⟨x, hx, hxn⟩ := List.mem_map.1 hn
  have hsome : (xs.reverse.find? (·.name == n)).isSome :=
    List.find?_isSome.2 ⟨x, List.mem_reverse.2 hx, by simp [hxn]⟩
  obtain ⟨y, hy⟩ := Option.isSome_iff_exists.1 hsome
  exact ⟨y, hy, by simpa using List.find?_some hy⟩

theorem names_mergeOverrides (xs : List ResolvedField) :
    (mergeOverrides xs).map (·.name) = (xs.map (·.name)).eraseDups := by
  have hname : ∀ n ∈ (xs.map (·.name)).eraseDups,
      (xs.reverse.find? (·.name == n)).map (·.name) = some n := by
    intro n hn
    obtain ⟨y, hy, hyn⟩ := find?_reverse_of_mem (List.mem_eraseDups.1 hn)
    simp [hy, hyn]
  rw [mergeOverrides, List.map_filterMap, List.filterMap_congr hname, List.filterMap_some]

theorem any_name_mergeOverrides (xs : List ResolvedField) (n : String) :
    (mergeOverrides xs).any (·.name == n) = decide (n ∈ xs.map (·.name)) := by
  have hmem : n ∈ (mergeOverrides xs).map (·.name) ↔ n ∈ xs.map (·.name) := by
    rw [names_mergeOverrides, List.mem_eraseDups]
  rw [Bool.eq_iff_iff, List.any_eq_true, decide_eq_true_iff, ← hmem, List.mem_map]
  simp

theorem overlay_mergeOverrides (xs : List ResolvedField) (x : ResolvedField) :
    overlay (mergeOverrides xs) x = mergeOverrides (xs ++ [x]) := by
  have hfind : ∀ n, (xs ++ [x]).reverse.find? (·.name == n) =
      if x.name = n then some x else xs.reverse.find? (·.name == n) := by
    intro n
    rw [List.reverse_append, List.reverse_singleton, List.singleton_append, List.find?_cons]
    cases hb : x.name == n
    · have hne : x.name ≠ n := by simpa using hb
      simp [hne]
    · have heq : x.name = n := by simpa using hb
      simp [heq]
  unfold mergeOverrides
  rw [List.map_append, List.map_singleton, List.eraseDups_append, List.filterMap_congr
    fun n _ => hfind n]
  unfold overlay
  rw [← mergeOverrides, any_name_mergeOverrides]
  by_cases hx : x.name ∈ xs.map (·.name)
  · have hnone : [x.name].removeAll (xs.map (·.name)) = [] := by
      simpa [List.removeAll] using List.mem_map.1 hx
    rw [hnone, decide_eq_true hx, if_pos rfl, List.eraseDups_nil, List.append_nil, mergeOverrides,
      List.map_filterMap]
    refine List.filterMap_congr fun n hn => ?_
    obtain ⟨y, hy, rfl⟩ := find?_reverse_of_mem (List.mem_eraseDups.1 hn)
    rw [hy]
    by_cases hyx : y.name = x.name
    · simp [hyx]
    · simp [hyx, Ne.symm hyx]
  · have hone : [x.name].removeAll (xs.map (·.name)) = [x.name] := by
      simpa [List.removeAll] using fun y hy hyx => hx (List.mem_map.2 ⟨y, hy, hyx⟩)
    rw [hone, decide_eq_false hx, if_neg Bool.false_ne_true, List.filterMap_append, mergeOverrides]
    congr 1
    · refine List.filterMap_congr fun n hn => ?_
      have hne : x.name ≠ n := fun h => hx (h ▸ List.mem_eraseDups.1 hn)
      simp [hne]
    · simp [List.eraseDups_cons]

theorem foldl_overlay_mergeOverrides :
    ∀ (xs ys : List ResolvedField), xs.foldl overlay (mergeOverrides ys) = mergeOverrides (ys ++ xs)
  | [], ys => by simp
  | x :: xs, ys => by
    rw [List.foldl_cons, overlay_mergeOverrides, foldl_overlay_mergeOverrides xs,
      List.append_assoc, List.singleton_append]

/-- Flattening lays the fields declared along the owners over one another. -/
theorem flattenFields_eq_mergeOverrides (owners : List EntityDecl) :
    flattenFields owners = mergeOverrides (owners.flatMap declaredFields) := by
  have h := foldl_overlay_mergeOverrides (owners.flatMap declaredFields) []
  rwa [List.nil_append, show mergeOverrides [] = [] from rfl, ← flattenFields_eq_foldl_overlay] at h

theorem overlay_of_not_mem {acc : List ResolvedField} {x : ResolvedField}
    (hx : x.name ∉ acc.map (·.name)) : overlay acc x = acc ++ [x] := by
  have hany : acc.any (·.name == x.name) = false := by
    simpa using fun y hy hyx => hx (List.mem_map.2 ⟨y, hy, hyx⟩)
  simp [overlay, hany]

theorem foldl_overlay_of_nodup :
    ∀ (xs acc : List ResolvedField), ((acc ++ xs).map (·.name)).Nodup →
      xs.foldl overlay acc = acc ++ xs
  | [], acc, _ => by simp
  | x :: xs, acc, h => by
    have hx : x.name ∉ acc.map (·.name) := by
      simp only [List.map_append, List.map_cons, List.nodup_append, List.mem_cons] at h
      exact fun hmem => h.2.2 _ hmem _ (.inl rfl) rfl
    rw [List.foldl_cons, overlay_of_not_mem hx,
      foldl_overlay_of_nodup xs (acc ++ [x]) (by simpa using h), List.append_assoc,
      List.singleton_append]

theorem flattenFields_single_of_nodup {o : EntityDecl} (h : (o.fields.map (·.name)).Nodup) :
    flattenFields [o] = declaredFields o := by
  rw [flattenFields_eq_foldl_overlay, List.flatMap_singleton]
  exact foldl_overlay_of_nodup _ [] (by simpa [declaredFields, Function.comp_def] using h)

/-! ### Dependencies -/

variable {d : EntityDecl}

theorem dependencies_build (hr : r.Frozen) (hd : d ∈ r.decls) :
    (DependencyGraph.build r).dependencies d.name = ((r.edgesOf d).map (·.target)).eraseDups := by
  rw [DependencyGraph.dependencies, DependencyGraph.build_edges, hr.lookup?_self hd]
  rfl

theorem mem_dependencies_build (hr : r.Frozen) (hd : d ∈ r.decls) (b : String) :
    b ∈ (DependencyGraph.build r).dependencies d.name ↔ r.HardEdge d.name b := by
  rw [dependencies_build hr hd, List.mem_eraseDups, hr.hardEdge_iff hd, List.mem_map]

/-! ### The entity of a declaration -/

/-- What the entity `e` resolved from the declaration `d` holds: its ancestors are `d`'s base
chain turned around, distinct registered classes other than `d`; its fields are the fields
declared along the chain laid over one another, and without shadowing, where no declaration
repeats a field name, simply one after another with `d`'s own last; its dependencies are the
targets of `d`'s hard edges, each once. -/
structure MaterializedAs (r : Registry) (o : ResolveOptions) (d : EntityDecl) (e : ResolvedEntity) :
    Prop where
  baseChain : BaseChain r d e.ancestors.reverse
  ancestors_classes : ∀ a ∈ e.ancestors, ∃ t, r.lookup? a = some t ∧ t.isEnum = false
  ancestors_nodup : e.ancestors.Nodup
  not_mem_ancestors : d.name ∉ e.ancestors
  fields : e.fields = mergeOverrides ((e.ancestors.filterMap r.lookup? ++ [d]).flatMap declaredFields)
  fields_of_distinct : o.allowShadowing = false → (∀ p ∈ r.decls, (p.fields.map (·.name)).Nodup) →
    e.fields = (e.ancestors.filterMap r.lookup? ++ [d]).flatMap declaredFields ∧
      e.ownFields = declaredFields d
  dependencies : e.dependencies = ((r.edgesOf d).map (·.target)).eraseDups
  mem_dependencies : ∀ b, b ∈ e.dependencies ↔ r.HardEdge d.name b
  dependencies_nodup : e.dependencies.Nodup

variable {o : ResolveOptions} {m : Model}

theorem exists_get?_materialize (hr : r.Frozen) (h : r.resolve o = .ok m) (hd : d ∈ r.decls) :
    ∃ e anc, m.get? d.name = some e ∧ r.chainOf d = .complete anc ∧
      { e with rank := 0 } = r.materialize d anc 0 (DependencyGraph.build r) := by
  obtain ⟨anc, hc⟩ := (wellFormed_of_resolve_ok hr h).chainOf_complete hr hd
  have hget := get?_of_resolve_ok hr h d.name
  rw [hr.lookup?_self hd, Option.map_some, chains_lookup_of_complete hr hd hc] at hget
  obtain ⟨e, he, heq⟩ := Option.map_eq_some_iff.1 hget
  exact ⟨e, anc, he, hc, heq⟩

theorem materializedAs_materialize (hr : r.Frozen) (hw : r.WellFormed o) (hd : d ∈ r.decls)
    {anc : List String} (hc : r.chainOf d = .complete anc) (rank : Nat) :
    r.MaterializedAs o d (r.materialize d anc rank (DependencyGraph.build r)) where
  baseChain := baseChain_of_chainOf hc
  ancestors_classes a ha := lookup?_of_transGen_extends hw ((mem_ancestors_iff hr hd hc a).1 ha)
  ancestors_nodup := nodup_of_chainOf hd hc
  not_mem_ancestors := hw.name_not_mem_ancestors hr hd hc
  fields := flattenFields_eq_mergeOverrides _
  fields_of_distinct hshadow hdistinct := by
    obtain ⟨hfields, hown⟩ := materialize_layout hr hw hshadow hd hc rank (DependencyGraph.build r)
    have hsingle : ∀ p ∈ anc.filterMap r.lookup? ++ [d], flattenFields [p] = declaredFields p := by
      intro p hp
      rcases List.mem_append.1 hp with hp | hp
      · obtain ⟨a, -, hpa⟩ := List.mem_filterMap.1 hp
        exact flattenFields_single_of_nodup (hdistinct p (lookup?_mem hpa))
      · rw [List.mem_singleton.1 hp]
        exact flattenFields_single_of_nodup (hdistinct d hd)
    refine ⟨?_, ?_⟩
    · rw [hfields, ← List.flatMap_singleton (f := fun o => flattenFields [o]) d,
        ← List.flatMap_append]
      exact List.flatMap_congr hsingle
    · rw [hown]
      exact hsingle d (List.mem_append_right _ (List.mem_singleton_self d))
  dependencies := dependencies_build hr hd
  mem_dependencies := mem_dependencies_build hr hd
  dependencies_nodup := List.nodup_eraseDups _

/-- Every declaration of a frozen registry that resolves has its entity in the model, holding
the declaration's base chain, its fields laid over those of its ancestors, and its hard
dependencies. -/
theorem resolve_materializedAs (hr : r.Frozen) (h : r.resolve o = .ok m) (hd : d ∈ r.decls) :
    ∃ e, m.get? d.name = some e ∧ r.MaterializedAs o d e := by
  obtain ⟨e, anc, he, hc, heq⟩ := exists_get?_materialize hr h hd
  have hmat := materializedAs_materialize hr (wellFormed_of_resolve_ok hr h) hd hc 0
  rw [← heq] at hmat
  exact ⟨e, he, { hmat with }⟩

/-- `Derived` redeclares `id` with shadowing allowed: its entity takes the derived `id` in the
slot of the base's. -/
theorem shadowedId_materializedAs :
    ∃ m, shadowedId.resolve { allowShadowing := true } = .ok m ∧
      ∀ d ∈ shadowedId.decls, ∃ e, m.get? d.name = some e ∧
        shadowedId.MaterializedAs { allowShadowing := true } d e := by
  obtain ⟨m, hm⟩ : ∃ m, shadowedId.resolve { allowShadowing := true } = .ok m := ⟨_, rfl⟩
  exact ⟨m, hm, fun d hd => resolve_materializedAs (by decide) hm hd⟩

end Registry

end EntitySchema
