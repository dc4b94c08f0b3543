import EntitySchema.Proofs.Kahn
import EntitySchema.Proofs.WellFormed

/-! # The emission order

A resolved model lists its entities in the order `topologicalOrder` places the registered names,
each with its place as its rank. For a frozen registry that order puts every name after each
name it depends on hard (`topologicalOrder_hardEdgesFirst`); without a cycle of hard edges it
holds every registered name once (`topologicalOrder_perm`); and compared by registration
position it is the least of all the orders that do both (`topologicalOrder_le`).
-/

theorem List.getElem?_filterMap_of_isSome {α β : Type} {f : α → Option β} :
    ∀ {l : List α}, (∀ x ∈ l, (f x).isSome) → ∀ k : Nat, (l.filterMap f)[k]? = l[k]?.bind f
  | [], _, _ => rfl
  | x :: l, h, k => by
    obtain ⟨y, hy⟩ := Option.isSome_iff_exists.1 (h x List.mem_cons_self)
    have ih := List.getElem?_filterMap_of_isSome (fun z hz => h z (List.mem_cons_of_mem x hz))
    cases k with
    | zero => simp [hy]
    | succ k => simp [hy, ih]

namespace EntitySchema

open Relation

namespace Registry

variable {r : Registry}

/-- An order of names in which every name comes after each name it depends on hard. -/
def HardEdgesFirst (r : Registry) (order : List String) : Prop :=
  ∀ k a, order[k]? = some a → ∀ b, r.HardEdge a b → b ∈ order.take k

theorem HardEdgesFirst.transGen {order : List String} (h : r.HardEdgesFirst order) {k : Nat}
    {a b : String} (hk : order[k]? = some a) (hab : TransGen r.HardEdge a b) :
    b ∈ order.take k := by
  induction hab with
  | single hab => exact h k a hk _ hab
  | tail _ hbc ih =>
    obtain ⟨j, hj, hjb⟩ := List.mem_take_iff_getElem.1 ih
    have hjk : j < k := by omega
    have hget : order[j]? = some _ := List.getElem?_eq_some_iff.2 ⟨by omega, hjb⟩
    exact List.take_subset_take_left order hjk.le (h j _ hget _ hbc)

theorem WellFormed.baseEdge_of_extends {o : ResolveOptions} (hwf : r.WellFormed o) {a b : String}
    (h : r.Extends a b) : r.BaseEdge a b := by
  obtain ⟨d, hd, rfl, hbase, -⟩ := h
  obtain ⟨hne, t, ht, henum⟩ := hwf.base_resolves d hd b hbase
  exact ⟨d, hd, rfl, hbase, hne, t, ht, henum⟩

theorem WellFormed.transGen_hardEdge_of_extends {o : ResolveOptions} (hwf : r.WellFormed o)
    {a b : String} (h : TransGen r.Extends a b) : TransGen r.HardEdge a b :=
  TransGen.mono (fun _ _ hab => .inl (hwf.baseEdge_of_extends hab)) _ _ h

end Registry

namespace DependencyGraph

/-- The positions a node depends on, one per dependency. -/
def depPositions (g : DependencyGraph) (i : Nat) : List Nat :=
  (g.dependencies (g.nameAt i)).map g.indexOf

theorem dependsOn_depPositions {g : DependencyGraph} {i j : Nat} :
    DependsOn g.depPositions i j ↔ g.Adj i j := by
  simp [DependsOn, depPositions, dependencies, Adj, successors, List.mem_eraseDups]

variable {r : Registry}

theorem indexOf_build (n : String) : (build r).indexOf n = r.names.idxOf n := by
  simp [indexOf]

theorem mem_dependencies_iff (hr : r.Frozen) {d : EntityDecl} (hd : d ∈ r.decls) {b : String} :
    b ∈ (build r).dependencies d.name ↔ r.HardEdge d.name b := by
  rw [hr.hardEdge_iff hd]
  simp [dependencies, build_edges, hr.lookup?_self hd, List.mem_eraseDups]

theorem mem_names_of_mem_dependencies {n a : String} (h : a ∈ (build r).dependencies n) :
    a ∈ r.names := by
  simp only [dependencies, build_edges, List.mem_eraseDups, List.mem_map] at h
  obtain ⟨e, he, rfl⟩ := h
  cases hl : r.lookup? n with
  | none => simp [hl] at he
  | some d =>
    rw [hl, Option.map_some, Option.getD_some] at he
    exact Registry.target_mem_names he

theorem depIndices_build (r : Registry) : (build r).depIndices = (build r).depPositions := by
  funext i
  unfold depIndices depPositions
  rw [← List.filterMap_eq_map]
  refine List.filterMap_congr fun a ha => ?_
  have hmem : a ∈ r.names := mem_names_of_mem_dependencies ha
  simp [indexOf, List.idxOf?_eq_some_idxOf hmem]

theorem topologicalOrder_eq (r : Registry) :
    (build r).topologicalOrder =
      (placeReady (build r).size (build r).depPositions (build r).size []).map (build r).nameAt := by
  rw [topologicalOrder_eq_placeReady, depIndices_build]

theorem map_nameAt_range : (List.range r.size).map (build r).nameAt = r.names := by
  apply List.ext_getElem?
  intro i
  have hlen : r.names.length = r.size := by simp [Registry.names, Registry.size]
  by_cases hi : i < r.size
  · simp [hi, nameAt, List.getElem?_eq_getElem (hlen ▸ hi)]
  · simp [hi, List.getElem?_eq_none (by omega : r.names.length ≤ i)]

/-! ## The positions placed -/

/-- The positions of the emission order, before they are turned into names. -/
abbrev placed (r : Registry) : List Nat :=
  placeReady (build r).size (build r).depPositions (build r).size []

theorem placement_placed : Placement (build r).size (build r).depPositions (placed r) :=
  Placement.nil.placeReady _

theorem mem_placed_lt {i : Nat} (hi : i ∈ placed r) : i < r.size := by
  simpa using placement_placed.lt i hi

theorem depPositions_lt (hr : r.Frozen) :
    ∀ i < (build r).size, ∀ j ∈ (build r).depPositions i, j < (build r).size := by
  intro i hi j hj
  simpa using ((adj_iff hr (by simpa using hi)).1 (dependsOn_depPositions.1 hj)).1

theorem placed_perm_range (hr : r.Frozen) (hacyc : ∀ n, ¬ TransGen r.HardEdge n n) :
    (placed r).Perm (List.range r.size) := by
  have hno : ∀ i < (build r).size, ¬ TransGen (DependsOn (build r).depPositions) i i := by
    intro i hi hcyc
    have hadj := TransGen.mono (fun _ _ => dependsOn_depPositions.1) _ _ hcyc
    exact hacyc _ (transGen_hardEdge hr (by simpa using hi) hadj)
  have hall := mem_placeReady (depPositions_lt hr) hno (build r).size Placement.nil (by simp)
  refine (List.perm_ext_iff_of_nodup placement_placed.nodup List.nodup_range).2 fun i => ?_
  constructor
  · exact fun hi => List.mem_range.2 (mem_placed_lt hi)
  · exact fun hi => hall i (by simpa using List.mem_range.1 hi)

/-! ## The emission order of names -/

theorem mem_topologicalOrder {a : String} (ha : a ∈ (build r).topologicalOrder) :
    a ∈ r.names := by
  rw [topologicalOrder_eq, List.mem_map] at ha
  obtain ⟨i, hi, rfl⟩ := ha
  exact nameAt_mem (mem_placed_lt hi)

/-- For a frozen registry, the emission order puts every name after its hard dependencies. -/
theorem topologicalOrder_hardEdgesFirst (hr : r.Frozen) :
    r.HardEdgesFirst (build r).topologicalOrder := by
  intro k a hk b hab
  rw [topologicalOrder_eq, List.getElem?_map, Option.map_eq_some_iff] at hk
  obtain ⟨i, hik, rfl⟩ := hk
  have hi : i < r.size := mem_placed_lt (List.mem_of_getElem? hik)
  have hb : b ∈ r.names := hab.mem_names.2
  have hadj : (build r).Adj i ((build r).indexOf b) := by
    rw [adj_iff hr hi, nameAt_indexOf hb]
    exact ⟨indexOf_lt hb, hab⟩
  have hbefore := placement_placed.depsFirst k i hik _ (dependsOn_depPositions.2 hadj)
  rw [topologicalOrder_eq, ← List.map_take, ← nameAt_indexOf hb]
  exact List.mem_map_of_mem hbefore

/-- Without a cycle of hard edges the emission order holds every registered name once. -/
theorem topologicalOrder_perm (hr : r.Frozen) (hacyc : ∀ n, ¬ TransGen r.HardEdge n n) :
    (build r).topologicalOrder.Perm r.names := by
  rw [topologicalOrder_eq, ← map_nameAt_range]
  exact ((placed_perm_range hr hacyc).map _)

theorem map_idxOf_topologicalOrder (hr : r.Frozen) :
    (build r).topologicalOrder.map r.names.idxOf = placed r := by
  rw [topologicalOrder_eq, List.map_map]
  refine (List.map_congr_left fun i hi => ?_).trans (List.map_id _)
  simpa [indexOf_build] using indexOf_nameAt hr (mem_placed_lt hi)

/-! ## Orders of names read as registration positions -/

theorem nameAt_idxOf {a : String} (ha : a ∈ r.names) : (build r).nameAt (r.names.idxOf a) = a := by
  simpa [indexOf_build] using nameAt_indexOf ha

theorem nodup_map_idxOf {order : List String} (hreg : ∀ a ∈ order, a ∈ r.names)
    (hnodup : order.Nodup) : (order.map r.names.idxOf).Nodup := by
  refine List.Nodup.map_on (fun a ha b hb hab => ?_) hnodup
  rw [← nameAt_idxOf (hreg a ha), hab, nameAt_idxOf (hreg b hb)]

/-- Read as registration positions, an order of names holding exactly the registered names with
some property holds exactly the positions whose names have it. -/
theorem mem_map_idxOf_iff (hr : r.Frozen) {order : List String} {P : String → Prop}
    (hmem : ∀ a, a ∈ order ↔ a ∈ r.names ∧ P a) {i : Nat} :
    i ∈ order.map r.names.idxOf ↔ i < r.size ∧ P ((build r).nameAt i) := by
  constructor
  · intro hi
    obtain ⟨a, ha, rfl⟩ := List.mem_map.1 hi
    obtain ⟨hreg, hp⟩ := (hmem a).1 ha
    refine ⟨by simpa [indexOf_build] using indexOf_lt hreg, ?_⟩
    rw [nameAt_idxOf hreg]
    exact hp
  · rintro ⟨hi, hp⟩
    refine List.mem_map.2 ⟨_, (hmem _).2 ⟨nameAt_mem hi, hp⟩, ?_⟩
    simpa [indexOf_build] using indexOf_nameAt hr hi

/-- Read as registration positions, an order of registered names that puts every name after its
hard dependencies puts every position after its dependencies. -/
theorem depsFirst_map_idxOf (hr : r.Frozen) {order : List String}
    (hreg : ∀ a ∈ order, a ∈ r.names) (hfirst : r.HardEdgesFirst order) :
    DepsFirst (build r).depPositions (order.map r.names.idxOf) := by
  intro k i hk j hj
  rw [List.getElem?_map, Option.map_eq_some_iff] at hk
  obtain ⟨a, hak, rfl⟩ := hk
  have ha := hreg a (List.mem_of_getElem? hak)
  have hi : r.names.idxOf a < r.size := by simpa [indexOf_build] using indexOf_lt ha
  obtain ⟨hj', hedge⟩ := (adj_iff hr hi).1 (dependsOn_depPositions.1 hj)
  rw [nameAt_idxOf ha] at hedge
  have hbefore := hfirst k a hak _ hedge
  rw [← List.map_take]
  refine List.mem_map.2 ⟨_, hbefore, ?_⟩
  simpa [indexOf_build] using indexOf_nameAt hr hj'

/-- Compared by registration position, the emission order is the least of the orders of the
registered names that put every name after its hard dependencies. -/
theorem topologicalOrder_le (hr : r.Frozen) {order : List String} (hperm : order.Perm r.names)
    (hfirst : r.HardEdgesFirst order) :
    (build r).topologicalOrder.map r.names.idxOf ≤ order.map r.names.idxOf := by
  have hmem : ∀ a, a ∈ order ↔ a ∈ r.names ∧ True := fun a => by
    rw [and_true]
    exact hperm.mem_iff
  have hreg : ∀ a ∈ order, a ∈ r.names := fun a ha => hperm.mem_iff.1 ha
  rw [map_idxOf_topologicalOrder hr]
  refine placeReady_le _ (nodup_map_idxOf hreg (hperm.nodup_iff.2 hr)) (fun i => ?_)
    (depsFirst_map_idxOf hr hreg hfirst)
  rw [mem_map_idxOf_iff hr hmem, and_true, build_size]

end DependencyGraph

namespace Registry

open DependencyGraph

variable {r : Registry} {o : ResolveOptions} {m : Model}

theorem foldl_checkDecl_chains (ds : List EntityDecl) (p : ResolvePass) :
    (ds.foldl (r.checkDecl o) p).chains = p.chains ++ ds.flatMap r.completeChains := by
  induction ds generalizing p with
  | nil => simp
  | cons d ds ih => simp [ih, checkDecl_chains]

theorem transGen_extends_of_mem_chains (hr : r.Frozen) {a n : String}
    (h : n ∈ (((r.decls.foldl (r.checkDecl o) {}).chains.lookup a).getD [])) :
    TransGen r.Extends a n := by
  simp only [foldl_checkDecl_chains, List.nil_append] at h
  cases hl : (r.decls.flatMap r.completeChains).lookup a with
  | none => simp [hl] at h
  | some anc =>
    rw [hl, Option.getD_some] at h
    obtain ⟨l₁, l₂, hsplit, -⟩ := List.lookup_eq_some_iff.1 hl
    have hmem : (a, anc) ∈ r.decls.flatMap r.completeChains := by
      rw [hsplit]
      exact List.mem_append_right _ List.mem_cons_self
    obtain ⟨d, hd, hc⟩ := List.mem_flatMap.1 hmem
    unfold completeChains at hc
    split at hc
    · rename_i anc' hchain
      obtain ⟨rfl, rfl⟩ : d.name = a ∧ anc' = anc := by simpa [eq_comm] using hc
      exact (mem_ancestors_iff hr hd hchain n).1 h
    · simp at hc

theorem wellFormed_of_resolve_ok (hr : r.Frozen) (h : r.resolve o = .ok m) : r.WellFormed o :=
  (wellFormed_iff_resolve_ok hr).2 ⟨m, h⟩

/-- The entities of a resolved model: one per name of the emission order, ranked by place. -/
theorem entities_of_resolve_ok (h : r.resolve o = .ok m) :
    m.entities = (build r).topologicalOrder.zipIdx.filterMap fun (name, rank) =>
      (r.lookup? name).map fun d =>
        r.materialize d (((r.decls.foldl (r.checkDecl o) {}).chains.lookup name).getD []) rank
          (build r) := by
  unfold resolve at h
  simp only at h
  split at h
  · cases h
  · cases h
    rfl

/-- The entity at each place of a resolved model is the materialized declaration whose name
stands there in the emission order. -/
theorem getElem?_entities (h : r.resolve o = .ok m) (k : Nat) :
    m.entities[k]? = ((build r).topologicalOrder[k]?).bind fun name =>
      (r.lookup? name).map fun d =>
        r.materialize d (((r.decls.foldl (r.checkDecl o) {}).chains.lookup name).getD []) k
          (build r) := by
  rw [entities_of_resolve_ok h, List.getElem?_filterMap_of_isSome, List.getElem?_zipIdx]
  · cases (build r).topologicalOrder[k]? <;> simp
  · rintro ⟨name, rank⟩ hmem
    have hname : name ∈ (build r).topologicalOrder := List.fst_mem_of_mem_zipIdx hmem
    obtain ⟨d, hd⟩ := exists_lookup? (mem_topologicalOrder hname)
    simp [hd]

theorem entity_of_getElem? (h : r.resolve o = .ok m) {k : Nat}
    {e : ResolvedEntity} (he : m.entities[k]? = some e) :
    ∃ d ∈ r.decls, (build r).topologicalOrder[k]? = some d.name ∧
      e = r.materialize d (((r.decls.foldl (r.checkDecl o) {}).chains.lookup d.name).getD []) k
        (build r) := by
  rw [getElem?_entities h, Option.bind_eq_some_iff] at he
  obtain ⟨name, hname, he⟩ := he
  obtain ⟨d, hd, rfl⟩ := Option.map_eq_some_iff.1 he
  obtain rfl := lookup?_name hd
  exact ⟨d, lookup?_mem hd, hname, rfl⟩

theorem emissionOrder_of_resolve_ok (h : r.resolve o = .ok m) :
    m.emissionOrder = (build r).topologicalOrder := by
  apply List.ext_getElem?
  intro k
  rw [Model.emissionOrder, List.getElem?_map, getElem?_entities h]
  cases hk : (build r).topologicalOrder[k]? with
  | none => simp
  | some name =>
    obtain ⟨d, hd⟩ := exists_lookup? (mem_topologicalOrder (List.mem_of_getElem? hk))
    simp [hd, materialize, lookup?_name hd]

/-- A frozen registry that resolves lists every registered name once, each entity ranked by its
place; each entity comes after the names it depends on hard (its base and every entity it holds
by value) and after its ancestors; and, compared by registration position, the emission order is
the least of the orders of the registered names that put dependencies first. -/
theorem resolve_emissionOrder (o : ResolveOptions) (r : Registry) (hr : r.Frozen) (m : Model)
    (h : r.resolve o = .ok m) :
    m.emissionOrder.Perm r.names ∧
      (∀ (k : Nat) (e : ResolvedEntity), m.entities[k]? = some e → e.rank = k) ∧
      (∀ (k : Nat) (e : ResolvedEntity), m.entities[k]? = some e →
        (∀ n, n ∈ e.dependencies ↔ r.HardEdge e.name n) ∧
          ∀ n ∈ e.dependencies ++ e.ancestors, n ∈ m.emissionOrder.take k) ∧
      ∀ order : List String, order.Perm r.names → r.HardEdgesFirst order →
        m.emissionOrder.map r.names.idxOf ≤ order.map r.names.idxOf := by
  have hwf := wellFormed_of_resolve_ok hr h
  have horder := emissionOrder_of_resolve_ok h
  refine ⟨horder ▸ topologicalOrder_perm hr hwf.acyclic, fun k e he => ?_, fun k e he => ?_,
    fun order hperm hfirst => horder ▸ topologicalOrder_le hr hperm hfirst⟩
  · obtain ⟨d, -, -, rfl⟩ := entity_of_getElem? h he
    rfl
  · obtain ⟨d, hd, hk, rfl⟩ := entity_of_getElem? h he
    have hdeps : ∀ n, n ∈ (build r).dependencies d.name ↔ r.HardEdge d.name n :=
      fun n => mem_dependencies_iff hr hd
    refine ⟨hdeps, fun n hn => ?_⟩
    rw [horder]
    rcases List.mem_append.1 hn with hn | hn
    · exact topologicalOrder_hardEdgesFirst hr k _ hk n ((hdeps n).1 hn)
    · have hext := transGen_extends_of_mem_chains hr hn
      exact (topologicalOrder_hardEdgesFirst hr).transGen hk
        (hwf.transGen_hardEdge_of_extends hext)

/-- `C` extends `B`, which extends `A`, registered as `C`, `A`, `B`: the model lists `A`, `B`,
`C`. -/
theorem chainOfThree_emissionOrder :
    chainOfThree.Frozen ∧ ∃ m, chainOfThree.resolve {} = .ok m ∧ m.emissionOrder = ["A", "B", "C"] ∧
      m.emissionOrder.Perm chainOfThree.names ∧
      (∀ (k : Nat) (e : ResolvedEntity), m.entities[k]? = some e → e.rank = k) ∧
      (∀ (k : Nat) (e : ResolvedEntity), m.entities[k]? = some e →
        (∀ n, n ∈ e.dependencies ↔ chainOfThree.HardEdge e.name n) ∧
          ∀ n ∈ e.dependencies ++ e.ancestors, n ∈ m.emissionOrder.take k) ∧
      ∀ order : List String, order.Perm chainOfThree.names → chainOfThree.HardEdgesFirst order →
        m.emissionOrder.map chainOfThree.names.idxOf ≤ order.map chainOfThree.names.idxOf := by
  have hfrozen : chainOfThree.Frozen := by decide
  obtain ⟨m, hm⟩ : ∃ m, chainOfThree.resolve {} = .ok m := ⟨_, rfl⟩
  refine ⟨hfrozen, m, hm, ?_, resolve_emissionOrder {} chainOfThree hfrozen m hm⟩
  rw [emissionOrder_of_resolve_ok hm]
  decide

end Registry

end EntitySchema
