import Mathlib.Data.Finset.Card
import EntitySchema.Proofs.SameDecls
import EntitySchema.Proofs.ValueCycles

/-! # How many value cycles

`valueCycles` reports one error per component of the dependency graph with a field edge inside
(`length_valueCycles`). Components are lists of positions, so they depend on the registration
order; their sets of names do not. A component's names are the names linked with any one of
them (`mem_componentNames_classOf`), linked meaning that hard edges lead from each to the other,
and different components have different names. So the value cycles of a frozen registry are
counted by sets of names described through hard edges alone (`mem_valueCycleNames`), and two
frozen registries with the same declarations report as many (`length_valueCycles_eq`).
-/

namespace EntitySchema

open Relation

namespace Registry

/-- Two names are linked when they are one name or hard edges lead from each to the other. -/
def NameLinked (r : Registry) (a b : String) : Prop :=
  a = b ∨ (TransGen r.HardEdge a b ∧ TransGen r.HardEdge b a)

end Registry

namespace DependencyGraph

variable {r : Registry}

def componentNames (g : DependencyGraph) (c : List Nat) : Finset String := (c.map g.nameAt).toFinset

/-- Whether a component has a field edge inside, as `valueCycles` finds it. -/
def hasEntryEdge (g : DependencyGraph) (c : List Nat) : Bool := (g.entryEdge (c.map g.nameAt)).isSome

theorem length_valueCycles (hr : r.Frozen) :
    (build r).valueCycles.length = ((build r).components.filter (build r).hasEntryEdge).length := by
  rw [valueCycles, List.length_filterMap_eq_countP, List.countP_eq_length_filter, List.filter_filter]
  congr 1
  refine List.filter_congr fun c hc => ?_
  cases hentry : (build r).hasEntryEdge c
  · simp [hasEntryEdge] at hentry
    simp [hentry]
  · obtain ⟨i, hi, j, hj, hv⟩ := (entryEdge_isSome_iff hr (mem_components_lt hc)).1 hentry
    simp [hasEntryEdge] at hentry
    simp [hentry, isCyclic_of_holdsByValue hr hc hi hj hv]

/-! ## Components as sets of names -/

theorem nameAt_inj (hr : r.Frozen) {i j : Nat} (hi : i < r.size) (hj : j < r.size)
    (h : (build r).nameAt i = (build r).nameAt j) : i = j := by
  rw [← indexOf_nameAt hr hi, h, indexOf_nameAt hr hj]

theorem linked_iff_nameLinked (hr : r.Frozen) {i j : Nat} (hi : i < r.size) (hj : j < r.size) :
    (build r).Linked i j ↔ r.NameLinked ((build r).nameAt i) ((build r).nameAt j) := by
  have hpath : ∀ {a b : Nat}, a < r.size → b < r.size →
      (TransGen (build r).Adj a b ↔ TransGen r.HardEdge ((build r).nameAt a) ((build r).nameAt b)) := by
    intro a b ha hb
    refine ⟨transGen_hardEdge hr ha, fun h => ?_⟩
    simpa [indexOf_nameAt hr ha, indexOf_nameAt hr hb] using transGen_adj hr h
  unfold Linked Registry.NameLinked
  rw [hpath hi hj, hpath hj hi]
  exact or_congr ⟨congrArg _, nameAt_inj hr hi hj⟩ Iff.rfl

theorem mem_componentNames_classOf (hr : r.Frozen) {k : Nat} (hk : k < r.size) (b : String) :
    b ∈ (build r).componentNames ((build r).classOf k) ↔
      b ∈ r.names ∧ r.NameLinked ((build r).nameAt k) b := by
  have hk' : k < (build r).size := by simpa using hk
  simp only [componentNames, List.mem_toFinset, List.mem_map]
  constructor
  · rintro ⟨j, hj, rfl⟩
    obtain ⟨hj, hlinked⟩ := (mem_classOf hk').1 hj
    have hj' : j < r.size := by simpa using hj
    exact ⟨nameAt_mem hj', (linked_iff_nameLinked hr hk hj').1 hlinked⟩
  · rintro ⟨hb, hlinked⟩
    have hidx := indexOf_lt hb
    refine ⟨(build r).indexOf b, (mem_classOf hk').2 ⟨by simpa using hidx, ?_⟩, nameAt_indexOf hb⟩
    rw [linked_iff_nameLinked hr hk hidx, nameAt_indexOf hb]
    exact hlinked

theorem classOf_mem_components {k : Nat} (hk : k < r.size) :
    (build r).classOf k ∈ (build r).components := by
  obtain ⟨c, hc, hkc⟩ := components_cover (g := build r) (by simpa using hk)
  rw [← eq_classOf_of_mem (build_closed r) hc hkc]
  exact hc

theorem componentNames_inj (hr : r.Frozen) {c₁ c₂ : List Nat} (hc₁ : c₁ ∈ (build r).components)
    (hc₂ : c₂ ∈ (build r).components)
    (h : (build r).componentNames c₁ = (build r).componentNames c₂) : c₁ = c₂ := by
  obtain ⟨k, hk, rfl⟩ := mem_components (build_closed r) hc₁
  have hk' : k < r.size := by simpa using hk
  have hname : (build r).nameAt k ∈ (build r).componentNames c₂ := by
    rw [← h, mem_componentNames_classOf hr hk']
    exact ⟨nameAt_mem hk', .inl rfl⟩
  simp only [componentNames, List.mem_toFinset, List.mem_map] at hname
  obtain ⟨j, hj, hjk⟩ := hname
  rw [← nameAt_inj hr (mem_components_lt hc₂ j hj) hk' hjk]
  exact (eq_classOf_of_mem (build_closed r) hc₂ hj).symm

/-- The sets of names of the components with a field edge inside. -/
def valueCycleNames (r : Registry) : Finset (Finset String) :=
  (((build r).components.filter (build r).hasEntryEdge).map (build r).componentNames).toFinset

theorem hasEntryEdge_iff (hr : r.Frozen) {c : List Nat} (hc : c ∈ (build r).components) :
    (build r).hasEntryEdge c = true ↔
      ∃ x ∈ (build r).componentNames c, ∃ y ∈ (build r).componentNames c, r.HoldsByValue x y := by
  rw [hasEntryEdge, entryEdge_isSome_iff hr (mem_components_lt hc)]
  simp [componentNames]

/-- A set of names counts a value cycle when it is the set of names linked with one registered
name and a field inside it holds one of them by value. -/
theorem mem_valueCycleNames (hr : r.Frozen) (S : Finset String) :
    S ∈ valueCycleNames r ↔
      ∃ a ∈ r.names, (∀ b, b ∈ S ↔ b ∈ r.names ∧ r.NameLinked a b) ∧
        ∃ x ∈ S, ∃ y ∈ S, r.HoldsByValue x y := by
  simp only [valueCycleNames, List.mem_toFinset, List.mem_map, List.mem_filter]
  constructor
  · rintro ⟨c, ⟨hc, hentry⟩, rfl⟩
    obtain ⟨k, hk, rfl⟩ := mem_components (build_closed r) hc
    have hk' : k < r.size := by simpa using hk
    exact ⟨_, nameAt_mem hk', mem_componentNames_classOf hr hk', (hasEntryEdge_iff hr hc).1 hentry⟩
  · rintro ⟨a, ha, hS, hfield⟩
    have hk := indexOf_lt ha
    have hnames : (build r).componentNames ((build r).classOf ((build r).indexOf a)) = S := by
      ext b
      rw [mem_componentNames_classOf hr hk, nameAt_indexOf ha, hS]
    have hc := classOf_mem_components hk
    exact ⟨_, ⟨hc, (hasEntryEdge_iff hr hc).2 (hnames ▸ hfield)⟩, hnames⟩

theorem length_valueCycles_eq_card (hr : r.Frozen) :
    (build r).valueCycles.length = (valueCycleNames r).card := by
  rw [length_valueCycles hr, valueCycleNames, List.toFinset_card_of_nodup, List.length_map]
  refine List.Nodup.map_on (fun c₁ hc₁ c₂ hc₂ h => ?_) (components_nodup.filter _)
  exact componentNames_inj hr (List.mem_filter.1 hc₁).1 (List.mem_filter.1 hc₂).1 h

/-- Two frozen registries with the same declarations report as many value cycles. -/
theorem length_valueCycles_eq {r₁ r₂ : Registry} (hr₁ : r₁.Frozen) (hp : r₁.decls.Perm r₂.decls) :
    (build r₁).valueCycles.length = (build r₂).valueCycles.length := by
  have h := Registry.sameDecls_of_perm hr₁ hp
  have hr₂ := hr₁.of_perm hp
  have hlinked : r₁.NameLinked = r₂.NameLinked := by
    unfold Registry.NameLinked
    rw [h.hardEdge hr₁ hr₂]
  rw [length_valueCycles_eq_card hr₁, length_valueCycles_eq_card hr₂]
  congr 1
  ext S
  rw [mem_valueCycleNames hr₁, mem_valueCycleNames hr₂, hlinked, h.holdsByValue hr₁ hr₂]
  simp only [h.mem_names]

end DependencyGraph

end EntitySchema
