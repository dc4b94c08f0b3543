import EntitySchema.Proofs.Components
import EntitySchema.Proofs.Links

/-! # Value cycles

`valueCycles` reports the cyclic components of the dependency graph that hold a field edge, an
edge of an entity held by value. In a frozen registry it reports nothing exactly when no field
that holds an entity by value lies on a cycle of hard edges (`valueCycles_eq_nil_iff`).

A component with a field edge inside is cyclic whatever its size, so the `isCyclic` filter
never drops a component that `entryEdge` would report; it only matters for components made of
base edges, which the walk along bases reports instead.
-/

namespace EntitySchema

namespace DependencyGraph

variable {r : Registry}

theorem entryEdge_isSome_iff (hr : r.Frozen) {c : List Nat} (hc : ∀ i ∈ c, i < r.size) :
    ((build r).entryEdge (c.map (build r).nameAt)).isSome ↔
      ∃ i ∈ c, ∃ j ∈ c, r.HoldsByValue ((build r).nameAt i) ((build r).nameAt j) := by
  simp only [entryEdge, List.findSome?_isSome_iff, List.mem_map]
  constructor
  · rintro ⟨_, ⟨i, hi, rfl⟩, ⟨⟨t, via⟩, he, hsome⟩⟩
    obtain ⟨d, hd⟩ := Registry.exists_lookup? (nameAt_mem (hc i hi))
    have hmem := Registry.lookup?_mem hd
    rw [build_edges, hd, Option.map_some, Option.getD_some] at he
    cases via with
    | base => simp at hsome
    | field f =>
      simp only [List.contains_iff_mem, List.mem_map] at hsome
      split at hsome
      · rename_i htarget
        obtain ⟨j, hj, rfl⟩ := htarget
        refine ⟨i, hi, j, hj, ?_⟩
        rw [← Registry.lookup?_name hd, hr.holdsByValue_iff hmem]
        rcases Registry.mem_edgesOf.1 he with ⟨h, -⟩ | ⟨fd, hfd, -, hty, hreg⟩
        · cases h
        · exact ⟨fd, hfd, hty, hreg⟩
      · simp at hsome
  · rintro ⟨i, hi, j, hj, hv⟩
    obtain ⟨d, hd⟩ := Registry.exists_lookup? (nameAt_mem (hc i hi))
    have hmem := Registry.lookup?_mem hd
    rw [← Registry.lookup?_name hd, hr.holdsByValue_iff hmem] at hv
    obtain ⟨fd, hfd, hty, hreg⟩ := hv
    refine ⟨d.name, ⟨i, hi, (Registry.lookup?_name hd).symm⟩, ⟨(build r).nameAt j, .field fd.name⟩,
      ?_, ?_⟩
    · rw [build_edges, Registry.lookup?_name hd, hd, Option.map_some, Option.getD_some]
      exact Registry.mem_edgesOf.2 (.inr ⟨fd, hfd, rfl, hty, hreg⟩)
    · have htarget : ∃ a ∈ c, (build r).nameAt a = (build r).nameAt j := ⟨j, hj, rfl⟩
      simp [htarget]

theorem isCyclic_of_holdsByValue (hr : r.Frozen) {c : List Nat} (hc : c ∈ (build r).components)
    {i j : Nat} (hi : i ∈ c) (hj : j ∈ c)
    (hv : r.HoldsByValue ((build r).nameAt i) ((build r).nameAt j)) :
    (build r).isCyclic c = true := by
  match c, hi, hj with
  | [x], hi, hj =>
    rw [List.mem_singleton.1 hi] at hv
    rw [List.mem_singleton.1 hj] at hv
    obtain ⟨k, hk, hck⟩ := mem_components (build_closed r) hc
    have hx := ((mem_classOf hk).1 (hck ▸ List.mem_singleton_self x)).1
    have hadj := adj_indexOf hr (.inr hv)
    rw [indexOf_nameAt hr (by simpa using hx)] at hadj
    simpa [isCyclic, Adj] using hadj
  | _ :: _ :: _, _, _ => simp [isCyclic]

theorem mem_components_lt {c : List Nat} (hc : c ∈ (build r).components) : ∀ i ∈ c, i < r.size := by
  obtain ⟨k, hk, rfl⟩ := mem_components (build_closed r) hc
  intro i hi
  simpa using ((mem_classOf hk).1 hi).1

/-- The value cycles are the components with a field edge inside. -/
theorem valueCycles_eq_nil_iff_components (hr : r.Frozen) :
    (build r).valueCycles = [] ↔
      ∀ c ∈ (build r).components, ¬ ∃ i ∈ c, ∃ j ∈ c,
        r.HoldsByValue ((build r).nameAt i) ((build r).nameAt j) := by
  simp only [valueCycles, List.filterMap_eq_nil_iff, List.mem_filter, Option.map_eq_none_iff]
  constructor
  · intro h c hc hfield
    obtain ⟨i, hi, j, hj, hv⟩ := hfield
    have hnone := h c ⟨hc, isCyclic_of_holdsByValue hr hc hi hj hv⟩
    have hsome := (entryEdge_isSome_iff hr (mem_components_lt hc)).2 ⟨i, hi, j, hj, hv⟩
    simp [hnone] at hsome
  · rintro h c ⟨hc, -⟩
    have hnot := h c hc
    rw [← entryEdge_isSome_iff hr (mem_components_lt hc)] at hnot
    simpa using hnot

/-- In a frozen registry there are no value cycles exactly when no field that holds an entity
by value lies on a cycle of hard edges, a field that holds its own entity included. -/
theorem valueCycles_eq_nil_iff (hr : r.Frozen) :
    (build r).valueCycles = [] ↔
      ∀ a t, r.HoldsByValue a t → ¬ Relation.ReflTransGen r.HardEdge t a := by
  rw [valueCycles_eq_nil_iff_components hr]
  constructor
  · intro h a t hv hback
    obtain ⟨ha, ht⟩ := Registry.HardEdge.mem_names (Or.inr hv : r.HardEdge a t)
    have hadj := adj_indexOf hr (.inr hv)
    have hlinked : (build r).Linked ((build r).indexOf a) ((build r).indexOf t) :=
      .of_adj hadj (reflTransGen_adj hr hback)
    obtain ⟨c, hc, hic⟩ := components_cover (g := build r) (by simpa using indexOf_lt ha)
    have hjc : (build r).indexOf t ∈ c := by
      rw [eq_classOf_of_mem (build_closed r) hc hic, mem_classOf (by simpa using indexOf_lt ha)]
      exact ⟨by simpa using indexOf_lt ht, hlinked⟩
    refine h c hc ⟨_, hic, _, hjc, ?_⟩
    rwa [nameAt_indexOf ha, nameAt_indexOf ht]
  · rintro h c hc ⟨i, hi, j, hj, hv⟩
    have hlt := mem_components_lt hc
    have hlinked : (build r).Linked j i := by
      have hji := (mem_classOf (by simpa using hlt i hi)).1 (eq_classOf_of_mem (build_closed r) hc hi ▸ hj)
      exact hji.2.symm
    exact h _ _ hv (reflTransGen_hardEdge hr (hlt j hj) hlinked.reflTransGen).2

end DependencyGraph

end EntitySchema
