import EntitySchema.Proofs.EmissionOrder

/-! # The emission order of a graph that may have cycles

Kahn's algorithm runs on the graph of every frozen registry, also one whose hard edges close
cycles, which resolution reports but the graph itself admits. Then every round succeeds, since
a release never finds a count at zero, and no position is pushed onto the heap or placed twice.
The order holds exactly the registered names from which no cycle of hard edges can be reached
(`mem_topologicalOrder_iff`): a name is placed after its dependencies, so a placed name reaches
no cycle, and placement only stops when no unplaced name is ready, which leaves only names that
lead into a cycle. Each name comes after its hard dependencies, and compared by registration
position the order is the least of all such orders of those names (`topologicalOrder_le_of_acyclicPart`).
So it holds every registered name, as the closing length check expects, exactly when the hard
edges close no cycle (`length_topologicalOrder_eq_iff`).
-/

namespace EntitySchema

open Relation

namespace Registry

/-- No cycle of hard edges can be reached from `a`. -/
def ReachesNoCycle (r : Registry) (a : String) : Prop :=
  ∀ n, ReflTransGen r.HardEdge a n → ¬ TransGen r.HardEdge n n

end Registry

namespace DependencyGraph

variable {r : Registry}

/-- A position reaches no cycle of dependencies exactly when its name reaches no cycle of hard
edges. -/
theorem noCycleFrom_iff (hr : r.Frozen) {i : Nat} (hi : i < r.size) :
    NoCycleFrom (build r).depPositions i ↔ r.ReachesNoCycle ((build r).nameAt i) := by
  have hdep : ∀ a b, (build r).Adj a b → DependsOn (build r).depPositions a b :=
    fun _ _ => dependsOn_depPositions.2
  have hadj : ∀ a b, DependsOn (build r).depPositions a b → (build r).Adj a b :=
    fun _ _ => dependsOn_depPositions.1
  constructor
  · intro h n hn hcyc
    have hpath := reflTransGen_adj hr hn
    rw [indexOf_nameAt hr hi] at hpath
    exact h _ (ReflTransGen.mono hdep _ _ hpath) (TransGen.mono hdep _ _ (transGen_adj hr hcyc))
  · intro h m him hcyc
    obtain ⟨hm, hpath⟩ := reflTransGen_hardEdge hr hi (ReflTransGen.mono hadj _ _ him)
    exact h _ hpath (transGen_hardEdge hr hm (TransGen.mono hadj _ _ hcyc))

/-- The emission order holds exactly the registered names from which no cycle of hard edges can
be reached. -/
theorem mem_topologicalOrder_iff (hr : r.Frozen) {a : String} :
    a ∈ (build r).topologicalOrder ↔ a ∈ r.names ∧ r.ReachesNoCycle a := by
  rw [topologicalOrder_eq, List.mem_map]
  constructor
  · rintro ⟨i, hi, rfl⟩
    have hlt := mem_placed_lt hi
    exact ⟨nameAt_mem hlt, (noCycleFrom_iff hr hlt).1 (placement_placed.noCycleFrom hi)⟩
  · rintro ⟨ha, hgood⟩
    have hlt := indexOf_lt ha
    refine ⟨(build r).indexOf a, ?_, nameAt_indexOf ha⟩
    have hgood' : NoCycleFrom (build r).depPositions ((build r).indexOf a) := by
      rw [noCycleFrom_iff hr hlt, nameAt_indexOf ha]
      exact hgood
    exact mem_placeReady_of_noCycleFrom (depPositions_lt hr) _ Placement.nil (by simp) _
      (by simpa using hlt) hgood'

theorem topologicalOrder_nodup (hr : r.Frozen) : (build r).topologicalOrder.Nodup := by
  have hplaced : (placed r).Nodup := placement_placed.nodup
  rw [← map_idxOf_topologicalOrder hr] at hplaced
  exact hplaced.of_map _

/-- Compared by registration position, the emission order is the least of the orders of the
names that reach no cycle that put every name after its hard dependencies. -/
theorem topologicalOrder_le_of_acyclicPart (hr : r.Frozen) {order : List String}
    (hnodup : order.Nodup) (hmem : ∀ a, a ∈ order ↔ a ∈ r.names ∧ r.ReachesNoCycle a)
    (hfirst : r.HardEdgesFirst order) :
    (build r).topologicalOrder.map r.names.idxOf ≤ order.map r.names.idxOf := by
  have hreg : ∀ a ∈ order, a ∈ r.names := fun a ha => ((hmem a).1 ha).1
  rw [map_idxOf_topologicalOrder hr]
  refine placeReady_le_of_noCycleFrom _ (nodup_map_idxOf hreg hnodup) (fun i => ?_)
    (depsFirst_map_idxOf hr hreg hfirst)
  rw [mem_map_idxOf_iff hr hmem, build_size]
  exact and_congr_right fun hi => (noCycleFrom_iff hr hi).symm

/-- The emission order holds every registered name exactly when the hard edges close no
cycle. -/
theorem length_topologicalOrder_eq_iff (hr : r.Frozen) :
    (build r).topologicalOrder.length = r.size ↔ ∀ n, ¬ TransGen r.HardEdge n n := by
  constructor
  · intro hlen n hcyc
    have hsub : ((build r).topologicalOrder).Subperm r.names :=
      (topologicalOrder_nodup hr).subperm fun a ha => ((mem_topologicalOrder_iff hr).1 ha).1
    have hperm := hsub.perm_of_length_le (by simp [hlen, Registry.size, Registry.names])
    obtain ⟨m, hm, -⟩ := TransGen.head'_iff.1 hcyc
    have hn := hperm.mem_iff.2 hm.mem_names.1
    exact ((mem_topologicalOrder_iff hr).1 hn).2 n .refl hcyc
  · intro hacyc
    rw [(topologicalOrder_perm hr hacyc).length_eq]
    simp [Registry.size, Registry.names]

/-- For every frozen registry, whether or not its hard edges close a cycle, Kahn's algorithm over
its graph: every number of rounds succeeds, so no release meets a count at zero, and leaves no
position twice among those placed and on the heap, so none is pushed or placed twice; after as
many rounds as nodes the heap is empty and the emission order is what was placed. The order
holds exactly the registered names from which no cycle of hard edges can be reached, each once
and after its hard dependencies; compared by registration position it is the least such order
of those names; and it holds every registered name exactly when there is no cycle. -/
theorem topologicalOrder_acyclicPart (hr : r.Frozen) :
    (∀ fuel, ∃ s, (build r).kahnLoop fuel (build r).kahnStart = some s ∧
      (s.order ++ s.ready).Nodup) ∧
    (∃ s, (build r).kahnLoop (build r).size (build r).kahnStart = some s ∧ s.ready = [] ∧
      (build r).topologicalOrder = s.order.map (build r).nameAt) ∧
    (∀ a, a ∈ (build r).topologicalOrder ↔ a ∈ r.names ∧ r.ReachesNoCycle a) ∧
    (build r).topologicalOrder.Nodup ∧ r.HardEdgesFirst (build r).topologicalOrder ∧
    (∀ order : List String, order.Nodup → (∀ a, a ∈ order ↔ a ∈ r.names ∧ r.ReachesNoCycle a) →
      r.HardEdgesFirst order →
      (build r).topologicalOrder.map r.names.idxOf ≤ order.map r.names.idxOf) ∧
    ((build r).topologicalOrder.length = r.size ↔ ∀ n, ¬ TransGen r.HardEdge n n) := by
  refine ⟨fun fuel => ?_, ?_, fun a => mem_topologicalOrder_iff hr, topologicalOrder_nodup hr,
    topologicalOrder_hardEdgesFirst hr, fun order hnodup hmem hfirst =>
      topologicalOrder_le_of_acyclicPart hr hnodup hmem hfirst, length_topologicalOrder_eq_iff hr⟩
  · obtain ⟨s, hloop, hinv, -⟩ := (kahnInv_start (build r)).kahnLoop fuel
    exact ⟨s, hloop, hinv.nodup⟩
  · obtain ⟨s, hloop, hready⟩ := kahnLoop_size_ready (build r)
    refine ⟨s, hloop, hready, ?_⟩
    rw [topologicalOrder, hloop]

/-- `Hen` and `Egg` hold each other by value and `Nest` holds an `Egg`; `Barn` holds a `Farm`. -/
def henHouse : Registry :=
  ⟨[{ name := "Nest", fields := [⟨"egg", .reference "Egg", none⟩] },
    { name := "Hen", fields := [⟨"egg", .reference "Egg", none⟩] },
    { name := "Egg", fields := [⟨"hen", .reference "Hen", none⟩] },
    { name := "Barn", fields := [⟨"farm", .reference "Farm", none⟩] },
    { name := "Farm" }]⟩

/-- Only `Farm` and then `Barn` are placed: the others lead into the cycle of `Hen` and `Egg`. -/
theorem henHouse_acyclicPart :
    henHouse.Frozen ∧ (build henHouse).topologicalOrder = ["Farm", "Barn"] ∧
    (∀ fuel, ∃ s, (build henHouse).kahnLoop fuel (build henHouse).kahnStart = some s ∧
      (s.order ++ s.ready).Nodup) ∧
    (∃ s, (build henHouse).kahnLoop (build henHouse).size (build henHouse).kahnStart = some s ∧
      s.ready = [] ∧ (build henHouse).topologicalOrder = s.order.map (build henHouse).nameAt) ∧
    (∀ a, a ∈ (build henHouse).topologicalOrder ↔ a ∈ henHouse.names ∧ henHouse.ReachesNoCycle a) ∧
    (build henHouse).topologicalOrder.Nodup ∧
    henHouse.HardEdgesFirst (build henHouse).topologicalOrder ∧
    (∀ order : List String, order.Nodup →
      (∀ a, a ∈ order ↔ a ∈ henHouse.names ∧ henHouse.ReachesNoCycle a) →
      henHouse.HardEdgesFirst order →
      (build henHouse).topologicalOrder.map henHouse.names.idxOf ≤
        order.map henHouse.names.idxOf) ∧
    ((build henHouse).topologicalOrder.length = henHouse.size ↔
      ∀ n, ¬ TransGen henHouse.HardEdge n n) :=
  ⟨by decide, by decide, topologicalOrder_acyclicPart (by decide)⟩

end DependencyGraph

end EntitySchema
