import Mathlib.Data.List.Nodup
import Mathlib.Data.List.Sort
import EntitySchema.Proofs.Links
import EntitySchema.Proofs.TarjanSearch

/-! # Strongly connected components

`components` runs Tarjan's search over the edge targets of the nodes. When every edge of a graph
leads to a node (`Closed`, as in every graph a registry builds: `build_closed`), the targets are
the edges of `Adj`, so the search's reachability is that of `Adj` and its components are the
classes of linked positions (`classOf`): each component is the class of each of its members
(`eq_classOf_of_mem`), every node is in one (`components_cover`), and they come in the order of
their least members (`components_eq_leaders`). On the graph of a registry the search visits every
node exactly once and returns the partition of the nodes into strongly connected components
(`build_components`).
-/

namespace EntitySchema

namespace DependencyGraph

def classOf (g : DependencyGraph) (k : Nat) : List Nat :=
  (List.range g.size).filter (linked ((List.range g.size).map g.reachable) k)

variable {g : DependencyGraph}

theorem mem_classOf {k j : Nat} (hk : k < g.size) :
    j ∈ g.classOf k ↔ j < g.size ∧ g.Linked k j := by
  simp only [classOf, List.mem_filter, List.mem_range]
  constructor
  · rintro ⟨hj, hl⟩
    exact ⟨hj, (linked_iff hk hj).1 hl⟩
  · rintro ⟨hj, hl⟩
    exact ⟨hj, (linked_iff hk hj).2 hl⟩

theorem self_mem_classOf {k : Nat} (hk : k < g.size) : k ∈ g.classOf k :=
  (mem_classOf hk).2 ⟨hk, .refl k⟩

theorem classOf_eq_of_linked {k j : Nat} (hk : k < g.size) (hj : j < g.size) (h : g.Linked k j) :
    g.classOf k = g.classOf j := by
  unfold classOf
  refine List.filter_congr fun i hi => ?_
  have hi : i < g.size := List.mem_range.1 hi
  rw [Bool.eq_iff_iff, linked_iff hk hi, linked_iff hj hi]
  exact ⟨fun hki => h.symm.trans hki, fun hji => h.trans hji⟩

theorem pairwise_classOf (k : Nat) : (g.classOf k).Pairwise (· < ·) :=
  List.pairwise_lt_range.filter _

/-! ## Edge targets -/

def Closed (g : DependencyGraph) : Prop := ∀ i j, g.Adj i j → j < g.size

theorem mem_targets {i j : Nat} : j ∈ g.targets i ↔ g.Adj i j ∧ j < g.size := by
  simp only [targets, List.mem_filterMap, Adj, successors, List.mem_map, List.idxOf?,
    List.findIdx?_eq_some_iff_findIdx_eq, indexOf, List.idxOf]
  constructor
  · rintro ⟨e, he, hlt, rfl⟩
    exact ⟨⟨e, he, rfl⟩, by simpa [names, size] using hlt⟩
  · rintro ⟨⟨e, he, rfl⟩, hlt⟩
    exact ⟨e, he, by simpa [names, size] using hlt, rfl⟩

theorem targets_lt (i : Nat) : ∀ j ∈ g.targets i, j < g.size :=
  fun _ hj => (mem_targets.1 hj).2

theorem reach_targets_iff (hg : g.Closed) {i j : Nat} :
    Tarjan.Reach g.targets i j ↔ Relation.ReflTransGen g.Adj i j := by
  have hrel : (fun x y => y ∈ g.targets x) = g.Adj := by
    funext x y
    exact propext ⟨fun h => (mem_targets.1 h).1, fun h => mem_targets.2 ⟨h, hg x y h⟩⟩
  unfold Tarjan.Reach
  rw [hrel]

theorem linked_iff_reach (hg : g.Closed) {i j : Nat} :
    g.Linked i j ↔ Tarjan.Reach g.targets i j ∧ Tarjan.Reach g.targets j i := by
  rw [reach_targets_iff hg, reach_targets_iff hg]
  constructor
  · intro h
    exact ⟨h.reflTransGen, h.symm.reflTransGen⟩
  · rintro ⟨hij, hji⟩
    rcases Relation.reflTransGen_iff_eq_or_transGen.1 hij with rfl | hij
    · exact .refl _
    rcases Relation.reflTransGen_iff_eq_or_transGen.1 hji with rfl | hji
    · exact .refl _
    · exact .inr ⟨hij, hji⟩

/-! ## The components -/

theorem components_spec' :
    (∀ c ∈ g.components, Tarjan.IsComponent g.size g.targets c) ∧
      (∀ v < g.size, ∃ c ∈ g.components, v ∈ c) ∧
      g.components.Pairwise fun c d => c.headD 0 < d.headD 0 :=
  Tarjan.components_spec targets_lt

theorem eq_classOf_of_isComponent (hg : g.Closed) {c : List Nat}
    (hc : Tarjan.IsComponent g.size g.targets c) {i : Nat} (hi : i ∈ c) : c = g.classOf i := by
  have hilt : i < g.size := ((hc.mem_iff i hi i).1 hi).1
  refine List.Pairwise.eq_of_mem_iff hc.sorted (pairwise_classOf i) fun j => ?_
  rw [hc.mem_iff i hi j, mem_classOf hilt, linked_iff_reach hg]

theorem components_cover {i : Nat} (hi : i < g.size) : ∃ c ∈ g.components, i ∈ c :=
  components_spec'.2.1 i hi

theorem eq_classOf_of_mem (hg : g.Closed) {c : List Nat} (hc : c ∈ g.components) {i : Nat}
    (hi : i ∈ c) : c = g.classOf i :=
  eq_classOf_of_isComponent hg (components_spec'.1 c hc) hi

theorem mem_components (hg : g.Closed) {c : List Nat} (hc : c ∈ g.components) :
    ∃ k < g.size, c = g.classOf k := by
  have hcomp := components_spec'.1 c hc
  obtain ⟨k, ks, hcons⟩ := List.exists_cons_of_ne_nil hcomp.ne_nil
  have hk : k ∈ c := hcons ▸ List.mem_cons_self
  exact ⟨k, ((hcomp.mem_iff k hk k).1 hk).1, eq_classOf_of_isComponent hg hcomp hk⟩

theorem components_nodup : g.components.Nodup := by
  refine components_spec'.2.2.imp ?_
  intro c d hcd heq
  subst heq
  exact Nat.lt_irrefl _ hcd

/-! ## Components in order -/

/-- No earlier position is linked with `i`: it is the least of its component. -/
def IsLeast (g : DependencyGraph) (i : Nat) : Prop := ∀ j < i, ¬ g.Linked j i

theorem exists_isLeast (j : Nat) : ∃ l ≤ j, g.IsLeast l ∧ g.Linked l j := by
  induction j using Nat.strong_induction_on with
  | _ j ih =>
    by_cases hj : g.IsLeast j
    · exact ⟨j, le_refl j, hj, .refl j⟩
    · obtain ⟨i, hi, hij⟩ : ∃ i < j, g.Linked i j := by simpa [IsLeast] using hj
      obtain ⟨l, hl, hleast, hli⟩ := ih i hi
      exact ⟨l, by omega, hleast, hli.trans hij⟩

theorem headD_eq_of_pairwise {l : List Nat} (hl : l.Pairwise (· < ·)) {k : Nat} (hk : k ∈ l)
    (hmin : ∀ x ∈ l, k ≤ x) : l.headD 0 = k := by
  cases l with
  | nil => exact absurd hk List.not_mem_nil
  | cons x xs =>
    rcases List.mem_cons.1 hk with rfl | hk
    · rfl
    · exact absurd (hmin x List.mem_cons_self) (Nat.not_le_of_lt ((List.pairwise_cons.1 hl).1 k hk))

theorem headD_classOf {k : Nat} (hk : k < g.size) (hleast : g.IsLeast k) :
    (g.classOf k).headD 0 = k := by
  refine headD_eq_of_pairwise (pairwise_classOf k) (self_mem_classOf hk) fun x hx => ?_
  exact Nat.le_of_not_lt fun hxk => hleast x hxk ((mem_classOf hk).1 hx).2.symm

open Classical in
/-- The components are the classes of the positions linked with no earlier one, in order. -/
theorem components_eq_leaders (hg : g.Closed) :
    g.components = ((List.range g.size).filter fun i => g.IsLeast i).map g.classOf := by
  have : Std.Irrefl fun c d : List Nat => c.headD 0 < d.headD 0 := ⟨fun _ => Nat.lt_irrefl _⟩
  have : Std.Antisymm fun c d : List Nat => c.headD 0 < d.headD 0 :=
    ⟨fun _ _ h₁ h₂ => absurd (Nat.lt_trans h₁ h₂) (Nat.lt_irrefl _)⟩
  have hleaders : (((List.range g.size).filter fun i => g.IsLeast i).map g.classOf).Pairwise
      fun c d => c.headD 0 < d.headD 0 := by
    refine List.pairwise_map.2 ((List.pairwise_lt_range.filter _).imp_of_mem ?_)
    intro a b ha hb hab
    simp only [List.mem_filter, List.mem_range, decide_eq_true_eq] at ha hb
    rw [headD_classOf ha.1 ha.2, headD_classOf hb.1 hb.2]
    exact hab
  refine List.Pairwise.eq_of_mem_iff components_spec'.2.2 hleaders fun c => ?_
  simp only [List.mem_map, List.mem_filter, List.mem_range, decide_eq_true_eq]
  constructor
  · intro hc
    obtain ⟨k, hk, rfl⟩ := mem_components hg hc
    obtain ⟨l, hl, hleast, hlk⟩ := exists_isLeast (g := g) k
    exact ⟨l, ⟨by omega, hleast⟩, classOf_eq_of_linked (by omega) hk hlk⟩
  · rintro ⟨k, ⟨hk, -⟩, rfl⟩
    obtain ⟨c, hc, hkc⟩ := components_cover hk
    exact eq_classOf_of_mem hg hc hkc ▸ hc

/-! ## The graph of a registry -/

theorem build_closed (r : Registry) : (build r).Closed := by
  intro i j hij
  simp only [Adj, successors, List.mem_map] at hij
  obtain ⟨e, he, rfl⟩ := hij
  rw [build_edges] at he
  cases hlook : r.lookup? ((build r).nameAt i) with
  | none => simp [hlook] at he
  | some d =>
    rw [hlook, Option.map_some, Option.getD_some] at he
    rw [build_size]
    exact indexOf_lt (Registry.target_mem_names he)

/-- On the graph of a registry, Tarjan's search visits every node exactly once, giving the nodes
the indices `0` to `size - 1`, and returns the strongly connected components of the hard
dependencies: every node is in exactly one, each holds exactly the nodes linked with any of its
members, each is sorted ascending, and they are ordered by their least member. -/
theorem build_components (r : Registry) :
    ((Tarjan.run (build r).size (build r).targets).counter = (build r).size ∧
      (∀ v < (build r).size, ∃ k < (build r).size,
        (Tarjan.run (build r).size (build r).targets).index v = some k) ∧
      ∀ v w k, (Tarjan.run (build r).size (build r).targets).index v = some k →
        (Tarjan.run (build r).size (build r).targets).index w = some k → v = w) ∧
    (∀ v < (build r).size, ∃! c, c ∈ (build r).components ∧ v ∈ c) ∧
    (∀ c ∈ (build r).components, ∀ v ∈ c, ∀ w, w ∈ c ↔ w < (build r).size ∧ (build r).Linked v w) ∧
    (∀ c ∈ (build r).components, c ≠ [] ∧ c.Pairwise (· < ·)) ∧
    (build r).components.Pairwise fun c d => c.headD 0 < d.headD 0 := by
  have hg := build_closed r
  obtain ⟨hfound, hcover, hordered⟩ := components_spec' (g := build r)
  refine ⟨Tarjan.run_visits_once targets_lt, fun v hv => ?_, fun c hc v hv w => ?_,
    fun c hc => ⟨(hfound c hc).ne_nil, (hfound c hc).sorted⟩, hordered⟩
  · obtain ⟨c, hc, hvc⟩ := hcover v hv
    refine ⟨c, ⟨hc, hvc⟩, fun d ⟨hd, hvd⟩ => ?_⟩
    rw [eq_classOf_of_mem hg hd hvd, eq_classOf_of_mem hg hc hvc]
  · rw [(hfound c hc).mem_iff v hv w, linked_iff_reach hg]

end DependencyGraph

end EntitySchema
