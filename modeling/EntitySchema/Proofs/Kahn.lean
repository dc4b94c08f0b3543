import EntitySchema.Proofs.Placement
import EntitySchema.Proofs.Reachability

/-! # Kahn's algorithm

`topologicalOrder` runs Kahn's algorithm over the positions of the graph. It counts for each
position its dependencies, keeps the positions whose count is zero on a heap, and in each round
places the least of them and releases the positions that depend on it, lowering their counts.

Between rounds the state keeps `KahnInv`: the positions placed are a placement, each pending
count is the number of the position's dependencies not placed yet, and the heap holds, once
each, exactly the positions ready to be placed. So:

* a release only lowers counts that are above zero (`release_spec`, `KahnInv.count_pos`), and
  every round succeeds;
* no position is on the heap twice, or on the heap and placed (`KahnInv.nodup`), so none is
  pushed or placed twice;
* the least position on the heap is the least ready one, the choice `placeReady` makes: the
  rounds place what `placeReady` places (`KahnInv.kahnLoop`), so `topologicalOrder` is
  `placeReady`'s order (`topologicalOrder_eq_placeReady`), and after as many rounds as nodes
  the heap is empty (`kahnLoop_size_ready`).
-/

namespace EntitySchema

namespace DependencyGraph

open Relation

variable {g : DependencyGraph}

/-! ## The counts of a graph -/

/-- Distinct names have distinct first positions, so a node's dependency positions are
distinct. -/
theorem depIndices_nodup (g : DependencyGraph) (i : Nat) : (g.depIndices i).Nodup := by
  refine (List.nodup_eraseDups _).filterMap fun a a' k ha ha' => ?_
  obtain ⟨_, hka, -⟩ := List.idxOf?_eq_some_iff.1 ha
  obtain ⟨_, hka', -⟩ := List.idxOf?_eq_some_iff.1 ha'
  exact hka.symm.trans hka'

theorem mem_dependents {d j : Nat} : j ∈ g.dependents d ↔ j < g.size ∧ d ∈ g.depIndices j := by
  simp only [dependents, List.mem_flatMap, List.mem_range, List.mem_replicate, ne_eq,
    List.count_eq_zero, not_not]
  constructor
  · rintro ⟨a, ha, hd, rfl⟩
    exact ⟨ha, hd⟩
  · rintro ⟨hj, hd⟩
    exact ⟨j, hj, hd, rfl⟩

/-- A position depends on `d` at most once, so it is listed among `d`'s dependents at most
once. -/
theorem dependents_nodup (g : DependencyGraph) (d : Nat) : (g.dependents d).Nodup := by
  refine List.nodup_flatMap.2 ⟨fun i _ => ?_, ?_⟩
  · exact List.nodup_replicate.2 (List.nodup_iff_count_le_one.1 (g.depIndices_nodup i) d)
  · refine List.nodup_range.imp fun {a b} hab x hxa hxb => hab ?_
    exact (List.mem_replicate.1 hxa).2.symm.trans (List.mem_replicate.1 hxb).2

/-! ## Releasing -/

/-- Releasing distinct positions whose counts are all above zero lowers each of their counts by
one, and makes ready, in order, those whose count was one. -/
theorem release_spec : ∀ {js pending : List Nat} (ready : List Nat), js.Nodup →
    (∀ j ∈ js, ∃ c, pending[j]? = some (c + 1)) →
    ∃ pending', release js (pending, ready) =
        some (pending', ready ++ js.filter fun j => pending[j]? == some 1) ∧
      ∀ k, pending'[k]? = pending[k]?.map fun c => if k ∈ js then c - 1 else c
  | [], pending, ready, _, _ => ⟨pending, by simp [release], fun k => by simp⟩
  | j :: js, pending, ready, hnodup, hpos => by
    obtain ⟨c, hc⟩ := hpos j List.mem_cons_self
    obtain ⟨hj, hjs⟩ := List.nodup_cons.1 hnodup
    have hlen : j < pending.length := (List.getElem?_eq_some_iff.1 hc).1
    have hset : ∀ k ∈ js, (pending.set j c)[k]? = pending[k]? :=
      fun k hk => List.getElem?_set_ne fun (h : j = k) => hj (h ▸ hk)
    obtain ⟨pending', hrel, hcount⟩ :=
      release_spec (if c = 0 then ready ++ [j] else ready) hjs
        fun k hk => hset k hk ▸ hpos k (List.mem_cons_of_mem _ hk)
    have hfilter : js.filter (fun k => (pending.set j c)[k]? == some 1) =
        js.filter (fun k => pending[k]? == some 1) :=
      List.filter_congr fun k hk => by rw [hset k hk]
    refine ⟨pending', ?_, fun k => ?_⟩
    · simp only [release, hc]
      rw [hrel, hfilter, List.filter_cons, hc]
      by_cases h0 : c = 0 <;> simp [h0]
    · rw [hcount k]
      by_cases hk : k = j
      · subst hk
        simp [List.getElem?_set_self hlen, hc, hj]
      · rw [List.getElem?_set_ne (Ne.symm hk)]
        simp [hk]

/-- Placing `i` lowers by one the count of unplaced dependencies of a position that depends on
`i`, and leaves the others. -/
theorem length_filter_not_mem_snoc {l order : List Nat} {i : Nat} (hl : l.Nodup) (hi : i ∉ order) :
    (l.filter (· ∉ order ++ [i])).length = (l.filter (· ∉ order)).length - if i ∈ l then 1 else 0 := by
  have hfilter : l.filter (· ∉ order ++ [i]) = (l.filter (· ∉ order)).erase i := by
    rw [(hl.filter _).erase_eq_filter, List.filter_filter]
    refine List.filter_congr fun x _ => ?_
    by_cases hx : x = i <;> simp [hx, hi]
  rw [hfilter, List.length_erase]
  by_cases hil : i ∈ l <;> simp [hil, hi]

/-! ## Between rounds -/

/-- What holds between rounds of Kahn's algorithm: the positions placed are a placement; each
position's pending count is the number of its dependencies not placed yet; and the heap holds,
once each, the positions ready to be placed. -/
structure KahnInv (g : DependencyGraph) (s : Kahn) : Prop where
  placement : Placement g.size g.depIndices s.order
  pending : s.pending =
    (List.range g.size).map fun j => ((g.depIndices j).filter (· ∉ s.order)).length
  ready_nodup : s.ready.Nodup
  mem_ready : ∀ j, j ∈ s.ready ↔ j < g.size ∧ Ready g.depIndices s.order j

variable {s : Kahn}

theorem kahnInv_start (g : DependencyGraph) : KahnInv g g.kahnStart where
  placement := Placement.nil
  pending := by simp [kahnStart, pendingCounts]
  ready_nodup := List.nodup_range.filter _
  mem_ready j := by
    by_cases hj : j < g.size
    · simp [kahnStart, pendingCounts, Ready, hj, List.eq_nil_iff_forall_not_mem]
    · simp [kahnStart, hj]

theorem KahnInv.pending_getElem? (h : KahnInv g s) {j : Nat} (hj : j < g.size) :
    s.pending[j]? = some ((g.depIndices j).filter (· ∉ s.order)).length := by
  rw [h.pending, List.getElem?_map, List.getElem?_range hj]
  rfl

theorem KahnInv.nodup (h : KahnInv g s) : (s.order ++ s.ready).Nodup :=
  List.nodup_append.2 ⟨h.placement.nodup, h.ready_nodup,
    fun _ ha b hb hab => ((h.mem_ready b).1 hb).2.1 (hab ▸ ha)⟩

theorem KahnInv.least_of_min? (h : KahnInv g s) {i : Nat} (hi : s.ready.min? = some i) :
    i < g.size ∧ Ready g.depIndices s.order i ∧ ∀ j < i, ¬ Ready g.depIndices s.order j := by
  obtain ⟨hmem, hle⟩ := List.min?_eq_some_iff.1 hi
  obtain ⟨hlt, hready⟩ := (h.mem_ready i).1 hmem
  refine ⟨hlt, hready, fun j hj hrj => ?_⟩
  have := hle j ((h.mem_ready j).2 ⟨by omega, hrj⟩)
  omega

theorem KahnInv.not_ready_of_min? (h : KahnInv g s) (hi : s.ready.min? = none) :
    ∀ j < g.size, ¬ Ready g.depIndices s.order j := by
  intro j hj hrj
  rw [List.min?_eq_none_iff] at hi
  simpa [hi] using (h.mem_ready j).2 ⟨hj, hrj⟩

/-- Releasing the dependents of a ready position finds each of their counts above zero: the
position is one of their dependencies, and it is not placed. -/
theorem KahnInv.count_pos (h : KahnInv g s) {i : Nat} (hready : Ready g.depIndices s.order i) :
    ∀ j ∈ g.dependents i, ∃ c, s.pending[j]? = some (c + 1) := by
  intro j hj
  obtain ⟨hjn, hij⟩ := mem_dependents.1 hj
  rw [h.pending_getElem? hjn]
  have hpos : 0 < ((g.depIndices j).filter (· ∉ s.order)).length :=
    List.length_pos_of_mem (List.mem_filter.2 ⟨hij, by simpa using hready.1⟩)
  exact ⟨_, congrArg some (Nat.succ_pred_eq_of_pos hpos).symm⟩

/-- A position that depends on the unplaced `i` has a count of one exactly when `i` is its only
dependency not placed. -/
theorem KahnInv.count_eq_one_iff (h : KahnInv g s) {i j : Nat} (hi : i ∉ s.order)
    (hj : j < g.size) (hij : i ∈ g.depIndices j) :
    s.pending[j]? = some 1 ↔ ∀ k ∈ g.depIndices j, k ∈ s.order ++ [i] := by
  rw [h.pending_getElem? hj, Option.some_inj]
  have hmem : i ∈ (g.depIndices j).filter (· ∉ s.order) := List.mem_filter.2 ⟨hij, by simpa using hi⟩
  have hcount : ((g.depIndices j).filter (· ∉ s.order)).count i = 1 := by
    rw [((g.depIndices_nodup j).filter (· ∉ s.order)).count, if_pos hmem]
  rw [← hcount, eq_comm, List.count_eq_length]
  simp only [List.mem_filter, decide_eq_true_eq, List.mem_append, List.mem_singleton, and_imp]
  constructor
  · intro hall k hk
    by_cases hko : k ∈ s.order
    · exact .inl hko
    · exact .inr (hall k hk hko).symm
  · intro hall k hk hko
    exact ((hall k hk).resolve_left hko).symm

theorem KahnInv.mem_ready_step (h : KahnInv g s) {i : Nat} (hready : Ready g.depIndices s.order i)
    (j : Nat) :
    j ∈ s.ready.erase i ++ (g.dependents i).filter (fun j => s.pending[j]? == some 1) ↔
      j < g.size ∧ Ready g.depIndices (s.order ++ [i]) j := by
  rw [List.mem_append, h.ready_nodup.mem_erase_iff, List.mem_filter, mem_dependents, beq_iff_eq]
  constructor
  · rintro (⟨hji, hj⟩ | ⟨⟨hjn, hij⟩, hone⟩)
    · obtain ⟨hjn, hjo, hdeps⟩ := (h.mem_ready j).1 hj
      refine ⟨hjn, ?_, fun k hk => List.mem_append_left _ (hdeps k hk)⟩
      simpa [hjo] using hji
    · refine ⟨hjn, ?_, (h.count_eq_one_iff hready.1 hjn hij).1 hone⟩
      have hjo : j ∉ s.order := fun hjo => hready.1 (h.placement.deps_mem hjo i hij)
      have hji : j ≠ i := fun hji => hready.1 (hready.2 i (hji ▸ hij))
      simpa [hjo] using hji
  · rintro ⟨hjn, hjo, hdeps⟩
    by_cases hij : i ∈ g.depIndices j
    · exact .inr ⟨⟨hjn, hij⟩, (h.count_eq_one_iff hready.1 hjn hij).2 hdeps⟩
    · refine .inl ⟨fun hji => hjo (by simp [hji]), (h.mem_ready j).2 ⟨hjn, ?_, fun k hk => ?_⟩⟩
      · exact fun hj => hjo (List.mem_append_left _ hj)
      · rcases List.mem_append.1 (hdeps k hk) with hk' | hk'
        · exact hk'
        · exact absurd (List.mem_singleton.1 hk' ▸ hk) hij

theorem KahnInv.nodup_ready_step (h : KahnInv g s) {i : Nat} (hready : Ready g.depIndices s.order i) :
    (s.ready.erase i ++ (g.dependents i).filter (fun j => s.pending[j]? == some 1)).Nodup := by
  refine List.nodup_append.2 ⟨h.ready_nodup.erase i, (g.dependents_nodup i).filter _, ?_⟩
  rintro a ha b hb rfl
  have hready' := ((h.mem_ready a).1 (List.mem_of_mem_erase ha)).2
  exact hready.1 (hready'.2 i (mem_dependents.1 (List.mem_of_mem_filter hb)).2)

theorem KahnInv.pending_step (h : KahnInv g s) {i : Nat} (hi : i ∉ s.order) {pending' : List Nat}
    (hcount : ∀ k, pending'[k]? = s.pending[k]?.map fun c => if k ∈ g.dependents i then c - 1 else c) :
    pending' = (List.range g.size).map fun j => ((g.depIndices j).filter (· ∉ s.order ++ [i])).length := by
  apply List.ext_getElem?
  intro k
  rw [hcount k, h.pending, List.getElem?_map, List.getElem?_map]
  by_cases hk : k < g.size
  · simp only [List.getElem?_range hk, Option.map_some]
    rw [length_filter_not_mem_snoc (g.depIndices_nodup k) hi]
    by_cases hik : i ∈ g.depIndices k <;> simp [mem_dependents, hk, hik]
  · rw [List.getElem?_eq_none (by simpa using hk)]
    rfl

/-- A round keeps the invariant: the release it makes succeeds, and it places the least ready
position. -/
theorem KahnInv.step (h : KahnInv g s) {i : Nat} (hi : s.ready.min? = some i) :
    ∃ pending ready, release (g.dependents i) (s.pending, s.ready.erase i) = some (pending, ready) ∧
      KahnInv g ⟨pending, ready, s.order ++ [i]⟩ := by
  obtain ⟨hlt, hready, -⟩ := h.least_of_min? hi
  obtain ⟨pending', hrel, hcount⟩ :=
    release_spec (s.ready.erase i) (g.dependents_nodup i) (h.count_pos hready)
  exact ⟨pending', _, hrel, ⟨h.placement.snoc hlt hready, h.pending_step hready.1 hcount,
    h.nodup_ready_step hready, h.mem_ready_step hready⟩⟩

/-! ## Whole runs -/

/-- From a state that keeps the invariant, every number of rounds succeeds, keeps the invariant,
and places what `placeReady` places. -/
theorem KahnInv.kahnLoop (h : KahnInv g s) (fuel : Nat) :
    ∃ s', g.kahnLoop fuel s = some s' ∧ KahnInv g s' ∧
      s'.order = placeReady g.size g.depIndices fuel s.order := by
  induction fuel generalizing s with
  | zero => exact ⟨s, rfl, h, rfl⟩
  | succ fuel ih =>
    cases hmin : s.ready.min? with
    | none =>
      refine ⟨s, by simp [DependencyGraph.kahnLoop, hmin], h, ?_⟩
      rcases placeReady_succ_cases g.size g.depIndices fuel s.order with
        ⟨i, hi, hready, -, -⟩ | ⟨-, hstep⟩
      · exact absurd hready (h.not_ready_of_min? hmin i hi)
      · exact hstep.symm
    | some i =>
      obtain ⟨pending, ready, hrel, hinv⟩ := h.step hmin
      obtain ⟨s', hloop, hinv', horder⟩ := ih hinv
      refine ⟨s', by simp [DependencyGraph.kahnLoop, hmin, hrel, hloop], hinv', ?_⟩
      obtain ⟨hlt, hready, hleast⟩ := h.least_of_min? hmin
      rcases placeReady_succ_cases g.size g.depIndices fuel s.order with
        ⟨x, -, hxready, hxleast, hstep⟩ | ⟨hnone, -⟩
      · have hix : ¬ i < x := fun hix => hxleast i hix hready
        have hxi : ¬ x < i := fun hxi => hleast x hxi hxready
        obtain rfl : x = i := by omega
        rw [hstep, horder]
      · exact absurd hready (hnone i hlt)

/-- The emission order is the order `placeReady` gives the positions. -/
theorem topologicalOrder_eq_placeReady (g : DependencyGraph) :
    g.topologicalOrder = (placeReady g.size g.depIndices g.size []).map g.nameAt := by
  obtain ⟨s, hloop, -, horder⟩ := (kahnInv_start g).kahnLoop g.size
  rw [topologicalOrder, hloop]
  exact congrArg (List.map g.nameAt) horder

/-- After as many rounds as nodes the heap is empty: the loop has stopped because nothing is
ready. -/
theorem kahnLoop_size_ready (g : DependencyGraph) :
    ∃ s, g.kahnLoop g.size g.kahnStart = some s ∧ s.ready = [] := by
  obtain ⟨s, hloop, hinv, horder⟩ := (kahnInv_start g).kahnLoop g.size
  refine ⟨s, hloop, List.eq_nil_iff_forall_not_mem.2 fun j hj => ?_⟩
  obtain ⟨hjn, hready⟩ := (hinv.mem_ready j).1 hj
  rw [horder] at hready
  exact not_ready_placeReady g.size Placement.nil (by simp) j hjn hready

end DependencyGraph

end EntitySchema
