import Mathlib.Data.List.Chain
import EntitySchema.Schema.Graph

/-! # Shortest paths inside a set of members

`pathWithin` finds a path from `start` to `goal` that never leaves `members`: a breadth-first
search from `start` records, for each member it finds, the node it was found from, and the path
is read back from `goal` along those records.

The search keeps a level for each node it has found, one more than the level of the node it was
found from (`SearchInv`). The queue is sorted by level and spans at most two levels, and every
successor of a node already expanded has been found at a level at most one more. One step of
the search keeps all of that (`SearchInv.step`). Following any walk from `start`, the nodes stay
expanded with level below the walk's length until one of them is queued
(`SearchInv.walk_cases`); so the search never runs dry before `goal` reaches the head of the
queue, and any walk to `goal` is at least as long as the path read back (`pathWithin_spec`).
-/

namespace EntitySchema

namespace DependencyGraph

variable (g : DependencyGraph) (members : List String)

/-- `v` follows `u` inside `members`: an edge of `u` leads to `v`, a member. -/
def Step (u v : String) : Prop := v ∈ members ∧ v ∈ (g.edges u).map (·.target)

/-- What expanding `node` does with one target of its edges: a member not visited yet is
queued, visited, and recorded as found from `node`. -/
def discover (node : String) (acc : List String × List String × List (String × String))
    (next : String) : List String × List String × List (String × String) :=
  if members.contains next && !acc.2.1.contains next then
    (acc.1 ++ [next], acc.2.1 ++ [next], acc.2.2 ++ [(next, node)])
  else acc

theorem searchFrom_cons (goal : String) (fuel : Nat) (node : String) (queue visited : List String)
    (previous : List (String × String)) :
    g.searchFrom members goal (fuel + 1) (node :: queue) visited previous =
      if node == goal then previous
      else
        let found := ((g.edges node).map (·.target)).foldl (discover members node)
          (queue, visited, previous)
        g.searchFrom members goal fuel found.1 found.2.1 found.2.2 :=
  rfl

/-- Expanding a node queues, visits and records the members among its targets that were not
visited yet, each once, in the order of its edges. -/
theorem foldl_discover (node : String) :
    ∀ (targets queue visited : List String) (previous : List (String × String)),
      ∃ new : List String,
        targets.foldl (discover members node) (queue, visited, previous) =
          (queue ++ new, visited ++ new, previous ++ new.map (·, node)) ∧
        new.Nodup ∧ (∀ v ∈ new, v ∈ targets ∧ v ∈ members ∧ v ∉ visited) ∧
        ∀ t ∈ targets, t ∈ members → t ∈ visited ∨ t ∈ new
  | [], queue, visited, previous => ⟨[], by simp, List.nodup_nil, by simp, by simp⟩
  | t :: targets, queue, visited, previous => by
    by_cases hfresh : t ∈ members ∧ t ∉ visited
    · have hstep : discover members node (queue, visited, previous) t =
          (queue ++ [t], visited ++ [t], previous ++ [(t, node)]) := by
        simp [discover, hfresh.1, hfresh.2]
      obtain ⟨new, hfold, hnodup, hnew, hall⟩ :=
        foldl_discover node targets (queue ++ [t]) (visited ++ [t]) (previous ++ [(t, node)])
      refine ⟨t :: new, by simp [hstep, hfold], ?_, ?_, ?_⟩
      · refine List.nodup_cons.2 ⟨fun ht => ?_, hnodup⟩
        exact (hnew t ht).2.2 (List.mem_append_right _ (List.mem_singleton_self t))
      · intro v hv
        rcases List.mem_cons.1 hv with rfl | hv
        · exact ⟨List.mem_cons_self, hfresh.1, hfresh.2⟩
        · obtain ⟨hvt, hvm, hvv⟩ := hnew v hv
          exact ⟨List.mem_cons_of_mem t hvt, hvm, fun h => hvv (List.mem_append_left _ h)⟩
      · intro x hx hxm
        rcases List.mem_cons.1 hx with rfl | hx
        · exact .inr List.mem_cons_self
        · rcases hall x hx hxm with hxv | hxn
          · rcases List.mem_append.1 hxv with hxv | hxv
            · exact .inl hxv
            · exact .inr (List.mem_singleton.1 hxv ▸ List.mem_cons_self)
          · exact .inr (List.mem_cons_of_mem t hxn)
    · have hstep : discover members node (queue, visited, previous) t = (queue, visited, previous) := by
        by_cases hm : t ∈ members
        · have hv : t ∈ visited := by simpa [hm] using hfresh
          simp [discover, hv]
        · simp [discover, hm]
      obtain ⟨new, hfold, hnodup, hnew, hall⟩ := foldl_discover node targets queue visited previous
      refine ⟨new, by simp [hstep, hfold], hnodup, fun v hv => ?_, fun x hx hxm => ?_⟩
      · obtain ⟨hvt, hvm, hvv⟩ := hnew v hv
        exact ⟨List.mem_cons_of_mem t hvt, hvm, hvv⟩
      · rcases List.mem_cons.1 hx with rfl | hx
        · exact .inl (by simpa [hxm] using hfresh)
        · exact hall x hx hxm

/-! ### The search invariant -/

variable {g members} {start goal : String}

/-- What holds of the search from `start` towards `goal` before each expansion, with `level`
the number of steps each visited node was found in. -/
structure SearchInv (g : DependencyGraph) (members : List String) (start goal : String)
    (level : String → Nat) (queue visited : List String) (previous : List (String × String)) :
    Prop where
  start_visited : start ∈ visited
  level_start : level start = 0
  visited_members : ∀ v ∈ visited, v ∈ members
  visited_nodup : visited.Nodup
  queue_visited : ∀ v ∈ queue, v ∈ visited
  /-- The successors of an expanded node are visited, at most one level further. -/
  closed : ∀ v ∈ visited, v ∉ queue → ∀ w, g.Step members v w → w ∈ visited ∧ level w ≤ level v + 1
  previous_step : ∀ v u, (v, u) ∈ previous →
    v ∈ visited ∧ u ∈ visited ∧ g.Step members u v ∧ level v = level u + 1
  previous_cover : ∀ v ∈ visited, v ≠ start → ∃ u, (v, u) ∈ previous
  queue_sorted : queue.Pairwise fun a b => level a ≤ level b
  /-- No visited node is more than one level past a queued one. -/
  span : ∀ a ∈ queue, ∀ v ∈ visited, level v ≤ level a + 1
  goal_queued : goal ∈ visited → goal ∈ queue
  level_lt : ∀ v ∈ visited, level v < visited.length

theorem SearchInv.init (hs : start ∈ members) :
    SearchInv g members start goal (fun _ => 0) [start] [start] [] where
  start_visited := List.mem_singleton_self start
  level_start := rfl
  visited_members _ hv := List.mem_singleton.1 hv ▸ hs
  visited_nodup := List.nodup_cons.2 ⟨List.not_mem_nil, List.nodup_nil⟩
  queue_visited _ hv := hv
  closed _ hv hq := absurd hv hq
  previous_step _ _ h := absurd h List.not_mem_nil
  previous_cover _ hv hne := absurd (List.mem_singleton.1 hv) hne
  queue_sorted := List.pairwise_singleton _ _
  span _ _ _ _ := Nat.zero_le _
  goal_queued h := h
  level_lt _ _ := Nat.zero_lt_one

section Step

variable {level : String → Nat} {node : String} {queue visited new : List String}
  {previous : List (String × String)}

/-- Expanding the head `node`, which is not the goal, keeps the invariant; the nodes found
from it are one level past it. -/
theorem SearchInv.step (h : SearchInv g members start goal level (node :: queue) visited previous)
    (hgoal : node ≠ goal) (hnodup : new.Nodup)
    (hnew : ∀ v ∈ new, v ∈ (g.edges node).map (·.target) ∧ v ∈ members ∧ v ∉ visited)
    (hall : ∀ t ∈ (g.edges node).map (·.target), t ∈ members → t ∈ visited ∨ t ∈ new) :
    SearchInv g members start goal (fun v => if v ∈ new then level node + 1 else level v)
      (queue ++ new) (visited ++ new) (previous ++ new.map (·, node)) := by
  have hnode : node ∈ visited := h.queue_visited node List.mem_cons_self
  have hold : ∀ v ∈ visited, (if v ∈ new then level node + 1 else level v) = level v :=
    fun v hv => if_neg fun hn => (hnew v hn).2.2 hv
  have hfresh : ∀ v ∈ new, (if v ∈ new then level node + 1 else level v) = level node + 1 :=
    fun v hv => if_pos hv
  have hsucc : ∀ w, g.Step members node w → w ∈ visited ∨ w ∈ new := fun w hw => hall w hw.2 hw.1
  have hspan : ∀ v ∈ visited, level v ≤ level node + 1 := h.span node List.mem_cons_self
  have hsorted : ∀ a ∈ queue, level node ≤ level a := (List.pairwise_cons.1 h.queue_sorted).1
  have hbelow : ∀ v ∈ visited ++ new, (if v ∈ new then level node + 1 else level v) ≤ level node + 1 := by
    intro v hv
    rcases List.mem_append.1 hv with hv | hv
    · rw [hold v hv]
      exact hspan v hv
    · rw [hfresh v hv]
  have habove : ∀ a ∈ queue ++ new, level node ≤ (if a ∈ new then level node + 1 else level a) := by
    intro a ha
    rcases List.mem_append.1 ha with ha | ha
    · rw [hold a (h.queue_visited a (List.mem_cons_of_mem node ha))]
      exact hsorted a ha
    · rw [hfresh a ha]
      exact Nat.le_succ _
  constructor
  case start_visited =>
    exact List.mem_append_left _ h.start_visited
  case level_start =>
    rw [hold start h.start_visited, h.level_start]
  case visited_members =>
    intro v hv
    rcases List.mem_append.1 hv with hv | hv
    · exact h.visited_members v hv
    · exact (hnew v hv).2.1
  case visited_nodup =>
    exact List.nodup_append.2 ⟨h.visited_nodup, hnodup,
      fun a ha b hb hab => (hnew b hb).2.2 (hab ▸ ha)⟩
  case queue_visited =>
    intro v hv
    rcases List.mem_append.1 hv with hv | hv
    · exact List.mem_append_left _ (h.queue_visited v (List.mem_cons_of_mem node hv))
    · exact List.mem_append_right _ hv
  case closed =>
    intro v hv hq w hw
    have hvn : v ∉ new := fun hn => hq (List.mem_append_right _ hn)
    have hvv : v ∈ visited := (List.mem_append.1 hv).resolve_right hvn
    rw [hold v hvv]
    by_cases hv' : v = node
    · subst hv'
      have hw' : w ∈ visited ++ new := List.mem_append.2 (hsucc w hw)
      exact ⟨hw', hbelow w hw'⟩
    · have hq' : v ∉ node :: queue := by
        rintro (_ | ⟨_, hq'⟩)
        · exact hv' rfl
        · exact hq (List.mem_append_left _ hq')
      obtain ⟨hwv, hwl⟩ := h.closed v hvv hq' w hw
      exact ⟨List.mem_append_left _ hwv, by rw [hold w hwv]; exact hwl⟩
  case previous_step =>
    intro v u hvu
    rcases List.mem_append.1 hvu with hvu | hvu
    · obtain ⟨hv, hu, hstep, hlevel⟩ := h.previous_step v u hvu
      exact ⟨List.mem_append_left _ hv, List.mem_append_left _ hu, hstep,
        by rw [hold v hv, hold u hu, hlevel]⟩
    · obtain ⟨x, hx, hxu⟩ := List.mem_map.1 hvu
      obtain ⟨rfl, rfl⟩ := Prod.mk.inj hxu
      exact ⟨List.mem_append_right _ hx, List.mem_append_left _ hnode,
        ⟨(hnew x hx).2.1, (hnew x hx).1⟩, by rw [hfresh x hx, hold node hnode]⟩
  case previous_cover =>
    intro v hv hne
    rcases List.mem_append.1 hv with hv | hv
    · obtain ⟨u, hu⟩ := h.previous_cover v hv hne
      exact ⟨u, List.mem_append_left _ hu⟩
    · exact ⟨node, List.mem_append_right _ (List.mem_map.2 ⟨v, hv, rfl⟩)⟩
  case queue_sorted =>
    refine List.pairwise_append.2 ⟨?_, ?_, ?_⟩
    · refine (List.pairwise_cons.1 h.queue_sorted).2.imp_of_mem fun {a b} ha hb hab => ?_
      rw [hold a (h.queue_visited a (List.mem_cons_of_mem node ha)),
        hold b (h.queue_visited b (List.mem_cons_of_mem node hb))]
      exact hab
    · exact List.pairwise_of_forall_mem_list fun a ha b hb => by rw [hfresh a ha, hfresh b hb]
    · intro a ha b hb
      have hav := h.queue_visited a (List.mem_cons_of_mem node ha)
      rw [hold a hav, hfresh b hb]
      exact hspan a hav
  case span =>
    intro a ha v hv
    exact (hbelow v hv).trans (Nat.add_le_add_right (habove a ha) 1)
  case goal_queued =>
    intro hv
    rcases List.mem_append.1 hv with hv | hv
    · rcases List.mem_cons.1 (h.goal_queued hv) with heq | hq
      · exact absurd heq.symm hgoal
      · exact List.mem_append_left _ hq
    · exact List.mem_append_right _ hv
  case level_lt =>
    intro v hv
    rw [List.length_append]
    rcases List.mem_append.1 hv with hv | hv
    · rw [hold v hv]
      have := h.level_lt v hv
      omega
    · rw [hfresh v hv]
      have := h.level_lt node hnode
      have : 0 < new.length := List.length_pos_of_mem hv
      omega

end Step

theorem isChain_append_singleton {R : String → String → Prop} {l : List String} {x : String} :
    List.IsChain R (l ++ [x]) ↔ List.IsChain R l ∧ ∀ u ∈ l.getLast?, R u x := by
  rw [List.isChain_append]
  simp

/-- Along a walk from `start`, the nodes are expanded at a level below the steps taken, until
one of them is queued at such a level. -/
theorem SearchInv.walk_cases {level : String → Nat} {queue visited : List String}
    {previous : List (String × String)}
    (h : SearchInv g members start goal level queue visited previous) (q : List String)
    (hq : q.head? = some start) (hchain : List.IsChain (g.Step members) q) :
    ∀ v ∈ q.getLast?, (v ∈ visited ∧ v ∉ queue ∧ level v + 1 ≤ q.length) ∨
      ∃ a ∈ queue, level a + 1 ≤ q.length := by
  induction q using List.reverseRecOn with
  | nil => simp at hq
  | append_singleton q x ih =>
    intro v hv
    obtain rfl : v = x := by simpa using hv.symm
    rw [List.length_append, List.length_singleton]
    rcases q.eq_nil_or_concat' with rfl | ⟨q', u, rfl⟩
    · obtain rfl : v = start := by simpa using hq
      by_cases hs : v ∈ queue
      · exact .inr ⟨v, hs, by rw [h.level_start]; simp⟩
      · exact .inl ⟨h.start_visited, hs, by rw [h.level_start]; simp⟩
    · obtain ⟨hchain', hlast⟩ := isChain_append_singleton.1 hchain
      have hq' : (q' ++ [u]).head? = some start := by
        rw [List.head?_append] at hq
        cases hh : (q' ++ [u]).head? with
        | none => simp at hh
        | some y => simpa [hh] using hq
      have hstep : g.Step members u v := hlast u (by simp)
      rcases ih hq' hchain' u (by simp) with ⟨hu, huq, hlen⟩ | ⟨a, ha, hlen⟩
      · obtain ⟨hv, hlevel⟩ := h.closed u hu huq v hstep
        by_cases hvq : v ∈ queue
        · exact .inr ⟨v, hvq, by omega⟩
        · exact .inl ⟨hv, hvq, by omega⟩
      · exact .inr ⟨a, ha, by omega⟩

/-! ### The whole search -/

section Run

variable {q : List String} (hq : q.head? = some start) (hlast : q.getLast? = some goal)
  (hchain : List.IsChain (g.Step members) q)
include hq hlast hchain

/-- While a walk leads from `start` to `goal`, the search ends with `goal` at the head of its
queue, the invariant holding: fuel for one expansion per member suffices. -/
theorem searchFrom_inv :
    ∀ (fuel : Nat) (level : String → Nat) (queue visited : List String)
      (previous : List (String × String)),
      SearchInv g members start goal level queue visited previous →
      fuel + visited.length = members.length + 1 + queue.length →
      ∃ level' queue' visited', SearchInv g members start goal level' (goal :: queue') visited'
        (g.searchFrom members goal fuel queue visited previous)
  | 0, _, queue, visited, _, h, hfuel => by
    have hlen := h.visited_nodup.length_le_of_subset fun v hv => h.visited_members v hv
    omega
  | fuel + 1, _, [], visited, _, h, _ => by
    rcases h.walk_cases q hq hchain goal (by simp [hlast]) with ⟨hv, hnq, -⟩ | ⟨a, ha, -⟩
    · exact absurd (h.goal_queued hv) hnq
    · exact absurd ha List.not_mem_nil
  | fuel + 1, level, node :: queue, visited, previous, h, hfuel => by
    rw [searchFrom_cons]
    by_cases hnode : node = goal
    · subst hnode
      exact ⟨level, queue, visited, by simpa using h⟩
    · obtain ⟨new, hfold, hnodup, hnew, hall⟩ :=
        foldl_discover members node ((g.edges node).map (·.target)) queue visited previous
      simp only [beq_iff_eq, hnode, if_false, hfold]
      refine searchFrom_inv fuel _ _ _ _ (h.step hnode hnodup hnew hall) ?_
      simp only [List.length_append, List.length_cons] at hfuel ⊢
      omega

end Run

/-- Reading the records back from a visited node gives a walk from `start` to it, one node per
level. -/
theorem walkBack_spec {level : String → Nat} {queue visited : List String}
    {previous : List (String × String)}
    (h : SearchInv g members start goal level queue visited previous) :
    ∀ (fuel : Nat) (v : String) (rest : List String), v ∈ visited → level v < fuel →
      ∃ p, walkBack previous start fuel v (v :: rest) = p ++ rest ∧ p.head? = some start ∧
        p.getLast? = some v ∧ List.IsChain (g.Step members) p ∧ p.length = level v + 1
  | 0, _, _, _, hlt => absurd hlt (Nat.not_lt_zero _)
  | fuel + 1, v, rest, hv, hlt => by
    rw [walkBack]
    by_cases hs : v = start
    · subst hs
      refine ⟨[v], by simp, rfl, rfl, List.isChain_singleton v, by simp [h.level_start]⟩
    · simp only [beq_iff_eq, hs, if_false]
      obtain ⟨u, hu⟩ := h.previous_cover v hv hs
      obtain ⟨u', hlookup⟩ : ∃ u', previous.lookup v = some u' :=
        Option.isSome_iff_exists.1 (List.lookup_isSome_iff.2 ⟨(v, u), hu, by simp⟩)
      obtain ⟨l₁, l₂, hsplit, -⟩ := List.lookup_eq_some_iff.1 hlookup
      have hmem : (v, u') ∈ previous := by simp [hsplit]
      obtain ⟨-, hu'v, hstep, hlevel⟩ := h.previous_step v u' hmem
      obtain ⟨p, hp, hhead, hlast, hchain, hlen⟩ := walkBack_spec h fuel u' (v :: rest) hu'v (by omega)
      rw [hlookup]
      refine ⟨p ++ [v], by simpa using hp, ?_, by simp, ?_, by simp [hlen, hlevel]⟩
      · rw [List.head?_append, hhead]
        rfl
      · exact isChain_append_singleton.2 ⟨hchain, fun x hx => by
          rw [hlast] at hx
          cases hx
          exact hstep⟩

/-- Given any walk from `start` to `goal` inside `members`, `pathWithin` finds a walk from
`start` to `goal` inside `members` that is no longer. -/
theorem pathWithin_spec (hs : start ∈ members) {q : List String} (hq : q.head? = some start)
    (hlast : q.getLast? = some goal) (hchain : List.IsChain (g.Step members) q) :
    (g.pathWithin members start goal).head? = some start ∧
      (g.pathWithin members start goal).getLast? = some goal ∧
      List.IsChain (g.Step members) (g.pathWithin members start goal) ∧
      (g.pathWithin members start goal).length ≤ q.length := by
  obtain ⟨level, queue, visited, h⟩ := searchFrom_inv hq hlast hchain (members.length + 1) _ _ _ _
    (SearchInv.init hs) (by simp)
  have hgoal : goal ∈ visited := h.queue_visited goal List.mem_cons_self
  have hbound : level goal < members.length + 1 := by
    have := h.level_lt goal hgoal
    have := h.visited_nodup.length_le_of_subset fun v hv => h.visited_members v hv
    omega
  obtain ⟨p, hp, hhead, hplast, hpchain, hlen⟩ := walkBack_spec h _ goal [] hgoal hbound
  rw [List.append_nil] at hp
  unfold pathWithin
  rw [hp]
  refine ⟨hhead, hplast, hpchain, ?_⟩
  rcases h.walk_cases q hq hchain goal (by simp [hlast]) with ⟨-, hnq, -⟩ | ⟨a, ha, hlen'⟩
  · exact absurd List.mem_cons_self hnq
  · have hle : level goal ≤ level a := by
      rcases List.mem_cons.1 ha with rfl | ha
      · exact Nat.le_refl _
      · exact (List.pairwise_cons.1 h.queue_sorted).1 a ha
    omega

end DependencyGraph

end EntitySchema
