import Mathlib.Logic.Relation
import Mathlib.Data.List.Perm.Subperm
import EntitySchema.Schema.Graph

/-! # Reachability in the dependency graph

`reachable` finds the positions a node reaches by breadth-first rounds with a fuel of one
round more than the graph has nodes. The rounds only ever add positions reached from the
start (`closure_sound`), and once the frontier is empty what was seen is closed under edges
(`closure_closed`). Every edge target is a position of at most the graph's size, so a graph of
`n` nodes has a universe of `n + 1` positions, and the fuel always lasts until the frontier is
empty: `reachable` is exactly the transitive closure of the edges (`mem_reachable_iff`), for
every graph.

Two positions are linked when they reach each other; `linked` computes that from the table
of reachable positions, and it is an equivalence.
-/

theorem List.nodup_eraseDups {α : Type} [BEq α] [LawfulBEq α] :
    ∀ l : List α, l.eraseDups.Nodup
  | [] => List.nodup_nil
  | a :: as => by
    have hlen : (as.filter fun b => !b == a).length < as.length + 1 :=
      Nat.lt_succ_of_le (List.length_filter_le _ as)
    have ih := List.nodup_eraseDups (as.filter fun b => !b == a)
    rw [List.eraseDups_cons, List.nodup_cons]
    refine ⟨?_, ih⟩
    simp
termination_by l => l.length

theorem List.idxOf?_eq_some_idxOf {α : Type} [BEq α] [LawfulBEq α] :
    ∀ {l : List α} {b : α}, b ∈ l → l.idxOf? b = some (l.idxOf b)
  | a :: l, b, h => by
    by_cases hab : a = b
    · subst hab
      simp [List.idxOf?_cons]
    · have hl : b ∈ l := (List.mem_cons.1 h).resolve_left (Ne.symm hab)
      have hbeq : (a == b) = false := by simpa using hab
      simp [List.idxOf?_cons, List.idxOf_cons, hbeq, List.idxOf?_eq_some_idxOf hl]

namespace EntitySchema

namespace DependencyGraph

/-! ## Breadth-first rounds -/

/-- The positions reachable from `frontier` by following `succ`, added to `seen`, found in
rounds of breadth-first search; `fuel` rounds suffice when it exceeds the number of nodes. -/
def closure (succ : Nat → List Nat) : Nat → List Nat → List Nat → List Nat
  | 0, seen, _ => seen
  | _ + 1, seen, [] => seen
  | fuel + 1, seen, frontier =>
    let next := ((frontier.flatMap succ).eraseDups).filter (!seen.contains ·)
    closure succ fuel (seen ++ next) next

section Closure

variable (succ : Nat → List Nat)

theorem closure_cons (fuel : Nat) (seen : List Nat) (x : Nat) (xs : List Nat) :
    closure succ (fuel + 1) seen (x :: xs) =
      let next := (((x :: xs).flatMap succ).eraseDups).filter (!seen.contains ·)
      closure succ fuel (seen ++ next) next := by
  rw [closure]
  exact List.cons_ne_nil x xs

theorem subset_closure :
    ∀ (fuel : Nat) (seen frontier : List Nat), ∀ x ∈ seen, x ∈ closure succ fuel seen frontier
  | 0, _, _, _, hx => by simpa [closure] using hx
  | _ + 1, _, [], _, hx => by simpa [closure] using hx
  | fuel + 1, seen, x :: xs, y, hy => by
    rw [closure_cons]
    exact subset_closure fuel _ _ y (List.mem_append_left _ hy)

/-- A property that edges carry forward and that holds of the start holds of every position
the rounds find. -/
theorem closure_sound (P : Nat → Prop) (hP : ∀ x, P x → ∀ y ∈ succ x, P y) :
    ∀ (fuel : Nat) (seen frontier : List Nat), (∀ x ∈ seen, P x) → (∀ x ∈ frontier, P x) →
      ∀ x ∈ closure succ fuel seen frontier, P x
  | 0, _, _, hs, _ => by simpa [closure] using hs
  | _ + 1, _, [], hs, _ => by simpa [closure] using hs
  | fuel + 1, seen, x :: xs, hs, hf => by
    rw [closure_cons]
    have hnext : ∀ y ∈ (((x :: xs).flatMap succ).eraseDups).filter (!seen.contains ·), P y := by
      intro y hy
      simp only [List.mem_filter, List.mem_eraseDups, List.mem_flatMap] at hy
      obtain ⟨⟨z, hz, hyz⟩, -⟩ := hy
      exact hP z (hf z hz) y hyz
    refine closure_sound P hP fuel _ _ ?_ hnext
    intro y hy
    rcases List.mem_append.1 hy with hy | hy
    · exact hs y hy
    · exact hnext y hy

/-- What the rounds keep true while they run over a universe of `n` positions: the seen
positions are distinct and in the universe, the frontier is seen, everything seen off the
frontier has its successors seen, and the fuel lasts while the frontier is not empty. -/
structure ClosureInv (n fuel : Nat) (seen frontier : List Nat) : Prop where
  nodup : seen.Nodup
  bounded : ∀ x ∈ seen, x < n
  frontier_seen : frontier ⊆ seen
  closed_off_frontier : ∀ x ∈ seen, x ∉ frontier → ∀ y ∈ succ x, y ∈ seen
  fuel_lasts : frontier ≠ [] → n + 1 ≤ seen.length + fuel

variable {succ}

theorem ClosureInv.length_le {n fuel : Nat} {seen frontier : List Nat}
    (h : ClosureInv succ n fuel seen frontier) : seen.length ≤ n := by
  have hsub : seen ⊆ List.range n := fun x hx => List.mem_range.2 (h.bounded x hx)
  simpa using (h.nodup.subperm hsub).length_le

theorem ClosureInv.step {n fuel : Nat} {seen : List Nat} {x : Nat} {xs : List Nat}
    (hsucc : ∀ x, ∀ y ∈ succ x, y < n) (h : ClosureInv succ n (fuel + 1) seen (x :: xs)) :
    let next := (((x :: xs).flatMap succ).eraseDups).filter (!seen.contains ·)
    ClosureInv succ n fuel (seen ++ next) next := by
  intro next
  have hnext : ∀ y, y ∈ next ↔ (∃ z ∈ x :: xs, y ∈ succ z) ∧ y ∉ seen := by
    intro y
    simp [next, List.mem_filter, List.mem_flatMap]
  refine ⟨?_, ?_, ?_, ?_, ?_⟩
  · refine List.nodup_append.2 ⟨h.nodup, (List.nodup_eraseDups _).filter _, ?_⟩
    intro a ha b hb hab
    subst hab
    exact ((hnext a).1 hb).2 ha
  · intro y hy
    rcases List.mem_append.1 hy with hy | hy
    · exact h.bounded y hy
    · obtain ⟨⟨z, -, hz⟩, -⟩ := (hnext y).1 hy
      exact hsucc z y hz
  · intro y hy
    exact List.mem_append_right _ hy
  · intro z hz hzn y hy
    rcases List.mem_append.1 hz with hz | hz
    · by_cases hy' : y ∈ seen
      · exact List.mem_append_left _ hy'
      · by_cases hzf : z ∈ x :: xs
        · exact List.mem_append_right _ ((hnext y).2 ⟨⟨z, hzf, hy⟩, hy'⟩)
        · exact absurd (h.closed_off_frontier z hz hzf y hy) hy'
    · exact absurd hz hzn
  · intro hne
    have hpos : 0 < next.length := List.length_pos_iff.2 hne
    have hf := h.fuel_lasts (List.cons_ne_nil x xs)
    simp only [List.length_append]
    omega

theorem closure_closed {n : Nat} (hsucc : ∀ x, ∀ y ∈ succ x, y < n) :
    ∀ (fuel : Nat) (seen frontier : List Nat), ClosureInv succ n fuel seen frontier →
      ∀ x ∈ closure succ fuel seen frontier, ∀ y ∈ succ x, y ∈ closure succ fuel seen frontier
  | 0, seen, [], h => by
    simpa [closure] using fun x hx => h.closed_off_frontier x hx (List.not_mem_nil)
  | 0, seen, x :: xs, h => by
    have hf := h.fuel_lasts (List.cons_ne_nil x xs)
    have hl := h.length_le
    omega
  | fuel + 1, seen, [], h => by
    simpa [closure] using fun x hx => h.closed_off_frontier x hx (List.not_mem_nil)
  | fuel + 1, seen, x :: xs, h => by
    rw [closure_cons]
    exact closure_closed hsucc fuel _ _ (h.step hsucc)

end Closure

/-! ## Reachable positions -/

/-- The positions reachable from `i` by one or more edges. -/
def reachable (g : DependencyGraph) (i : Nat) : List Nat :=
  let first := (g.successors i).eraseDups
  closure g.successors (g.size + 1) first first

/-- Whether two positions reach each other, given what each reaches; a position is linked with
itself. -/
def linked (reach : List (List Nat)) (i j : Nat) : Bool :=
  i == j || (((reach[i]?).getD []).contains j && ((reach[j]?).getD []).contains i)

def Adj (g : DependencyGraph) (i j : Nat) : Prop := j ∈ g.successors i

variable (g : DependencyGraph)

theorem successors_le_size {i j : Nat} (h : j ∈ g.successors i) : j ≤ g.size := by
  simp only [successors, List.mem_map] at h
  obtain ⟨e, -, rfl⟩ := h
  simpa [indexOf, size, names] using
    List.idxOf_le_length (l := g.nodes.map (·.1)) (a := e.target)

theorem reachable_start_inv (i : Nat) :
    ClosureInv g.successors (g.size + 1) (g.size + 1) (g.successors i).eraseDups
      (g.successors i).eraseDups := by
  refine ⟨List.nodup_eraseDups _, ?_, fun _ h => h, fun x hx hx' => absurd hx hx', ?_⟩
  · intro x hx
    have := g.successors_le_size (List.mem_eraseDups.1 hx)
    omega
  · intro hne
    have := List.length_pos_iff.2 hne
    omega

/-- `reachable` is the transitive closure of the edges. -/
theorem mem_reachable_iff {i j : Nat} : j ∈ g.reachable i ↔ Relation.TransGen g.Adj i j := by
  have hsucc : ∀ x, ∀ y ∈ g.successors x, y < g.size + 1 :=
    fun x y hy => Nat.lt_succ_of_le (g.successors_le_size hy)
  have hfirst : ∀ x ∈ (g.successors i).eraseDups, Relation.TransGen g.Adj i x :=
    fun x hx => .single (List.mem_eraseDups.1 hx)
  unfold reachable
  constructor
  · intro h
    exact closure_sound g.successors (Relation.TransGen g.Adj i) (fun x hx y hy => hx.tail hy)
      _ _ _ hfirst hfirst j h
  · intro h
    induction h with
    | single hij => exact subset_closure _ _ _ _ _ (List.mem_eraseDups.2 hij)
    | tail _ hjk ih => exact closure_closed hsucc _ _ _ (g.reachable_start_inv i) _ ih _ hjk

/-! ## Linked positions -/

def Linked (i j : Nat) : Prop :=
  i = j ∨ (Relation.TransGen g.Adj i j ∧ Relation.TransGen g.Adj j i)

variable {g}

theorem Linked.refl (i : Nat) : g.Linked i i := .inl rfl

theorem Linked.symm {i j : Nat} (h : g.Linked i j) : g.Linked j i := by
  rcases h with rfl | ⟨hij, hji⟩
  · exact .refl _
  · exact .inr ⟨hji, hij⟩

theorem Linked.trans {i j k : Nat} (hij : g.Linked i j) (hjk : g.Linked j k) : g.Linked i k := by
  rcases hij with rfl | ⟨hij, hji⟩
  · exact hjk
  rcases hjk with rfl | ⟨hjk, hkj⟩
  · exact .inr ⟨hij, hji⟩
  · exact .inr ⟨hij.trans hjk, hkj.trans hji⟩

theorem Linked.reflTransGen {i j : Nat} (h : g.Linked i j) : Relation.ReflTransGen g.Adj i j := by
  rcases h with rfl | ⟨hij, -⟩
  · exact .refl
  · exact hij.to_reflTransGen

theorem Linked.of_adj {i j : Nat} (hij : g.Adj i j) (hji : Relation.ReflTransGen g.Adj j i) :
    g.Linked i j := by
  rcases Relation.reflTransGen_iff_eq_or_transGen.1 hji with h | h
  · exact .inl h
  · exact .inr ⟨.single hij, h⟩

theorem linked_iff {i j : Nat} (hi : i < g.size) (hj : j < g.size) :
    linked ((List.range g.size).map g.reachable) i j = true ↔ g.Linked i j := by
  simp [linked, Linked, hi, hj, mem_reachable_iff]

end DependencyGraph

end EntitySchema
