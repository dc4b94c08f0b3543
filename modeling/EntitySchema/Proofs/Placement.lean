import Mathlib.Data.Fintype.Card
import Mathlib.Data.Fintype.EquivFin
import Mathlib.Data.List.Lex
import Mathlib.Order.WellFounded
import EntitySchema.Schema.Graph

/-! # Placing positions after their dependencies

`placeReady n deps` places the positions below `n` one at a time, each time the least unplaced
position whose dependencies are all placed. Everything it places comes after its dependencies,
once, and below `n` (`Placement.placeReady`). It places every position from which no cycle of
dependencies can be reached (`mem_placeReady_of_noCycleFrom`), and among all the orders of those
positions that put dependencies first its own is the least in the lexicographic order
(`placeReady_le_of_noCycleFrom`): taking the least ready position at each step is a greedy choice
that no other valid order can beat. Without cycles those are all the positions (`mem_placeReady`,
`placeReady_le`).
-/

namespace EntitySchema

namespace DependencyGraph

open Relation

variable {n : Nat} {deps : Nat → List Nat}

def DependsOn (deps : Nat → List Nat) (i j : Nat) : Prop := j ∈ deps i

/-- A position that is not placed yet and all of whose dependencies are. -/
def Ready (deps : Nat → List Nat) (placed : List Nat) (i : Nat) : Prop :=
  i ∉ placed ∧ ∀ j ∈ deps i, j ∈ placed

/-- An order in which every position comes after all of its dependencies. -/
def DepsFirst (deps : Nat → List Nat) (order : List Nat) : Prop :=
  ∀ k i, order[k]? = some i → ∀ j ∈ deps i, j ∈ order.take k

theorem readyTest_iff {placed : List Nat} {i : Nat} :
    (!placed.contains i && (deps i).all placed.contains) = true ↔ Ready deps placed i := by
  simp [Ready]

/-- One placement step: the least ready position below `n` is placed, or, with none ready,
placement stops. -/
theorem placeReady_succ_cases (n : Nat) (deps : Nat → List Nat) (fuel : Nat) (placed : List Nat) :
    (∃ i < n, Ready deps placed i ∧ (∀ j < i, ¬ Ready deps placed j) ∧
        placeReady n deps (fuel + 1) placed = placeReady n deps fuel (placed ++ [i])) ∨
      ((∀ i < n, ¬ Ready deps placed i) ∧ placeReady n deps (fuel + 1) placed = placed) := by
  rw [placeReady]
  split
  · rename_i i hfind
    obtain ⟨hi, hlt, hleast⟩ := List.find?_range_eq_some.1 hfind
    refine .inl ⟨i, List.mem_range.1 hlt, readyTest_iff.1 hi, fun j hj hready => ?_, rfl⟩
    have hnot : (!(!placed.contains j && (deps j).all placed.contains)) = true := hleast j hj
    rw [readyTest_iff.2 hready] at hnot
    simp at hnot
  · rename_i hfind
    refine .inr ⟨fun i hi hready => ?_, rfl⟩
    have hnot : (!(!placed.contains i && (deps i).all placed.contains)) = true :=
      List.find?_range_eq_none.1 hfind i hi
    rw [readyTest_iff.2 hready] at hnot
    simp at hnot

theorem placeReady_eq_append (n : Nat) (deps : Nat → List Nat) :
    ∀ (fuel : Nat) (placed : List Nat), ∃ rest, placeReady n deps fuel placed = placed ++ rest
  | 0, placed => ⟨[], by simp [placeReady]⟩
  | fuel + 1, placed => by
    rcases placeReady_succ_cases n deps fuel placed with
      ⟨i, -, -, -, hstep⟩ | ⟨-, hstep⟩
    · obtain ⟨rest, hrest⟩ := placeReady_eq_append n deps fuel (placed ++ [i])
      exact ⟨i :: rest, by simp [hstep, hrest]⟩
    · exact ⟨[], by simp [hstep]⟩

/-! ## What every placement keeps -/

/-- A partial placement: each position once, below `n`, after its dependencies. -/
structure Placement (n : Nat) (deps : Nat → List Nat) (placed : List Nat) : Prop where
  nodup : placed.Nodup
  lt : ∀ i ∈ placed, i < n
  depsFirst : DepsFirst deps placed

theorem DepsFirst.snoc {placed : List Nat} {i : Nat} (h : DepsFirst deps placed)
    (hi : ∀ j ∈ deps i, j ∈ placed) : DepsFirst deps (placed ++ [i]) := by
  intro k x hx j hj
  rcases Nat.lt_or_ge k placed.length with hk | hk
  · rw [List.getElem?_append_left hk] at hx
    rw [List.take_append_of_le_length hk.le]
    exact h k x hx j hj
  · rw [List.getElem?_append_right hk, List.getElem?_singleton] at hx
    have hkl : k = placed.length := by
      by_contra hne
      simp [show k - placed.length ≠ 0 by omega] at hx
    have hxi : x = i := by simpa [hkl] using hx.symm
    subst hkl hxi
    simpa using hi j hj

theorem Placement.nil : Placement n deps [] :=
  ⟨List.nodup_nil, fun _ h => absurd h List.not_mem_nil, fun _ _ h => by simp at h⟩

theorem Placement.snoc {placed : List Nat} {i : Nat} (h : Placement n deps placed) (hi : i < n)
    (hready : Ready deps placed i) : Placement n deps (placed ++ [i]) := by
  refine ⟨List.nodup_append.2 ⟨h.nodup, List.nodup_singleton i, ?_⟩, ?_, h.depsFirst.snoc hready.2⟩
  · rintro a ha b hb rfl
    exact hready.1 (List.mem_singleton.1 hb ▸ ha)
  · intro j hj
    rcases List.mem_append.1 hj with hj | hj
    · exact h.lt j hj
    · exact List.mem_singleton.1 hj ▸ hi

theorem Placement.placeReady {placed : List Nat} (h : Placement n deps placed) :
    ∀ fuel, Placement n deps (placeReady n deps fuel placed) := by
  intro fuel
  induction fuel generalizing placed with
  | zero => simpa [DependencyGraph.placeReady] using h
  | succ fuel ih =>
    rcases placeReady_succ_cases n deps fuel placed with
      ⟨i, hi, hready, -, hstep⟩ | ⟨-, hstep⟩
    · rw [hstep]
      exact ih (h.snoc hi hready)
    · rw [hstep]
      exact h

theorem Placement.deps_mem {placed : List Nat} (h : Placement n deps placed) {j : Nat}
    (hj : j ∈ placed) : ∀ k ∈ deps j, k ∈ placed := by
  obtain ⟨m, hm, rfl⟩ := List.getElem_of_mem hj
  exact fun k hk => List.mem_of_mem_take (h.depsFirst m _ (List.getElem?_eq_getElem hm) k hk)

/-! ## Positions from which no cycle can be reached -/

/-- No cycle of dependencies can be reached from position `i`. -/
def NoCycleFrom (deps : Nat → List Nat) (i : Nat) : Prop :=
  ∀ m, ReflTransGen (DependsOn deps) i m → ¬ TransGen (DependsOn deps) m m

theorem DepsFirst.transGen {order : List Nat} (h : DepsFirst deps order) {k i j : Nat}
    (hk : order[k]? = some i) (hij : TransGen (DependsOn deps) i j) : j ∈ order.take k := by
  induction hij with
  | single hij => exact h k i hk _ hij
  | tail _ hjl ih =>
    obtain ⟨m, hm, hmj⟩ := List.mem_take_iff_getElem.1 ih
    have hget : order[m]? = some _ := List.getElem?_eq_some_iff.2 ⟨by omega, hmj⟩
    exact List.take_subset_take_left order (by omega) (h m _ hget _ hjl)

/-- A position of an order that puts dependencies first, each position once, reaches no cycle:
everything it leads to comes before it. -/
theorem DepsFirst.noCycleFrom {order : List Nat} (h : DepsFirst deps order)
    (hnodup : order.Nodup) {i : Nat} (hi : i ∈ order) : NoCycleFrom deps i := by
  intro m him hcyc
  obtain ⟨k, hk, rfl⟩ := List.getElem_of_mem hi
  have hm : m ∈ order := by
    rcases reflTransGen_iff_eq_or_transGen.1 him with rfl | him
    · exact hi
    · exact List.mem_of_mem_take (h.transGen (List.getElem?_eq_getElem hk) him)
  obtain ⟨km, hkm, rfl⟩ := List.getElem_of_mem hm
  obtain ⟨k', hk', hget⟩ :=
    List.mem_take_iff_getElem.1 (h.transGen (List.getElem?_eq_getElem hkm) hcyc)
  have := (hnodup.getElem_inj_iff).1 hget
  omega

theorem Placement.noCycleFrom {placed : List Nat} (h : Placement n deps placed) {i : Nat}
    (hi : i ∈ placed) : NoCycleFrom deps i :=
  h.depsFirst.noCycleFrom h.nodup hi

/-- A position whose dependencies are all placed reaches no cycle when no placed position
does. -/
theorem noCycleFrom_of_ready {placed : List Nat} (hplaced : ∀ p ∈ placed, NoCycleFrom deps p)
    {i : Nat} (hready : Ready deps placed i) : NoCycleFrom deps i := by
  intro m him hcyc
  rcases ReflTransGen.cases_head him with rfl | ⟨j, hij, hjm⟩
  · obtain ⟨j, hij, hji⟩ := TransGen.head'_iff.1 hcyc
    exact hplaced j (hready.2 j hij) _ hji hcyc
  · exact hplaced j (hready.2 j hij) m hjm hcyc

theorem lt_of_reflTransGen (hdeps : ∀ i < n, ∀ j ∈ deps i, j < n) {i m : Nat} (hi : i < n)
    (him : ReflTransGen (DependsOn deps) i m) : m < n := by
  induction him with
  | refl => exact hi
  | tail _ hjm ih => exact hdeps _ ih _ hjm

/-- With every dependency below `n` and no cycle through a position below `n`, no position below
`n` reaches a cycle. -/
theorem noCycleFrom_of_acyclic (hdeps : ∀ i < n, ∀ j ∈ deps i, j < n)
    (hacyc : ∀ i < n, ¬ TransGen (DependsOn deps) i i) {i : Nat} (hi : i < n) :
    NoCycleFrom deps i :=
  fun m him => hacyc m (lt_of_reflTransGen hdeps hi him)

/-! ## Every position that reaches no cycle is placed -/

/-- With every dependency below `n`, an unplaced position that reaches no cycle leads to a
position that is ready: one minimal among the unplaced positions it reaches. -/
theorem exists_ready_of_noCycleFrom (hdeps : ∀ i < n, ∀ j ∈ deps i, j < n) {placed : List Nat}
    {i : Nat} (hi : i < n) (hgood : NoCycleFrom deps i) (hni : i ∉ placed) :
    ∃ x < n, Ready deps placed x := by
  let below : Fin n → Fin n → Prop := fun y x =>
    ReflTransGen (DependsOn deps) i x ∧ TransGen (DependsOn deps) x y
  have hwf : WellFounded below := by
    have : IsTrans (Fin n) below := ⟨fun _ _ _ hab hbc => ⟨hbc.1, hbc.2.trans hab.2⟩⟩
    have : Std.Irrefl below := ⟨fun a ha => hgood a ha.1 ha.2⟩
    exact Finite.wellFounded_of_trans_of_irrefl below
  obtain ⟨x, hx, hmin⟩ :=
    hwf.has_min {x | x.1 ∉ placed ∧ ReflTransGen (DependsOn deps) i x} ⟨⟨i, hi⟩, hni, .refl⟩
  refine ⟨x, x.2, hx.1, fun j hj => ?_⟩
  by_contra hnj
  exact hmin ⟨j, hdeps x x.2 j hj⟩ ⟨hnj, hx.2.tail hj⟩ ⟨hx.2, .single hj⟩

theorem mem_of_length_le {placed : List Nat} (h : Placement n deps placed)
    (hlen : n ≤ placed.length) {i : Nat} (hi : i < n) : i ∈ placed := by
  have hsub : placed.Subperm (List.range n) :=
    h.nodup.subperm fun j hj => List.mem_range.2 (h.lt j hj)
  have hperm := hsub.perm_of_length_le (by simpa using hlen)
  exact hperm.mem_iff.2 (List.mem_range.2 hi)

theorem mem_placeReady_of_noCycleFrom (hdeps : ∀ i < n, ∀ j ∈ deps i, j < n) :
    ∀ (fuel : Nat) {placed : List Nat}, Placement n deps placed → n ≤ placed.length + fuel →
      ∀ i < n, NoCycleFrom deps i → i ∈ placeReady n deps fuel placed
  | 0, placed, h, hlen, i, hi, _ => mem_of_length_le h (by simpa using hlen) hi
  | fuel + 1, placed, h, hlen, i, hi, hgood => by
    rcases placeReady_succ_cases n deps fuel placed with
      ⟨x, hx, hready, -, hstep⟩ | ⟨hnone, hstep⟩
    · rw [hstep]
      exact mem_placeReady_of_noCycleFrom hdeps fuel (h.snoc hx hready) (by simp; omega) i hi hgood
    · rw [hstep]
      by_contra hni
      obtain ⟨x, hx, hready⟩ := exists_ready_of_noCycleFrom hdeps hi hgood hni
      exact hnone x hx hready

/-- Enough fuel and no cycle: placement places every position. -/
theorem mem_placeReady (hdeps : ∀ i < n, ∀ j ∈ deps i, j < n)
    (hacyc : ∀ i < n, ¬ TransGen (DependsOn deps) i i) :
    ∀ (fuel : Nat) {placed : List Nat}, Placement n deps placed → n ≤ placed.length + fuel →
      ∀ i < n, i ∈ placeReady n deps fuel placed :=
  fun fuel _ h hlen i hi =>
    mem_placeReady_of_noCycleFrom hdeps fuel h hlen i hi (noCycleFrom_of_acyclic hdeps hacyc hi)

theorem not_ready_placeReady :
    ∀ (fuel : Nat) {placed : List Nat}, Placement n deps placed → n ≤ placed.length + fuel →
      ∀ i < n, ¬ Ready deps (placeReady n deps fuel placed) i
  | 0, placed, h, hlen, i, hi, hready => hready.1 (mem_of_length_le h (by simpa using hlen) hi)
  | fuel + 1, placed, h, hlen, i, hi, hready => by
    rcases placeReady_succ_cases n deps fuel placed with
      ⟨x, hx, hxready, -, hstep⟩ | ⟨hnone, hstep⟩
    · rw [hstep] at hready
      exact not_ready_placeReady fuel (h.snoc hx hxready) (by simp; omega) i hi hready
    · rw [hstep] at hready
      exact hnone i hi hready

/-! ## The least order that puts dependencies first -/

theorem nil_le : ∀ l : List Nat, [] ≤ l
  | [] => le_rfl
  | _ :: _ => le_of_lt List.Lex.nil

/-- What placement adds to `placed`, all of whose positions reach no cycle, is at most any
completion `rest` that keeps dependencies first and holds every position reaching no cycle:
at the first place they differ, placement took a smaller ready position. -/
theorem added_le_of_noCycleFrom :
    ∀ (fuel : Nat) {placed rest added : List Nat}, (∀ p ∈ placed, NoCycleFrom deps p) →
      (placed ++ rest).Nodup → (∀ x ∈ rest, x < n) →
      (∀ i < n, NoCycleFrom deps i → i ∈ placed ++ rest) → DepsFirst deps (placed ++ rest) →
      placeReady n deps fuel placed = placed ++ added → added ≤ rest
  | 0, placed, rest, added, _, _, _, _, _, hrun => by
    have : added = [] := by simpa [placeReady] using hrun
    rw [this]
    exact nil_le rest
  | fuel + 1, placed, rest, added, hgood, hnodup, hlt, hall, hfirst, hrun => by
    cases rest with
    | nil =>
      rcases placeReady_succ_cases n deps fuel placed with
        ⟨i, hi, hready, -, -⟩ | ⟨-, hstep⟩
      · exact absurd (by simpa using hall i hi (noCycleFrom_of_ready hgood hready)) hready.1
      · have : added = [] := by simpa [hstep] using hrun
        rw [this]
    | cons x rest =>
      have hxready : Ready deps placed x := by
        refine ⟨fun hx => ?_, fun j hj => ?_⟩
        · exact (List.nodup_append.1 hnodup).2.2 x hx x List.mem_cons_self rfl
        · have := hfirst placed.length x (by simp) j hj
          simpa using this
      rcases placeReady_succ_cases n deps fuel placed with
        ⟨i, -, hready, hleast, hstep⟩ | ⟨hnone, -⟩
      · obtain ⟨added', hadded'⟩ := placeReady_eq_append n deps fuel (placed ++ [i])
        have hadded : added = i :: added' := by
          have := hrun.symm.trans (hstep.trans hadded')
          simpa using this
        subst hadded
        have hix : i ≤ x := Nat.le_of_not_lt fun hxi => hleast x hxi hxready
        rcases Nat.lt_or_eq_of_le hix with hix | rfl
        · exact le_of_lt (List.Lex.rel hix)
        · have hgood' : ∀ p ∈ placed ++ [i], NoCycleFrom deps p := by
            intro p hp
            rcases List.mem_append.1 hp with hp | hp
            · exact hgood p hp
            · exact List.mem_singleton.1 hp ▸ noCycleFrom_of_ready hgood hready
          refine List.cons_le_cons i ?_
          exact @added_le_of_noCycleFrom fuel (placed ++ [i]) rest added' hgood'
            (by simpa using hnodup) (fun y hy => hlt y (List.mem_cons_of_mem _ hy))
            (by simpa using hall) (by simpa using hfirst) (by rw [← hadded', ← hstep, hrun])
      · exact absurd hxready (hnone x (hlt x List.mem_cons_self))

/-- Placement from nothing gives the lexicographically least order of the positions below `n`
that reach no cycle, among those that put dependencies first. -/
theorem placeReady_le_of_noCycleFrom (fuel : Nat) {order : List Nat} (hnodup : order.Nodup)
    (hmem : ∀ i, i ∈ order ↔ i < n ∧ NoCycleFrom deps i) (hfirst : DepsFirst deps order) :
    placeReady n deps fuel [] ≤ order := by
  obtain ⟨added, hadded⟩ := placeReady_eq_append n deps fuel []
  rw [hadded]
  exact added_le_of_noCycleFrom fuel (fun _ h => absurd h List.not_mem_nil) (by simpa using hnodup)
    (fun x hx => ((hmem x).1 hx).1) (fun i hi hgood => by simpa using (hmem i).2 ⟨hi, hgood⟩)
    (by simpa using hfirst) hadded

/-- Placement from nothing gives the lexicographically least order of the positions below `n`
that puts dependencies first. -/
theorem placeReady_le (fuel : Nat) {order : List Nat} (hnodup : order.Nodup)
    (hmem : ∀ i, i ∈ order ↔ i < n) (hfirst : DepsFirst deps order) :
    placeReady n deps fuel [] ≤ order := by
  refine placeReady_le_of_noCycleFrom fuel hnodup (fun i => ⟨fun hi => ?_, fun hi => ?_⟩) hfirst
  · exact ⟨(hmem i).1 hi, hfirst.noCycleFrom hnodup hi⟩
  · exact (hmem i).2 hi.1

end DependencyGraph

end EntitySchema
