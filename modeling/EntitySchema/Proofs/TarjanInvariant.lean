import Mathlib.Data.List.Sort
import Mathlib.Data.Finset.Card
import Mathlib.Logic.Relation
import EntitySchema.Schema.Tarjan

/-!
# The invariant of Tarjan's search

Between its steps the search keeps one invariant, `Inv`, relative to the positions whose visit is
under way (the grays, innermost first). Its parts are the usual ones:

* the stack holds the visited positions not yet in a component, ordered by index, each reaching
  every position above it and reaching some gray position at or below it;
* the lowlink of a position on the stack is at most its index and is the index of a position on
  the stack that it reaches;
* the components found are strongly connected components, pairwise disjoint, and no edge leaves
  their union; a visited position that is not gray has all its successors visited.

Each operation of the search keeps it: entering a position (`Inv.enter`), lowering a lowlink
(`Inv.lower`), finishing a visit without a component (`Inv.finish`), and popping a component at
its root (`Inv.emit`). The last needs one fact the invariant does not hold, that nothing at or above
the root on the stack reaches below it; the search establishes it from the lowlink.
-/

namespace EntitySchema.Tarjan

/-! ## Reachability -/

/-- Reachability along the successor lists, by zero or more edges. -/
def Reach (succ : Nat → List Nat) (a b : Nat) : Prop :=
  Relation.ReflTransGen (fun x y => y ∈ succ x) a b

namespace Reach

variable {succ : Nat → List Nat} {a b c : Nat}

theorem refl (a : Nat) : Reach succ a a := Relation.ReflTransGen.refl

theorem trans (hab : Reach succ a b) (hbc : Reach succ b c) : Reach succ a c :=
  Relation.ReflTransGen.trans hab hbc

theorem edge (h : b ∈ succ a) : Reach succ a b := Relation.ReflTransGen.single h

theorem head (h : b ∈ succ a) (hbc : Reach succ b c) : Reach succ a c :=
  Relation.ReflTransGen.head h hbc

end Reach

/-! ## Sorting and popping -/

section Sorting

variable {α : Type} (le : α → α → Bool)

theorem insertBy_eq_orderedInsert (a : α) :
    ∀ l, insertBy le a l = l.orderedInsert (fun x y => le x y = true) a
  | [] => rfl
  | b :: l => by
    rw [insertBy, List.orderedInsert_cons, insertBy_eq_orderedInsert a l]

theorem sortBy_eq_insertionSort (l : List α) :
    sortBy le l = l.insertionSort (fun x y => le x y = true) := by
  induction l with
  | nil => rfl
  | cons a l ih => rw [sortBy, List.foldr_cons, ← sortBy, ih, insertBy_eq_orderedInsert,
      List.insertionSort_cons]

theorem perm_sortBy (l : List α) : (sortBy le l).Perm l := by
  rw [sortBy_eq_insertionSort]
  exact List.perm_insertionSort _ l

theorem mem_sortBy {l : List α} {a : α} : a ∈ sortBy le l ↔ a ∈ l := (perm_sortBy le l).mem_iff

theorem pairwise_sortBy (htotal : ∀ x y, le x y = true ∨ le y x = true)
    (htrans : ∀ x y z, le x y = true → le y z = true → le x z = true) (l : List α) :
    (sortBy le l).Pairwise fun x y => le x y = true := by
  have : Std.Total fun x y => le x y = true := ⟨htotal⟩
  have : IsTrans α fun x y => le x y = true := ⟨htrans⟩
  rw [sortBy_eq_insertionSort]
  exact List.pairwise_insertionSort _ l

end Sorting

theorem pairwise_lt_sortBy {l : List Nat} (hl : l.Nodup) :
    (sortBy (fun a b => decide (a ≤ b)) l).Pairwise (· < ·) := by
  have hle := pairwise_sortBy (fun a b => decide (a ≤ b))
    (fun x y => by simpa using Nat.le_total x y)
    (fun x y z hxy hyz => by simpa using Nat.le_trans (by simpa using hxy) (by simpa using hyz)) l
  have hnodup : (sortBy (fun a b => decide (a ≤ b)) l).Nodup := (perm_sortBy _ l).nodup_iff.2 hl
  refine (hle.and hnodup).imp fun h => ?_
  simp only [decide_eq_true_eq] at h
  exact Nat.lt_of_le_of_ne h.1 h.2

theorem popTo_append {v : Nat} (S : List Nat) :
    ∀ {X : List Nat}, v ∉ X → popTo v (X ++ v :: S) = (X ++ [v], S)
  | [], _ => by simp [popTo]
  | x :: X, hv => by
    have hxv : x ≠ v := fun h => hv (h ▸ List.mem_cons_self)
    have ih := popTo_append S (fun h => hv (List.mem_cons_of_mem x h))
    simp [popTo, hxv, ih]

/-! ## States -/

namespace State

variable (s : State) (v w : Nat)

def Visited : Prop := s.index v ≠ none

def num : Nat := (s.index v).getD 0

def Done : Prop := ∃ c ∈ s.components, v ∈ c

def unvisited (n : Nat) : Finset Nat := (Finset.range n).filter fun v => s.index v = none

variable {s v w}

theorem visited_of_index {k : Nat} (h : s.index v = some k) : s.Visited v := by
  simp [Visited, h]

theorem num_of_index {k : Nat} (h : s.index v = some k) : s.num v = k := by
  simp [num, h]

theorem index_of_visited (h : s.Visited v) : s.index v = some (s.num v) := by
  unfold Visited at h
  unfold num
  obtain ⟨k, hk⟩ := Option.ne_none_iff_exists'.1 h
  simp [hk]

variable (s v w)

@[simp] theorem enter_stack : (s.enter v).stack = v :: s.stack := rfl

@[simp] theorem enter_counter : (s.enter v).counter = s.counter + 1 := rfl

@[simp] theorem enter_components : (s.enter v).components = s.components := rfl

theorem enter_index : (s.enter v).index w = if w = v then some s.counter else s.index w := rfl

theorem enter_lowlink : (s.enter v).lowlink w = if w = v then s.counter else s.lowlink w := rfl

theorem enter_onStack : (s.enter v).onStack w = if w = v then true else s.onStack w := rfl

@[simp] theorem enter_index_self : (s.enter v).index v = some s.counter := by simp [enter_index]

@[simp] theorem enter_lowlink_self : (s.enter v).lowlink v = s.counter := by simp [enter_lowlink]

theorem visited_enter : (s.enter v).Visited w ↔ w = v ∨ s.Visited w := by
  by_cases h : w = v <;> simp [Visited, enter_index, h]

@[simp] theorem num_enter_self : (s.enter v).num v = s.counter := by simp [num]

theorem num_enter_of_ne {v w : Nat} (h : w ≠ v) : (s.enter v).num w = s.num w := by
  simp [num, enter_index, h]

theorem lowlink_enter_of_ne {v w : Nat} (h : w ≠ v) : (s.enter v).lowlink w = s.lowlink w := by
  simp [enter_lowlink, h]

@[simp] theorem done_enter : (s.enter v).Done w ↔ s.Done w := Iff.rfl

variable (k : Nat)

@[simp] theorem lower_index : (s.lower v k).index = s.index := rfl

@[simp] theorem lower_onStack : (s.lower v k).onStack = s.onStack := rfl

@[simp] theorem lower_stack : (s.lower v k).stack = s.stack := rfl

@[simp] theorem lower_counter : (s.lower v k).counter = s.counter := rfl

@[simp] theorem lower_components : (s.lower v k).components = s.components := rfl

theorem lower_lowlink : (s.lower v k).lowlink w = if w = v then min (s.lowlink v) k
    else s.lowlink w := rfl

@[simp] theorem visited_lower : (s.lower v k).Visited = s.Visited := rfl

@[simp] theorem num_lower : (s.lower v k).num = s.num := rfl

@[simp] theorem done_lower : (s.lower v k).Done = s.Done := rfl

@[simp] theorem emit_index : (s.emit v).index = s.index := rfl

@[simp] theorem emit_lowlink : (s.emit v).lowlink = s.lowlink := rfl

@[simp] theorem emit_counter : (s.emit v).counter = s.counter := rfl

@[simp] theorem emit_stack : (s.emit v).stack = (popTo v s.stack).2 := rfl

@[simp] theorem emit_components : (s.emit v).components =
    s.components ++ [sortBy (fun a b => decide (a ≤ b)) (popTo v s.stack).1] := rfl

theorem emit_onStack : (s.emit v).onStack w = (s.onStack w && !(popTo v s.stack).1.contains w) :=
  rfl

@[simp] theorem visited_emit : (s.emit v).Visited = s.Visited := rfl

@[simp] theorem num_emit : (s.emit v).num = s.num := rfl

end State

/-- Popping a stack ordered by `f`, highest on top, down to `p` takes the positions at or above
`p` and leaves those below. -/
theorem popTo_of_sorted {f : Nat → Nat} {st : List Nat} (hst : st.Pairwise fun a b => f b < f a)
    {p : Nat} (hp : p ∈ st) :
    (∀ w, w ∈ (popTo p st).1 ↔ w ∈ st ∧ f p ≤ f w) ∧
      (∀ w, w ∈ (popTo p st).2 ↔ w ∈ st ∧ f w < f p) ∧ (popTo p st).1 ++ (popTo p st).2 = st := by
  obtain ⟨X, S, rfl⟩ := List.append_of_mem hp
  have hsplit := List.pairwise_append.1 hst
  have habove : ∀ x ∈ X, f p < f x := fun x hx => hsplit.2.2 x hx p List.mem_cons_self
  have hbelow : ∀ y ∈ S, f y < f p := (List.pairwise_cons.1 hsplit.2.1).1
  have hpX : p ∉ X := fun h => Nat.lt_irrefl _ (habove p h)
  rw [popTo_append S hpX]
  refine ⟨fun w => ?_, fun w => ?_, by simp⟩
  · simp only [List.mem_append, List.mem_cons, List.not_mem_nil, or_false]
    constructor
    · rintro (hw | rfl)
      · exact ⟨.inl hw, Nat.le_of_lt (habove w hw)⟩
      · exact ⟨.inr (.inl rfl), Nat.le_refl _⟩
    · rintro ⟨hw | rfl | hw, hle⟩
      · exact .inl hw
      · exact .inr rfl
      · exact absurd hle (Nat.not_le_of_lt (hbelow w hw))
  · simp only [List.mem_append, List.mem_cons]
    constructor
    · intro hw
      exact ⟨.inr (.inr hw), hbelow w hw⟩
    · rintro ⟨hw | rfl | hw, hlt⟩
      · exact absurd (habove w hw) (Nat.lt_asymm hlt)
      · exact absurd hlt (Nat.lt_irrefl _)
      · exact hw

/-! ## The invariant -/

variable {n : Nat} {succ : Nat → List Nat}

/-- A strongly connected component as the search records it: nonempty, sorted, and holding exactly
the positions below `n` that reach one of its members and are reached back. -/
structure IsComponent (n : Nat) (succ : Nat → List Nat) (c : List Nat) : Prop where
  ne_nil : c ≠ []
  sorted : c.Pairwise (· < ·)
  mem_iff : ∀ v ∈ c, ∀ w, w ∈ c ↔ w < n ∧ Reach succ v w ∧ Reach succ w v

/-- The invariant of the search over the positions below `n`, while the visits of the positions
`G` are under way, innermost first. -/
structure Inv (n : Nat) (succ : Nat → List Nat) (G : List Nat) (s : State) : Prop where
  visited_lt : ∀ v, s.Visited v → v < n
  index_lt : ∀ v k, s.index v = some k → k < s.counter
  index_inj : ∀ v w k, s.index v = some k → s.index w = some k → v = w
  counter_add : s.counter + (s.unvisited n).card = n
  onStack_iff : ∀ v, s.onStack v = true ↔ v ∈ s.stack
  stack_visited : ∀ v ∈ s.stack, s.Visited v
  stack_sorted : s.stack.Pairwise fun a b => s.num b < s.num a
  grays_mem : ∀ g ∈ G, g ∈ s.stack
  grays_sorted : G.Pairwise fun a b => s.num b < s.num a
  done_iff : ∀ v, s.Done v ↔ s.Visited v ∧ v ∉ s.stack
  found : ∀ c ∈ s.components, IsComponent n succ c
  disjoint : s.components.Pairwise fun c d => ∀ x ∈ c, x ∉ d
  done_closed : ∀ v w, s.Done v → w ∈ succ v → s.Done w
  black_closed : ∀ v, s.Visited v → v ∉ G → ∀ w ∈ succ v, s.Visited w
  stack_reach : ∀ x ∈ s.stack, ∀ y ∈ s.stack, s.num x ≤ s.num y → Reach succ x y
  stack_gray : ∀ y ∈ s.stack, ∃ x ∈ G, s.num x ≤ s.num y ∧ Reach succ y x
  lowlink_le : ∀ y ∈ s.stack, s.lowlink y ≤ s.num y
  lowlink_reach : ∀ y ∈ s.stack, ∃ z ∈ s.stack, s.num z = s.lowlink y ∧ Reach succ y z

namespace Inv

variable {G : List Nat} {s : State}

theorem num_lt (h : Inv n succ G s) {v : Nat} (hv : s.Visited v) : s.num v < s.counter :=
  h.index_lt v _ (State.index_of_visited hv)

theorem stack_nodup (h : Inv n succ G s) : s.stack.Nodup := by
  refine h.stack_sorted.imp ?_
  intro a b hab heq
  subst heq
  exact Nat.lt_irrefl _ hab

theorem counter_lt (h : Inv n succ G s) {v : Nat} (hv : ¬ s.Visited v) (hvn : v < n) :
    s.counter < n := by
  have hmem : v ∈ s.unvisited n := by
    simpa [State.unvisited, hvn, State.Visited] using hv
  have hpos := Finset.card_pos.2 ⟨v, hmem⟩
  have := h.counter_add
  omega

theorem init (n : Nat) (succ : Nat → List Nat) : Inv n succ [] .init where
  visited_lt _ hv := absurd rfl hv
  index_lt _ _ h := by cases h
  index_inj _ _ _ h := by cases h
  counter_add := by simp [State.unvisited, State.init]
  onStack_iff _ := by simp [State.init]
  stack_visited _ hv := by cases hv
  stack_sorted := .nil
  grays_mem _ hg := by cases hg
  grays_sorted := .nil
  done_iff _ := by
    constructor
    · rintro ⟨_, hc, _⟩
      cases hc
    · rintro ⟨hv, _⟩
      exact absurd rfl hv
  found _ hc := by cases hc
  disjoint := .nil
  done_closed _ _ hv := by obtain ⟨_, hc, _⟩ := hv; cases hc
  black_closed _ hv := absurd rfl hv
  stack_reach _ hx := by cases hx
  stack_gray _ hy := by cases hy
  lowlink_le _ hy := by cases hy
  lowlink_reach _ hy := by cases hy

/-! ### Entering a position -/

theorem unvisited_enter {v : Nat} (hv : s.index v = none) (hvn : v < n) :
    (s.enter v).unvisited n = (s.unvisited n).erase v ∧ v ∈ s.unvisited n := by
  refine ⟨?_, by simpa [State.unvisited] using ⟨hvn, hv⟩⟩
  ext w
  rw [Finset.mem_erase]
  simp only [State.unvisited, Finset.mem_filter, Finset.mem_range]
  rw [State.enter_index]
  by_cases hw : w = v
  · simp [hw]
  · simp [hw]

/-- Entering an unvisited position that every gray position reaches makes it the innermost gray
position. -/
theorem enter (h : Inv n succ G s) {v : Nat} (hv : ¬ s.Visited v) (hvn : v < n)
    (hG : ∀ g ∈ G, Reach succ g v) : Inv n succ (v :: G) (s.enter v) := by
  have hne : ∀ w ∈ s.stack, w ≠ v := fun w hw hwv => hv (hwv ▸ h.stack_visited w hw)
  have hnum : ∀ w ∈ s.stack, (s.enter v).num w = s.num w :=
    fun w hw => State.num_enter_of_ne s (hne w hw)
  have hlt : ∀ w ∈ s.stack, s.num w < s.counter := fun w hw => h.num_lt (h.stack_visited w hw)
  have hvnone : s.index v = none := by simpa [State.Visited] using hv
  refine
    { visited_lt := ?visited_lt, index_lt := ?index_lt, index_inj := ?index_inj, counter_add := ?counter_add, onStack_iff := ?onStack_iff,
      stack_visited := ?stack_visited, stack_sorted := ?stack_sorted, grays_mem := ?grays_mem, grays_sorted := ?grays_sorted,
      done_iff := ?done_iff, found := h.found, disjoint := h.disjoint, done_closed := h.done_closed,
      black_closed := ?black_closed, stack_reach := ?stack_reach, stack_gray := ?stack_gray, lowlink_le := ?lowlink_le,
      lowlink_reach := ?lowlink_reach }
  case visited_lt =>
    intro w hw
    rcases (State.visited_enter s v w).1 hw with rfl | hw
    · exact hvn
    · exact h.visited_lt w hw
  case index_lt =>
    intro w k hk
    rw [State.enter_index] at hk
    split at hk
    · cases hk
      exact Nat.lt_succ_self _
    · exact Nat.lt_succ_of_lt (h.index_lt w k hk)
  case index_inj =>
    intro w₁ w₂ k h₁ h₂
    rw [State.enter_index] at h₁ h₂
    split at h₁ <;> split at h₂
    · subst_vars
      rfl
    · cases h₁
      exact absurd (h.index_lt _ _ h₂) (Nat.lt_irrefl _)
    · cases h₂
      exact absurd (h.index_lt _ _ h₁) (Nat.lt_irrefl _)
    · exact h.index_inj w₁ w₂ k h₁ h₂
  case counter_add =>
    obtain ⟨heq, hmem⟩ := unvisited_enter hvnone hvn
    rw [heq, Finset.card_erase_of_mem hmem, State.enter_counter]
    have hpos := Finset.card_pos.2 ⟨v, hmem⟩
    have := h.counter_add
    omega
  case onStack_iff =>
    intro w
    rw [State.enter_onStack, State.enter_stack, List.mem_cons]
    split
    · simp [*]
    · rw [h.onStack_iff]
      simp [*]
  case stack_visited =>
    intro w hw
    rw [State.visited_enter]
    rcases List.mem_cons.1 hw with rfl | hw
    · exact .inl rfl
    · exact .inr (h.stack_visited w hw)
  case stack_sorted =>
    refine List.pairwise_cons.2 ⟨fun b hb => ?_, h.stack_sorted.imp_of_mem ?_⟩
    · rw [hnum b hb, State.num_enter_self]
      exact hlt b hb
    · intro a b ha hb hab
      rw [hnum a ha, hnum b hb]
      exact hab
  case grays_mem =>
    intro g hg
    rcases List.mem_cons.1 hg with rfl | hg
    · exact List.mem_cons_self
    · exact List.mem_cons_of_mem _ (h.grays_mem g hg)
  case grays_sorted =>
    refine List.pairwise_cons.2 ⟨fun g hg => ?_, h.grays_sorted.imp_of_mem ?_⟩
    · rw [hnum g (h.grays_mem g hg), State.num_enter_self]
      exact hlt g (h.grays_mem g hg)
    · intro a b ha hb hab
      rw [hnum a (h.grays_mem a ha), hnum b (h.grays_mem b hb)]
      exact hab
  case done_iff =>
    intro w
    rw [State.done_enter, h.done_iff, State.visited_enter, State.enter_stack, List.mem_cons]
    constructor
    · rintro ⟨hw, hns⟩
      exact ⟨.inr hw, fun h' => h'.elim (fun hwv => hv (hwv ▸ hw)) hns⟩
    · rintro ⟨hw | hw, hns⟩
      · exact absurd (.inl hw) hns
      · exact ⟨hw, fun h' => hns (.inr h')⟩
  case black_closed =>
    intro w hw hwG x hx
    rw [List.mem_cons, not_or] at hwG
    rcases (State.visited_enter s v w).1 hw with hwv | hw
    · exact absurd hwv hwG.1
    · exact (State.visited_enter s v x).2 (.inr (h.black_closed w hw hwG.2 x hx))
  case stack_reach =>
    intro x hx y hy hxy
    rcases List.mem_cons.1 hx with rfl | hxS <;> rcases List.mem_cons.1 hy with rfl | hyS
    · exact .refl _
    · rw [State.num_enter_self, hnum y hyS] at hxy
      exact absurd (hlt y hyS) (Nat.not_lt_of_le hxy)
    · obtain ⟨g, hg, -, hxg⟩ := h.stack_gray x hxS
      exact hxg.trans (hG g hg)
    · rw [hnum x hxS, hnum y hyS] at hxy
      exact h.stack_reach x hxS y hyS hxy
  case stack_gray =>
    intro y hy
    rcases List.mem_cons.1 hy with rfl | hy
    · exact ⟨y, List.mem_cons_self, Nat.le_refl _, .refl _⟩
    · obtain ⟨g, hg, hle, hyg⟩ := h.stack_gray y hy
      refine ⟨g, List.mem_cons_of_mem _ hg, ?_, hyg⟩
      rw [hnum g (h.grays_mem g hg), hnum y hy]
      exact hle
  case lowlink_le =>
    intro y hy
    rcases List.mem_cons.1 hy with rfl | hy
    · simp
    · rw [State.lowlink_enter_of_ne s (hne y hy), hnum y hy]
      exact h.lowlink_le y hy
  case lowlink_reach =>
    intro y hy
    rcases List.mem_cons.1 hy with rfl | hy
    · exact ⟨y, List.mem_cons_self, by simp, .refl _⟩
    · obtain ⟨z, hz, hzl, hyz⟩ := h.lowlink_reach y hy
      refine ⟨z, List.mem_cons_of_mem _ hz, ?_, hyz⟩
      rw [hnum z hz, State.lowlink_enter_of_ne s (hne y hy)]
      exact hzl

/-! ### Lowering a lowlink -/

/-- Lowering the lowlink of a position on the stack keeps the invariant when the bound is the
index of a position on the stack that it reaches, or is no lower than the lowlink already. -/
theorem lower (h : Inv n succ G s) {v k : Nat}
    (hk : s.lowlink v ≤ k ∨ ∃ z ∈ s.stack, s.num z = k ∧ Reach succ v z) :
    Inv n succ G (s.lower v k) :=
  { h with
    lowlink_le := fun y hy => by
      rw [State.lower_lowlink]
      split
      · subst_vars
        exact Nat.le_trans (Nat.min_le_left _ _) (h.lowlink_le _ hy)
      · exact h.lowlink_le y hy
    lowlink_reach := fun y hy => by
      rw [State.lower_lowlink]
      split
      · subst_vars
        rcases Nat.le_total (s.lowlink y) k with hle | hle
        · rw [Nat.min_eq_left hle]
          exact h.lowlink_reach y hy
        · rw [Nat.min_eq_right hle]
          rcases hk with hk | hk
          · rw [Nat.le_antisymm hle hk]
            exact h.lowlink_reach y hy
          · exact hk
      · exact h.lowlink_reach y hy }

/-! ### Finishing a visit -/

/-- Once the innermost gray position `p` has all its edges followed, every visited position that
is not among the older gray ones has its successors visited. -/
theorem black_closed_pop (h : Inv n succ (p :: G) s) (hall : ∀ w ∈ succ p, s.Visited w) :
    ∀ v, s.Visited v → v ∉ G → ∀ w ∈ succ v, s.Visited w := by
  intro v hv hvG w hw
  by_cases hvp : v = p
  · subst hvp
    exact hall w hw
  · exact h.black_closed v hv (by simp [hvp, hvG]) w hw

/-- In the same state, a position at or above `p` on the stack has its successors visited: the
older gray positions all sit below `p`. -/
theorem visited_succ_of_above (h : Inv n succ (p :: G) s) (hall : ∀ w ∈ succ p, s.Visited w)
    {w : Nat} (hw : w ∈ s.stack) (hle : s.num p ≤ s.num w) : ∀ x ∈ succ w, s.Visited x := by
  have hGlt : ∀ g ∈ G, s.num g < s.num p := (List.pairwise_cons.1 h.grays_sorted).1
  exact h.black_closed_pop hall w (h.stack_visited w hw) fun hg => Nat.not_le_of_lt (hGlt w hg) hle

/-- A visit that ends with its lowlink below its index leaves the position on the stack, and the
position stops being gray: it reaches a lower position on the stack, which reaches an older gray
one. -/
theorem finish (h : Inv n succ (p :: G) s) (hp : p ∈ s.stack) (hall : ∀ w ∈ succ p, s.Visited w)
    (hlt : s.lowlink p < s.num p) : Inv n succ G s :=
  { h with
    grays_mem := fun g hg => h.grays_mem g (List.mem_cons_of_mem p hg)
    grays_sorted := (List.pairwise_cons.1 h.grays_sorted).2
    black_closed := h.black_closed_pop hall
    stack_gray := fun y hy => by
      obtain ⟨x, hx, hxy, hyx⟩ := h.stack_gray y hy
      rcases List.mem_cons.1 hx with rfl | hx
      · obtain ⟨z, hz, hzl, hxz⟩ := h.lowlink_reach x hp
        obtain ⟨x', hx', hx'z, hzx'⟩ := h.stack_gray z hz
        rcases List.mem_cons.1 hx' with rfl | hx'
        · omega
        · exact ⟨x', hx', by omega, hyx.trans (hxz.trans hzx')⟩
      · exact ⟨x, hx, hxy, hyx⟩ }

/-! ### Popping a component -/

theorem done_emit (p w : Nat) : (s.emit p).Done w ↔ s.Done w ∨ w ∈ (popTo p s.stack).1 := by
  simp only [State.Done, State.emit_components, List.mem_append, List.mem_singleton]
  constructor
  · rintro ⟨c, hc | rfl, hwc⟩
    · exact .inl ⟨c, hc, hwc⟩
    · exact .inr ((mem_sortBy _).1 hwc)
  · rintro (⟨c, hc, hwc⟩ | hwC)
    · exact ⟨c, .inl hc, hwc⟩
    · exact ⟨_, .inr rfl, (mem_sortBy _).2 hwC⟩

/-- What a root reaches, when nothing at or above it on the stack reaches below it, is visited and
not below it. -/
theorem visited_of_reach (h : Inv n succ (p :: G) s) (hp : p ∈ s.stack)
    (hall : ∀ w ∈ succ p, s.Visited w)
    (hsep : ∀ w ∈ s.stack, s.num p ≤ s.num w → ∀ b ∈ s.stack, s.num b < s.num p →
      ¬ Reach succ w b) {w : Nat} (hw : Reach succ p w) :
    s.Visited w ∧ ¬ (w ∈ s.stack ∧ s.num w < s.num p) := by
  change Relation.ReflTransGen _ p w at hw
  induction hw with
  | refl => exact ⟨h.stack_visited p hp, fun hb => Nat.lt_irrefl _ hb.2⟩
  | @tail x w hpx hxw ih =>
    have hw : s.Visited w := by
      by_cases hxs : x ∈ s.stack
      · exact h.visited_succ_of_above hall hxs (Nat.le_of_not_lt fun hlt => ih.2 ⟨hxs, hlt⟩) w hxw
      · exact ((h.done_iff w).1 (h.done_closed x w ((h.done_iff x).2 ⟨ih.1, hxs⟩) hxw)).1
    exact ⟨hw, fun hb => hsep p hp (Nat.le_refl _) w hb.1 hb.2 (Relation.ReflTransGen.tail hpx hxw)⟩

/-- At a root `p` whose edges are all followed, with nothing at or above `p` on the stack reaching
below it, the positions at or above `p` are exactly those linked with `p`: popping them records a
component, and the invariant holds with `p` no longer gray. -/
theorem emit (h : Inv n succ (p :: G) s) (hp : p ∈ s.stack) (hall : ∀ w ∈ succ p, s.Visited w)
    (hsep : ∀ w ∈ s.stack, s.num p ≤ s.num w → ∀ b ∈ s.stack, s.num b < s.num p →
      ¬ Reach succ w b) :
    Inv n succ G (s.emit p) := by
  obtain ⟨hC, hS, happ⟩ := popTo_of_sorted h.stack_sorted hp
  have hGlt : ∀ g ∈ G, s.num g < s.num p := (List.pairwise_cons.1 h.grays_sorted).1
  have hSsub := List.sublist_append_right (popTo p s.stack).1 (popTo p s.stack).2
  rw [happ] at hSsub
  have hlinked : ∀ w, Reach succ p w → Reach succ w p → w ∈ (popTo p s.stack).1 := by
    intro w hpw hwp
    obtain ⟨hvis, hnb⟩ := h.visited_of_reach hp hall hsep hpw
    have hws : w ∈ s.stack := by
      by_contra hns
      obtain ⟨c, hc, hwc⟩ := (h.done_iff w).2 ⟨hvis, hns⟩
      have hpc : p ∈ c := ((h.found c hc).mem_iff w hwc p).2
        ⟨h.visited_lt p (h.stack_visited p hp), hwp, hpw⟩
      exact ((h.done_iff p).1 ⟨c, hc, hpc⟩).2 hp
    exact (hC w).2 ⟨hws, Nat.le_of_not_lt fun hlt => hnb ⟨hws, hlt⟩⟩
  have hmemC : ∀ w ∈ (popTo p s.stack).1, Reach succ p w ∧ Reach succ w p := by
    intro w hw
    obtain ⟨hws, hle⟩ := (hC w).1 hw
    refine ⟨h.stack_reach p hp w hws hle, ?_⟩
    obtain ⟨x, hx, -, hwx⟩ := h.stack_gray w hws
    rcases List.mem_cons.1 hx with rfl | hx
    · exact hwx
    · exact absurd hwx (hsep w hws hle x (h.grays_mem x (List.mem_cons_of_mem _ hx)) (hGlt x hx))
  have hcomp : IsComponent n succ (sortBy (fun a b => decide (a ≤ b)) (popTo p s.stack).1) := by
    have hnodup : (popTo p s.stack).1.Nodup := by
      have hst := h.stack_nodup
      rw [← happ] at hst
      exact hst.of_append_left
    refine ⟨List.ne_nil_of_mem ((mem_sortBy _).2 ((hC p).2 ⟨hp, Nat.le_refl _⟩)),
      pairwise_lt_sortBy hnodup, fun v hv w => ?_⟩
    rw [mem_sortBy] at hv ⊢
    obtain ⟨hpv, hvp⟩ := hmemC v hv
    constructor
    · intro hw
      obtain ⟨hpw, hwp⟩ := hmemC w hw
      exact ⟨h.visited_lt w (h.stack_visited w ((hC w).1 hw).1), hvp.trans hpw, hwp.trans hpv⟩
    · rintro ⟨-, hvw, hwv⟩
      exact hlinked w (hpv.trans hvw) (hwv.trans hvp)
  refine
    { visited_lt := h.visited_lt, index_lt := h.index_lt, index_inj := h.index_inj,
      counter_add := h.counter_add, onStack_iff := ?onStack_iff,
      stack_visited := fun w hw => h.stack_visited w ((hS w).1 hw).1,
      stack_sorted := h.stack_sorted.sublist hSsub,
      grays_mem := fun g hg => (hS g).2 ⟨h.grays_mem g (List.mem_cons_of_mem _ hg), hGlt g hg⟩,
      grays_sorted := (List.pairwise_cons.1 h.grays_sorted).2, done_iff := ?done_iff,
      found := ?found, disjoint := ?disjoint, done_closed := ?done_closed,
      black_closed := ?black_closed,
      stack_reach := fun x hx y hy hxy => h.stack_reach x ((hS x).1 hx).1 y ((hS y).1 hy).1 hxy,
      stack_gray := ?stack_gray, lowlink_le := fun y hy => h.lowlink_le y ((hS y).1 hy).1,
      lowlink_reach := ?lowlink_reach }
  case onStack_iff =>
    intro w
    rw [State.emit_onStack, State.emit_stack, hS w, Bool.and_eq_true, h.onStack_iff,
      Bool.not_eq_true', Bool.eq_false_iff, ne_eq, List.contains_iff_mem]
    constructor
    · rintro ⟨hws, hwC⟩
      exact ⟨hws, Nat.lt_of_not_le fun hle => hwC ((hC w).2 ⟨hws, hle⟩)⟩
    · rintro ⟨hws, hlt⟩
      exact ⟨hws, fun hwC => Nat.not_le_of_lt hlt ((hC w).1 hwC).2⟩
  case done_iff =>
    intro w
    rw [done_emit, h.done_iff, State.visited_emit, State.emit_stack, hS w, hC w]
    constructor
    · rintro (⟨hv, hns⟩ | ⟨hws, hle⟩)
      · exact ⟨hv, fun hb => hns hb.1⟩
      · exact ⟨h.stack_visited w hws, fun hb => Nat.not_le_of_lt hb.2 hle⟩
    · rintro ⟨hv, hnb⟩
      by_cases hws : w ∈ s.stack
      · exact .inr ⟨hws, Nat.le_of_not_lt fun hlt => hnb ⟨hws, hlt⟩⟩
      · exact .inl ⟨hv, hws⟩
  case found =>
    intro c hc
    rw [State.emit_components, List.mem_append, List.mem_singleton] at hc
    rcases hc with hc | rfl
    · exact h.found c hc
    · exact hcomp
  case disjoint =>
    rw [State.emit_components, List.pairwise_append]
    refine ⟨h.disjoint, List.pairwise_singleton _ _, fun c hc d hd x hxc hxd => ?_⟩
    rw [List.mem_singleton] at hd
    subst hd
    rw [mem_sortBy] at hxd
    exact ((h.done_iff x).1 ⟨c, hc, hxc⟩).2 ((hC x).1 hxd).1
  case done_closed =>
    intro v w hv hw
    rw [done_emit] at hv ⊢
    rcases hv with hv | hvC
    · exact .inl (h.done_closed v w hv hw)
    · obtain ⟨hvs, hle⟩ := (hC v).1 hvC
      have hwv := h.visited_succ_of_above hall hvs hle w hw
      by_cases hws : w ∈ s.stack
      · by_cases hle' : s.num p ≤ s.num w
        · exact .inr ((hC w).2 ⟨hws, hle'⟩)
        · exact absurd (Reach.edge hw) (hsep v hvs hle w hws (Nat.lt_of_not_le hle'))
      · exact .inl ((h.done_iff w).2 ⟨hwv, hws⟩)
  case black_closed => exact h.black_closed_pop hall
  case stack_gray =>
    intro y hy
    obtain ⟨hys, hylt⟩ := (hS y).1 hy
    obtain ⟨x, hx, hxy, hyx⟩ := h.stack_gray y hys
    rcases List.mem_cons.1 hx with rfl | hx
    · exact absurd hylt (Nat.not_lt_of_le hxy)
    · exact ⟨x, hx, hxy, hyx⟩
  case lowlink_reach =>
    intro y hy
    obtain ⟨hys, hylt⟩ := (hS y).1 hy
    obtain ⟨z, hz, hzl, hyz⟩ := h.lowlink_reach y hys
    have hle := h.lowlink_le y hys
    exact ⟨z, (hS z).2 ⟨hz, by omega⟩, hzl, hyz⟩

end Inv

end EntitySchema.Tarjan
