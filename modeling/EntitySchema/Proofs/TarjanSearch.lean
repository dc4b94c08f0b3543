import EntitySchema.Proofs.TarjanInvariant

/-!
# Tarjan's search visits every position once and finds the components

A visit of an unvisited position `v` is specified by what it guarantees of the state it returns
(`Visits`): the invariant, with the same grays; a frame (`Ext`) that keeps the indices and lowlinks
of what was visited before, the stack below and the components found; and a bound on the lowlink
of `v` by every position of the old stack that an edge from a newly visited position reaches.
That bound is what makes a root a root: when the lowlink of `v` is still its index, nothing pushed
since `v` reaches below it (`Loop.separate`), which is the fact popping the component needs.

The visit is proved by induction on its fuel, with one lemma for the loop over the edges of `v`
(`Loop.edge`). The fuel never runs out: a call is only made on an unvisited position, and the
counter plus the number of unvisited positions is the number of positions. The search from every
position then leaves every position visited, each with its own index below `n`, the stack empty
and every position in exactly one component (`run_visits_once`, `components_spec`).
-/

namespace EntitySchema.Tarjan

variable {n : Nat} {succ : Nat → List Nat}

/-! ## What a visit keeps -/

/-- A state `t` reached from `s` keeps the indices and the lowlinks of the positions visited in
`s`, the stack of `s` below what it pushed, and the components of `s`. -/
structure Ext (s t : State) : Prop where
  index_eq : ∀ v k, s.index v = some k → t.index v = some k
  lowlink_eq : ∀ v, s.Visited v → t.lowlink v = s.lowlink v
  stack_eq : ∃ X, t.stack = X ++ s.stack
  components_prefix : s.components <+: t.components
  counter_le : s.counter ≤ t.counter
  index_new : ∀ v k, ¬ s.Visited v → t.index v = some k → s.counter ≤ k

namespace Ext

variable {s t u : State}

theorem refl (s : State) : Ext s s :=
  ⟨fun _ _ h => h, fun _ _ => rfl, ⟨[], rfl⟩, List.prefix_refl _, Nat.le_refl _,
    fun _ _ hv h => absurd (State.visited_of_index h) hv⟩

theorem trans (hst : Ext s t) (htu : Ext t u) : Ext s u where
  index_eq v k h := htu.index_eq v k (hst.index_eq v k h)
  lowlink_eq v hv := by
    rw [htu.lowlink_eq v (State.visited_of_index (hst.index_eq v _ (State.index_of_visited hv))),
      hst.lowlink_eq v hv]
  stack_eq := by
    obtain ⟨X, hX⟩ := hst.stack_eq
    obtain ⟨Y, hY⟩ := htu.stack_eq
    exact ⟨Y ++ X, by rw [hY, hX, List.append_assoc]⟩
  components_prefix := hst.components_prefix.trans htu.components_prefix
  counter_le := Nat.le_trans hst.counter_le htu.counter_le
  index_new v k hv h := by
    by_cases hvt : t.Visited v
    · have ht := State.index_of_visited hvt
      rw [htu.index_eq v _ ht] at h
      cases h
      exact hst.index_new v _ hv ht
    · exact Nat.le_trans hst.counter_le (htu.index_new v k hvt h)

theorem visited (h : Ext s t) {v : Nat} (hv : s.Visited v) : t.Visited v :=
  State.visited_of_index (h.index_eq v _ (State.index_of_visited hv))

theorem num_eq (h : Ext s t) {v : Nat} (hv : s.Visited v) : t.num v = s.num v :=
  State.num_of_index (h.index_eq v _ (State.index_of_visited hv))

theorem mem_stack (h : Ext s t) {v : Nat} (hv : v ∈ s.stack) : v ∈ t.stack := by
  obtain ⟨X, hX⟩ := h.stack_eq
  rw [hX]
  exact List.mem_append_right X hv

theorem done (h : Ext s t) {v : Nat} (hv : s.Done v) : t.Done v := by
  obtain ⟨c, hc, hvc⟩ := hv
  exact ⟨c, h.components_prefix.subset hc, hvc⟩

theorem enter {v : Nat} (hv : ¬ s.Visited v) : Ext s (s.enter v) where
  index_eq w k h := by
    have hwv : w ≠ v := fun hwv => hv (hwv ▸ State.visited_of_index h)
    rw [State.enter_index, if_neg hwv, h]
  lowlink_eq w hw := State.lowlink_enter_of_ne s fun hwv => hv (hwv ▸ hw)
  stack_eq := ⟨[v], rfl⟩
  components_prefix := List.prefix_refl _
  counter_le := Nat.le_succ _
  index_new w k hw h := by
    rw [State.enter_index] at h
    split at h
    · cases h
      exact Nat.le_refl _
    · exact absurd (State.visited_of_index h) hw

theorem lower (h : Ext s t) {v : Nat} (hv : ¬ s.Visited v) (k : Nat) : Ext s (t.lower v k) :=
  { h with
    lowlink_eq := fun w hw => by
      have hwv : w ≠ v := fun hwv => hv (hwv ▸ hw)
      rw [State.lower_lowlink, if_neg hwv]
      exact h.lowlink_eq w hw }

end Ext

theorem Inv.done_of_reach {G : List Nat} {s : State} (h : Inv n succ G s) {a b : Nat}
    (ha : s.Done a) (hab : Reach succ a b) : s.Done b := by
  change Relation.ReflTransGen _ a b at hab
  induction hab with
  | refl => exact ha
  | tail _ hxy ih => exact h.done_closed _ _ ih hxy

/-! ## The visit of one position -/

/-- What the visit of `v` from `s` guarantees of the state `t` it returns, with the grays `G`. -/
structure Visits (n : Nat) (succ : Nat → List Nat) (G : List Nat) (s : State) (v : Nat)
    (t : State) : Prop where
  inv : Inv n succ G t
  ext : Ext s t
  index_eq : t.index v = some s.counter
  complete : ∀ a b, t.Visited a → ¬ s.Visited a → b ∈ succ a → b ∈ s.stack →
    t.lowlink v ≤ s.num b
  root : v ∉ t.stack → t.lowlink v = t.num v

/-- The loop over the edges of `p`, entered from `s`, after following the edges to `fs`. -/
structure Loop (n : Nat) (succ : Nat → List Nat) (G : List Nat) (s : State) (p : Nat)
    (fs : List Nat) (u : State) : Prop where
  inv : Inv n succ (p :: G) u
  ext : Ext s u
  above : ∃ X, u.stack = X ++ p :: s.stack
  index_eq : u.index p = some s.counter
  counter_lt : s.counter < u.counter
  followed : ∀ w ∈ fs, u.Visited w
  complete : ∀ a b, u.Visited a → ¬ s.Visited a → b ∈ succ a → b ∈ s.stack → (a = p → b ∈ fs) →
    u.lowlink p ≤ s.num b

section Visit

variable {G : List Nat} {s : State} {p : Nat}

theorem Loop.start (h : Inv n succ G s) (hp : ¬ s.Visited p) (hpn : p < n)
    (hG : ∀ g ∈ G, Reach succ g p) : Loop n succ G s p [] (s.enter p) where
  inv := h.enter hp hpn hG
  ext := .enter hp
  above := ⟨[], rfl⟩
  index_eq := State.enter_index_self s p
  counter_lt := Nat.lt_succ_self _
  followed _ hw := absurd hw List.not_mem_nil
  complete a b ha hna _ _ hab := by
    rcases (State.visited_enter s p a).1 ha with rfl | ha
    · exact absurd (hab rfl) List.not_mem_nil
    · exact absurd ha hna

theorem Loop.mem_stack {fs : List Nat} {u : State} (hL : Loop n succ G s p fs u) :
    p ∈ u.stack := by
  obtain ⟨X, hX⟩ := hL.above
  rw [hX]
  exact List.mem_append_right X List.mem_cons_self

theorem Loop.num_eq {fs : List Nat} {u : State} (hL : Loop n succ G s p fs u) :
    u.num p = s.counter :=
  State.num_of_index hL.index_eq

/-- The visit of a position not visited yet, at a given fuel. -/
def VisitSpec (n : Nat) (succ : Nat → List Nat) (fuel : Nat) : Prop :=
  ∀ {G : List Nat} {s : State} {v : Nat}, Inv n succ G s → ¬ s.Visited v → v < n →
    (∀ g ∈ G, Reach succ g v) → n ≤ s.counter + fuel → Visits n succ G s v (visit succ fuel v s)

theorem Loop.followed_snoc {fs : List Nat} {u : State} {w : Nat} (hf : ∀ x ∈ fs, u.Visited x)
    (hw : u.Visited w) : ∀ x ∈ fs ++ [w], u.Visited x := by
  intro x hx
  rcases List.mem_append.1 hx with hx | hx
  · exact hf x hx
  · rw [List.mem_singleton.1 hx]
    exact hw

theorem Loop.complete_snoc {fs : List Nat} {u : State} (hL : Loop n succ G s p fs u) {w : Nat}
    (hw : w ∉ s.stack) :
    ∀ a b, u.Visited a → ¬ s.Visited a → b ∈ succ a → b ∈ s.stack → (a = p → b ∈ fs ++ [w]) →
      u.lowlink p ≤ s.num b := by
  intro a b ha hna hab hb hap
  refine hL.complete a b ha hna hab hb fun hap' => ?_
  rcases List.mem_append.1 (hap hap') with hbf | hbw
  · exact hbf
  · rw [List.mem_singleton.1 hbw] at hb
    exact absurd hb hw

theorem Loop.edge_done {fs : List Nat} {u : State} (hL : Loop n succ G s p fs u) {w : Nat}
    (hwu : u.Visited w) (hoff : u.onStack w ≠ true) : Loop n succ G s p (fs ++ [w]) u := by
  have hws : w ∉ s.stack := fun hb => hoff ((hL.inv.onStack_iff w).2 (hL.ext.mem_stack hb))
  exact ⟨hL.inv, hL.ext, hL.above, hL.index_eq, hL.counter_lt, Loop.followed_snoc hL.followed hwu,
    hL.complete_snoc hws⟩

theorem Loop.edge_onStack {fs : List Nat} {u : State} (hL : Loop n succ G s p fs u)
    (hs : Inv n succ G s) (hp : ¬ s.Visited p) {w i : Nat} (hw : w ∈ succ p)
    (hwi : u.index w = some i) (hon : u.onStack w = true) :
    Loop n succ G s p (fs ++ [w]) (u.lower p i) := by
  have hws : w ∈ u.stack := (hL.inv.onStack_iff w).1 hon
  refine ⟨hL.inv.lower (.inr ⟨w, hws, State.num_of_index hwi, Reach.edge hw⟩),
    hL.ext.lower hp _, hL.above, hL.index_eq, hL.counter_lt,
    Loop.followed_snoc hL.followed (State.visited_of_index hwi), ?_⟩
  intro a b ha hna hab hb hap
  rw [State.lower_lowlink, if_pos rfl]
  by_cases hbw : a = p ∧ b = w
  · obtain ⟨-, rfl⟩ := hbw
    refine Nat.le_trans (Nat.min_le_right _ _) ?_
    rw [← hL.ext.num_eq (hs.stack_visited b hb), State.num_of_index hwi]
  · refine Nat.le_trans (Nat.min_le_left _ _) (hL.complete a b ha hna hab hb fun hap' => ?_)
    rcases List.mem_append.1 (hap hap') with hbf | hbw'
    · exact hbf
    · exact absurd ⟨hap', List.mem_singleton.1 hbw'⟩ hbw

variable (hsucc : ∀ v, ∀ w ∈ succ v, w < n)
include hsucc

theorem Loop.edge_descend {fuel : Nat} (ih : VisitSpec n succ fuel) {fs : List Nat} {u : State}
    (hL : Loop n succ G s p fs u) (hs : Inv n succ G s) (hp : ¬ s.Visited p)
    (hG : ∀ g ∈ G, Reach succ g p) (hfuel : n ≤ s.counter + (fuel + 1)) {w : Nat}
    (hw : w ∈ succ p) (hwv : ¬ u.Visited w) :
    Loop n succ G s p (fs ++ [w])
      ((visit succ fuel w u).lower p ((visit succ fuel w u).lowlink w)) := by
  have hpu : u.Visited p := State.visited_of_index hL.index_eq
  have hV : Visits n succ (p :: G) u w (visit succ fuel w u) := by
    refine ih hL.inv hwv (hsucc p w hw) ?_ (by have := hL.counter_lt; omega)
    intro g hg
    rcases List.mem_cons.1 hg with rfl | hg
    · exact Reach.edge hw
    · exact (hG g hg).trans (Reach.edge hw)
  set t := visit succ fuel w u with ht
  refine ⟨?inv, hL.ext.trans hV.ext |>.lower hp _, ?above, hV.ext.index_eq p _ hL.index_eq,
    Nat.lt_of_lt_of_le hL.counter_lt hV.ext.counter_le,
    Loop.followed_snoc (fun x hx => hV.ext.visited (hL.followed x hx))
      (State.visited_of_index hV.index_eq), ?complete⟩
  case inv =>
    refine hV.inv.lower ?_
    by_cases hwt : w ∈ t.stack
    · obtain ⟨z, hz, hzl, hwz⟩ := hV.inv.lowlink_reach w hwt
      exact .inr ⟨z, hz, hzl, Reach.head hw hwz⟩
    · left
      rw [hV.root hwt, State.num_of_index hV.index_eq]
      have hpst : p ∈ t.stack := hV.ext.mem_stack hL.mem_stack
      have hle := hV.inv.lowlink_le p hpst
      have hnum : t.num p < u.counter := by
        rw [hV.ext.num_eq hpu]
        exact hL.inv.num_lt hpu
      omega
  case above =>
    obtain ⟨X, hX⟩ := hL.above
    obtain ⟨Y, hY⟩ := hV.ext.stack_eq
    exact ⟨Y ++ X, by rw [State.lower_stack, hY, hX, List.append_assoc]⟩
  case complete =>
    intro a b ha hna hab hb hap
    rw [State.lower_lowlink, if_pos rfl]
    have hbs := hs.stack_visited b hb
    by_cases hau : u.Visited a
    · refine Nat.le_trans (Nat.min_le_left _ _) ?_
      rw [hV.ext.lowlink_eq p hpu]
      exact hL.complete_snoc (fun hws => hwv (hL.ext.visited (hs.stack_visited w hws)))
        a b hau hna hab hb hap
    · refine Nat.le_trans (Nat.min_le_right _ _) ?_
      rw [← hL.ext.num_eq hbs]
      exact hV.complete a b ha hau hab (hL.ext.mem_stack hb)

/-- Following one more edge of `p` keeps the loop's invariant, whatever the target is. -/
theorem Loop.edge {fuel : Nat} (ih : VisitSpec n succ fuel) {fs : List Nat} {u : State}
    (hL : Loop n succ G s p fs u) (hs : Inv n succ G s) (hp : ¬ s.Visited p)
    (hG : ∀ g ∈ G, Reach succ g p) (hfuel : n ≤ s.counter + (fuel + 1)) {w : Nat}
    (hw : w ∈ succ p) : Loop n succ G s p (fs ++ [w]) (Tarjan.edge (visit succ fuel) p u w) := by
  unfold Tarjan.edge
  split
  · rename_i hwu
    exact hL.edge_descend hsucc ih hs hp hG hfuel hw fun h' => h' hwu
  · rename_i i hwi
    split
    · rename_i hon
      exact hL.edge_onStack hs hp hw hwi hon
    · rename_i hoff
      exact hL.edge_done (State.visited_of_index hwi) hoff

theorem Loop.foldl {fuel : Nat} (ih : VisitSpec n succ fuel) (hs : Inv n succ G s)
    (hp : ¬ s.Visited p) (hG : ∀ g ∈ G, Reach succ g p) (hfuel : n ≤ s.counter + (fuel + 1))
    (ws : List Nat) (hws : ∀ w ∈ ws, w ∈ succ p) {fs : List Nat} {u : State}
    (hL : Loop n succ G s p fs u) :
    Loop n succ G s p (fs ++ ws) (ws.foldl (Tarjan.edge (visit succ fuel) p) u) := by
  induction ws generalizing fs u with
  | nil => simpa using hL
  | cons w ws ihws =>
    rw [List.foldl_cons, ← List.singleton_append, ← List.append_assoc]
    exact ihws (fun x hx => hws x (List.mem_cons_of_mem _ hx))
      (hL.edge hsucc ih hs hp hG hfuel (hws w List.mem_cons_self))

omit hsucc in
/-- A path from a position first visited after `s` to one visited in `s` leaves the new positions
by an edge, from a position visited by now. -/
theorem Loop.exists_exit {fs : List Nat} {u : State} (hL : Loop n succ G s p fs u)
    (hs : Inv n succ G s) (hall : ∀ w ∈ succ p, u.Visited w) {b : Nat} (hb : s.Visited b) :
    ∀ x, Reach succ x b → u.Visited x → ¬ s.Visited x →
      ∃ a c, u.Visited a ∧ ¬ s.Visited a ∧ c ∈ succ a ∧ s.Visited c ∧ Reach succ c b := by
  intro x hxb
  change Relation.ReflTransGen _ x b at hxb
  induction hxb using Relation.ReflTransGen.head_induction_on with
  | refl => exact fun _ hnb => absurd hb hnb
  | @head x y hxy hyb ih =>
    intro hxu hxs
    have hyu : u.Visited y := by
      by_cases hxp : x = p
      · subst hxp
        exact hall y hxy
      · have hxG : x ∉ p :: G := by
          simp only [List.mem_cons, not_or]
          exact ⟨hxp, fun hg => hxs (hs.stack_visited x (hs.grays_mem x hg))⟩
        exact hL.inv.black_closed x hxu hxG y hxy
    by_cases hys : s.Visited y
    · exact ⟨x, y, hxu, hxs, hxy, hys, hyb⟩
    · exact ih hyu hys

omit hsucc in
/-- When the lowlink of `p` is still its index after all its edges, nothing pushed since `p`
reaches below it on the stack: the first edge out of the new positions would have lowered it. -/
theorem Loop.separate {fs : List Nat} {u : State} (hL : Loop n succ G s p fs u)
    (hs : Inv n succ G s) (hall : ∀ w ∈ succ p, u.Visited w)
    (hcomplete : ∀ a b, u.Visited a → ¬ s.Visited a → b ∈ succ a → b ∈ s.stack →
      u.lowlink p ≤ s.num b)
    (hroot : u.lowlink p = u.num p) :
    ∀ w ∈ u.stack, u.num p ≤ u.num w → ∀ b ∈ u.stack, u.num b < u.num p →
      ¬ Reach succ w b := by
  intro w hw hpw b hb hbp hwb
  rw [hL.num_eq] at hpw hbp hroot
  have hwnew : ¬ s.Visited w := fun hws => by
    rw [hL.ext.num_eq hws] at hpw
    exact Nat.not_le_of_lt (hs.num_lt hws) hpw
  have hbold : s.Visited b := by
    by_contra hbs
    have hk := hL.ext.index_new b _ hbs (State.index_of_visited (hL.inv.stack_visited b hb))
    exact Nat.not_le_of_lt hbp hk
  have hbs : b ∈ s.stack := by
    by_contra hbs
    have hdone := hL.ext.done ((hs.done_iff b).2 ⟨hbold, hbs⟩)
    exact ((hL.inv.done_iff b).1 hdone).2 hb
  obtain ⟨a, c, hau, has, hac, hcs, hcb⟩ :=
    hL.exists_exit hs hall hbold w hwb (hL.inv.stack_visited w hw) hwnew
  by_cases hcst : c ∈ s.stack
  · have hle := hcomplete a c hau has hac hcst
    have hlt := hs.num_lt hcs
    omega
  · have hdone := hL.inv.done_of_reach (hL.ext.done ((hs.done_iff c).2 ⟨hcs, hcst⟩)) hcb
    exact ((hL.inv.done_iff b).1 hdone).2 hb

omit hsucc in
theorem Loop.ext_emit {fs : List Nat} {u : State} (hL : Loop n succ G s p fs u) :
    Ext s (u.emit p) :=
  { hL.ext with
    stack_eq := by
      obtain ⟨X, hX⟩ := hL.above
      have hnodup := hL.inv.stack_nodup
      rw [hX] at hnodup
      have hpX : p ∉ X := fun hpX => (List.nodup_append.1 hnodup).2.2 p hpX p
        List.mem_cons_self rfl
      exact ⟨[], by rw [State.emit_stack, hX, popTo_append _ hpX, List.nil_append]⟩
    components_prefix := hL.ext.components_prefix.trans (List.prefix_append _ _) }

theorem visit_spec (fuel : Nat) : VisitSpec n succ fuel := by
  induction fuel with
  | zero =>
    intro G s v hs hv hvn _ hfuel
    exact absurd (hs.counter_lt hv hvn) (Nat.not_lt_of_le hfuel)
  | succ fuel ih =>
    intro G s v hs hv hvn hG hfuel
    have hL := Loop.foldl hsucc ih hs hv hG hfuel (succ v) (fun _ h => h)
      (Loop.start hs hv hvn hG)
    rw [List.nil_append] at hL
    set t := (succ v).foldl (Tarjan.edge (visit succ fuel) v) (s.enter v) with ht
    have hall : ∀ w ∈ succ v, t.Visited w := hL.followed
    have hcomplete : ∀ a b, t.Visited a → ¬ s.Visited a → b ∈ succ a → b ∈ s.stack →
        t.lowlink v ≤ s.num b :=
      fun a b ha hna hab hb => hL.complete a b ha hna hab hb fun hav => hav ▸ hab
    have hvt := hL.mem_stack
    have hnum : t.num v = s.counter := hL.num_eq
    have hunfold : visit succ (fuel + 1) v s = if some (t.lowlink v) = t.index v then t.emit v
        else t := rfl
    rw [hunfold]
    split
    · rename_i hroot
      have hroot : t.lowlink v = t.num v := by
        rw [hL.index_eq] at hroot
        rw [hnum]
        exact Option.some.inj hroot
      exact ⟨hL.inv.emit hvt hall (hL.separate hs hall hcomplete hroot), hL.ext_emit,
        hL.index_eq, hcomplete, fun _ => hroot⟩
    · rename_i hroot
      have hlt : t.lowlink v < t.num v := by
        refine Nat.lt_of_le_of_ne (hL.inv.lowlink_le v hvt) fun heq => hroot ?_
        rw [hL.index_eq, heq, hnum]
      exact ⟨hL.inv.finish hvt hall hlt, hL.ext, hL.index_eq, hcomplete,
        fun hns => absurd hvt hns⟩

end Visit

/-! ## The search from every position -/

section Run

variable (hsucc : ∀ v, ∀ w ∈ succ v, w < n)
include hsucc

theorem foldl_search (vs : List Nat) (hvs : ∀ v ∈ vs, v < n) {s : State}
    (hs : Inv n succ [] s) :
    let t := vs.foldl (fun s v => if (s.index v).isNone then visit succ n v s else s) s
    Inv n succ [] t ∧ Ext s t ∧ ∀ v ∈ vs, t.Visited v := by
  induction vs generalizing s with
  | nil => exact ⟨hs, .refl s, fun _ hv => absurd hv List.not_mem_nil⟩
  | cons v vs ih =>
    simp only [List.foldl_cons]
    have hrest : ∀ x ∈ vs, x < n := fun x hx => hvs x (List.mem_cons_of_mem _ hx)
    split
    · rename_i hnone
      have hv : ¬ s.Visited v := by simpa [State.Visited] using hnone
      have hV := visit_spec hsucc n hs hv (hvs v List.mem_cons_self)
        (fun _ hg => absurd hg List.not_mem_nil) (Nat.le_add_left _ _)
      obtain ⟨hinv, hext, hvis⟩ := ih hrest hV.inv
      refine ⟨hinv, hV.ext.trans hext, fun x hx => ?_⟩
      rcases List.mem_cons.1 hx with rfl | hx
      · exact hext.visited (State.visited_of_index hV.index_eq)
      · exact hvis x hx
    · rename_i hsome
      have hv : s.Visited v := by simpa [State.Visited] using hsome
      obtain ⟨hinv, hext, hvis⟩ := ih hrest hs
      refine ⟨hinv, hext, fun x hx => ?_⟩
      rcases List.mem_cons.1 hx with rfl | hx
      · exact hext.visited hv
      · exact hvis x hx

theorem run_inv : Inv n succ [] (run n succ) ∧ ∀ v < n, (run n succ).Visited v := by
  obtain ⟨hinv, -, hvis⟩ := foldl_search hsucc (List.range n) (fun v hv => List.mem_range.1 hv)
    (Inv.init n succ)
  exact ⟨hinv, fun v hv => hvis v (List.mem_range.2 hv)⟩

theorem run_stack : (run n succ).stack = [] := by
  refine List.eq_nil_iff_forall_not_mem.2 fun y hy => ?_
  obtain ⟨x, hx, -⟩ := (run_inv hsucc).1.stack_gray y hy
  exact absurd hx List.not_mem_nil

/-- Every position is visited exactly once: the counter ends at `n`, and the positions get the
indices below `n`, each its own. -/
theorem run_visits_once :
    (run n succ).counter = n ∧ (∀ v < n, ∃ k < n, (run n succ).index v = some k) ∧
      ∀ v w k, (run n succ).index v = some k → (run n succ).index w = some k → v = w := by
  obtain ⟨hinv, hvis⟩ := run_inv hsucc
  have hempty : (run n succ).unvisited n = ∅ := by
    refine Finset.eq_empty_of_forall_notMem fun v hv => ?_
    simp only [State.unvisited, Finset.mem_filter, Finset.mem_range] at hv
    exact hvis v hv.1 hv.2
  have hcounter : (run n succ).counter = n := by
    simpa [hempty] using hinv.counter_add
  refine ⟨hcounter, fun v hv => ?_, hinv.index_inj⟩
  refine ⟨(run n succ).num v, ?_, State.index_of_visited (hvis v hv)⟩
  have hlt := hinv.num_lt (hvis v hv)
  omega

/-- Every position is in a component found. -/
theorem done_of_run {v : Nat} (hv : v < n) : (run n succ).Done v := by
  obtain ⟨hinv, hvis⟩ := run_inv hsucc
  refine (hinv.done_iff v).2 ⟨hvis v hv, ?_⟩
  rw [run_stack hsucc]
  exact List.not_mem_nil

/-- The components the search returns: strongly connected components covering every position,
ordered by their least member. -/
theorem components_spec :
    (∀ c ∈ components n succ, IsComponent n succ c) ∧
      (∀ v < n, ∃ c ∈ components n succ, v ∈ c) ∧
      (components n succ).Pairwise fun c d => c.headD 0 < d.headD 0 := by
  obtain ⟨hinv, -⟩ := run_inv hsucc
  have hperm := perm_sortBy (fun a b : List Nat => decide (a.headD 0 ≤ b.headD 0))
    (run n succ).components
  have hmem : ∀ c, c ∈ components n succ ↔ c ∈ (run n succ).components := fun c => hperm.mem_iff
  refine ⟨fun c hc => hinv.found c ((hmem c).1 hc), fun v hv => ?_, ?_⟩
  · obtain ⟨c, hc, hvc⟩ := done_of_run hsucc hv
    exact ⟨c, (hmem c).2 hc, hvc⟩
  · have hle := pairwise_sortBy (fun a b : List Nat => decide (a.headD 0 ≤ b.headD 0))
      (fun x y => by simpa using Nat.le_total _ _)
      (fun x y z hxy hyz => by simpa using Nat.le_trans (by simpa using hxy) (by simpa using hyz))
      (run n succ).components
    have hdisj : (components n succ).Pairwise fun c d => ∀ x ∈ c, x ∉ d :=
      (hperm.pairwise_iff fun {c d} h x hxd hxc => h x hxc hxd).2 hinv.disjoint
    refine ((List.Pairwise.and_mem.1 hle).and hdisj).imp fun {c d} ⟨⟨hc, hd, hcd⟩, hdisj⟩ => ?_
    have hhead : ∀ e ∈ components n succ, e.headD 0 ∈ e := fun e he => by
      obtain ⟨x, xs, rfl⟩ := List.exists_cons_of_ne_nil (hinv.found e ((hmem e).1 he)).ne_nil
      exact List.mem_cons_self
    refine Nat.lt_of_le_of_ne (by simpa using hcd) fun heq => ?_
    exact hdisj _ (hhead c hc) (heq ▸ hhead d hd)

end Run

end EntitySchema.Tarjan
