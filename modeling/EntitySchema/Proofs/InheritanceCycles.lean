import Mathlib.Data.List.Cycle
import EntitySchema.Proofs.MissingEntities

/-! # Rings of bases and the cycles of the base-link graph

In a frozen registry a declaration has at most one base, so base links form a right-unique
relation, and its cycles (`IsBaseCycle`, a `Cycle` of names each linked to the next) are
determined by any one member (`Cycle.eq_of_chain_of_mem`). When no enumeration declares a base
(`LeafEnums`), the walk from a declaration follows base links exactly (`WalkPath`): it finds a
ring precisely when its base links lead into a cycle, and the ring goes round that cycle
(`chainOf_cycle_of_leadsInto`). The canonical form of the ring starts at the member registered
first (`IsRing.canonicalCycle_spec`), and two rings share it exactly when they go round one
cycle.

So a failed resolution reports each cycle of the base-link graph once, in that form, while the
pass checks the first declaration, in registration order, whose base links lead into it
(`resolve_inheritanceCycles`). Without `LeafEnums` this fails: the walk from an enumeration
follows its base but a walk never enters an enumeration, so an enumeration on a ring of bases
is reported although no base link enters it (`enumInRing_reports_ring`).
-/

namespace EntitySchema

open Relation

/-! ## Cycles of a right-unique relation -/

section RightUnique

variable {α : Type} {R : α → α → Prop}

/-- A closed walk of a right-unique relation is determined by where it starts: two walks from
`x` to `t` that meet `t` only at their ends are the same walk. -/
theorem List.eq_of_isChain_of_rightUnique (hR : Relator.RightUnique R) {t : α} :
    ∀ {x : α} {us vs : List α},
      (x :: (us ++ [t])).IsChain R → (x :: (vs ++ [t])).IsChain R → t ∉ us → t ∉ vs →
        us = vs
  | x, [], [], _, _, _, _ => rfl
  | x, [], v :: vs, hu, hv, _, htv => by
    have h₁ : R x t := List.isChain_pair.1 hu
    have h₂ : R x v := hv.rel_head? (by simp)
    exact absurd (hR h₁ h₂ ▸ List.mem_cons_self) htv
  | x, u :: us, [], hu, hv, htu, _ => by
    have h₁ : R x u := hu.rel_head? (by simp)
    have h₂ : R x t := List.isChain_pair.1 hv
    exact absurd (hR h₂ h₁ ▸ List.mem_cons_self) htu
  | x, u :: us, v :: vs, hu, hv, htu, htv => by
    have h₁ : R x u := hu.rel_head? (by simp)
    have h₂ : R x v := hv.rel_head? (by simp)
    obtain rfl := hR h₁ h₂
    rw [List.eq_of_isChain_of_rightUnique hR (List.isChain_cons.1 hu).2 (List.isChain_cons.1 hv).2
      (fun h => htu (List.mem_cons_of_mem u h)) (fun h => htv (List.mem_cons_of_mem u h))]

theorem Cycle.exists_eq_cons_of_mem {a : α} {s : Cycle α} (h : a ∈ s) :
    ∃ l : List α, s = ((a :: l : List α) : Cycle α) := by
  obtain ⟨l, rfl⟩ := Quotient.exists_rep s
  have hl : a ∈ l := h
  obtain ⟨k, hk, rfl⟩ := List.getElem_of_mem hl
  refine ⟨l.drop (k + 1) ++ l.take k, ?_⟩
  have hrot : l.rotate k = l[k] :: (l.drop (k + 1) ++ l.take k) := by
    rw [List.rotate_eq_drop_append_take hk.le, List.drop_eq_getElem_cons hk, List.cons_append]
  rw [← hrot]
  exact Cycle.coe_eq_coe.2 ⟨k, rfl⟩

theorem Cycle.exists_mem_of_ne_nil {s : Cycle α} (h : s ≠ Cycle.nil) : ∃ a, a ∈ s := by
  obtain ⟨l, rfl⟩ := Quotient.exists_rep s
  cases l with
  | nil => exact absurd rfl h
  | cons a l => exact ⟨a, (List.mem_cons_self : a ∈ a :: l)⟩

theorem Cycle.Chain.exists_rel {s : Cycle α} (hs : s.Chain R) {a : α} (ha : a ∈ s) :
    ∃ b ∈ s, R a b := by
  obtain ⟨l, rfl⟩ := Cycle.exists_eq_cons_of_mem ha
  have hchain : (a :: (l ++ [a])).IsChain R := (Cycle.chain_coe_cons R a l).1 hs
  have hne : l ++ [a] ≠ [] := by simp
  refine ⟨(l ++ [a]).head hne, ?_, hchain.rel_head? (List.head?_eq_some_head hne)⟩
  have hmem : (l ++ [a]).head hne ∈ a :: l := by
    rcases List.mem_append.1 (List.head_mem hne) with h | h
    · exact List.mem_cons_of_mem a h
    · rw [List.mem_singleton.1 h]
      exact List.mem_cons_self
  exact Cycle.mem_coe_iff.2 hmem

theorem Cycle.Chain.transGen_self {s : Cycle α} (hs : s.Chain R) {a : α} (ha : a ∈ s) :
    TransGen R a a := by
  obtain ⟨l, rfl⟩ := Cycle.exists_eq_cons_of_mem ha
  have hchain : (a :: (l ++ [a])).IsChain R := (Cycle.chain_coe_cons R a l).1 hs
  obtain ⟨y, rest, hy⟩ : ∃ y rest, l ++ [a] = y :: rest :=
    List.exists_cons_of_ne_nil (by simp)
  rw [hy] at hchain
  have hlast : (y :: rest).getLast (List.cons_ne_nil y rest) = a := by
    simp only [← hy, List.getLast_append_singleton]
  exact TransGen.head' (hchain.rel_head? (by simp))
    (List.relationReflTransGen_of_exists_isChain_cons rest (List.isChain_cons.1 hchain).2 hlast)

theorem Cycle.Chain.mem_of_reflTransGen (hR : Relator.RightUnique R) {s : Cycle α}
    (hs : s.Chain R) {a x : α} (ha : a ∈ s) (h : ReflTransGen R a x) : x ∈ s := by
  induction h with
  | refl => exact ha
  | tail _ hyx ih =>
    obtain ⟨z, hz, hyz⟩ := Cycle.Chain.exists_rel hs ih
    exact hR hyz hyx ▸ hz

theorem Cycle.eq_of_chain_of_mem (hR : Relator.RightUnique R) {s t : Cycle α}
    (hs : s.Chain R) (ht : t.Chain R) (hs' : s.Nodup) (ht' : t.Nodup) {a : α} (has : a ∈ s)
    (hat : a ∈ t) : s = t := by
  obtain ⟨l, rfl⟩ := Cycle.exists_eq_cons_of_mem has
  obtain ⟨l', rfl⟩ := Cycle.exists_eq_cons_of_mem hat
  have hnd := List.nodup_cons.1 (Cycle.nodup_coe_iff.1 hs')
  have hnd' := List.nodup_cons.1 (Cycle.nodup_coe_iff.1 ht')
  rw [List.eq_of_isChain_of_rightUnique hR ((Cycle.chain_coe_cons R a l).1 hs)
    ((Cycle.chain_coe_cons R a l').1 ht) hnd.1 hnd'.1]

theorem List.exists_eq_append_first {l : List α} {P : α → Prop}
    (h : ∃ x ∈ l, P x) :
    ∃ pre x post, l = pre ++ x :: post ∧ P x ∧ ∀ y ∈ pre, ¬ P y := by
  classical
  obtain ⟨x, hx⟩ := Option.isSome_iff_exists.1
    (List.find?_isSome.2 (by simpa using h : ∃ x ∈ l, decide (P x) = true))
  obtain ⟨hPx, pre, post, hl, hpre⟩ := List.find?_eq_some_iff_append.1 hx
  exact ⟨pre, x, post, hl, by simpa using hPx, fun y hy => by simpa using hpre y hy⟩

end RightUnique

/-! ## The rings errors report -/

def SchemaError.ring? : SchemaError → Option (List String)
  | .inheritanceCycle c => some c
  | _ => none

/-- The rings a list of errors reports, in order. -/
def reportedRings (errors : List SchemaError) : List (List String) :=
  errors.filterMap SchemaError.ring?

theorem SchemaError.ring?_eq_none {e : SchemaError} (h : e.kind ≠ .inheritanceCycle) :
    e.ring? = none := by
  cases e with
  | inheritanceCycle c => exact absurd rfl h
  | _ => rfl

theorem reportedRings_filter_nonlocal (errors : List SchemaError) :
    reportedRings (errors.filter (!·.kind.isLocal)) = reportedRings errors := by
  unfold reportedRings
  rw [List.filterMap_filter]
  congr 1
  funext e
  cases hlocal : e.kind.isLocal
  · rfl
  · have hkind : e.kind ≠ .inheritanceCycle := fun h => by simp [h, ErrorKind.isLocal] at hlocal
    simp [SchemaError.ring?_eq_none hkind]

theorem reportedRings_map (rings : List (List String)) :
    reportedRings (rings.map .inheritanceCycle) = rings := by
  simp [reportedRings, List.filterMap_map, Function.comp_def, SchemaError.ring?]

namespace Registry

variable {r : Registry} {d : EntityDecl} {o : ResolveOptions}

/-- Enumerations declare no base. A registry read from documents is always so. -/
def LeafEnums (r : Registry) : Prop := ∀ d ∈ r.decls, d.isEnum = true → d.base = none

instance (r : Registry) : Decidable r.LeafEnums :=
  inferInstanceAs (Decidable (∀ d ∈ r.decls, d.isEnum = true → d.base = none))

/-- A cycle of the base-link graph: distinct names, each the base of the one before it, the
first the base of the last. -/
structure IsBaseCycle (r : Registry) (s : Cycle String) : Prop where
  ne_nil : s ≠ Cycle.nil
  nodup : s.Nodup
  chain : s.Chain r.BaseEdge

theorem Frozen.baseEdge_rightUnique (hr : r.Frozen) : Relator.RightUnique r.BaseEdge :=
  fun _ _ _ hb hc => hr.extends_functional hb.extends hc.extends

theorem LeafEnums.lookup?_of_baseEdge (hr : r.Frozen) (hleaf : r.LeafEnums) {a b : String}
    (h : r.BaseEdge a b) : ∃ t, r.lookup? a = some t ∧ t.isEnum = false := by
  obtain ⟨d, hd, rfl, hb, -⟩ := h
  refine ⟨d, hr.lookup?_self hd, ?_⟩
  cases he : d.isEnum
  · rfl
  · simp [hleaf d hd he] at hb

theorem exists_baseEdge_of_leadsInto {s : Cycle String} (hs : r.IsBaseCycle s) {y : String}
    (hy : ∃ m ∈ s, ReflTransGen r.BaseEdge y m) :
    ∃ z, r.BaseEdge y z ∧ ∃ m ∈ s, ReflTransGen r.BaseEdge z m := by
  obtain ⟨m, hm, hym⟩ := hy
  rcases ReflTransGen.cases_head hym with rfl | ⟨z, hyz, hzm⟩
  · obtain ⟨z, hz, hyz⟩ := Cycle.Chain.exists_rel hs.chain hm
    exact ⟨z, hyz, z, hz, .refl⟩
  · exact ⟨z, hyz, m, hm, hzm⟩

/-! ## Walks as paths of base links -/

/-- A walk from `start` that has reached `current` along `way`: the walk invariant, with the way
a path of base links from `start` to the current name on which every name but the current one
has a base link. -/
structure WalkPath (r : Registry) (start : String) (fuel : Nat) (way : List String)
    (current : EntityDecl) : Prop extends WalkInv r start fuel way current where
  chain : way.IsChain r.BaseEdge
  last : way.getLast? = some current.name
  reach : ∀ x ∈ way, ReflTransGen r.BaseEdge start x
  linked : ∀ x ∈ way, x = current.name ∨ ∃ y, r.BaseEdge x y

theorem WalkPath.init (hd : d ∈ r.decls) : WalkPath r d.name r.size [d.name] d where
  toWalkInv := WalkInv.init hd
  chain := List.isChain_singleton _
  last := rfl
  reach := fun _ hx => List.mem_singleton.1 hx ▸ .refl
  linked := fun _ hx => .inl (List.mem_singleton.1 hx)

theorem WalkPath.step {start : String} {fuel : Nat} {way : List String} {current p : EntityDecl}
    {b : String} (h : WalkPath r start (fuel + 1) way current) (hb : current.base = some b)
    (hself : b ≠ current.name) (hnot : b ∉ way) (hp : r.lookup? b = some p)
    (hpe : p.isEnum = false) : WalkPath r start fuel (way ++ [p.name]) p := by
  have hname : p.name = b := lookup?_name hp
  subst hname
  have hedge : r.BaseEdge current.name p.name :=
    ⟨current, h.current_mem, rfl, hb, hself, p, hp, hpe⟩
  refine ⟨h.toWalkInv.step hb hnot hp, ?_, by simp, ?_, ?_⟩
  · refine List.isChain_append.2 ⟨h.chain, List.isChain_singleton _, fun x hx y hy => ?_⟩
    rw [h.last, Option.mem_some_iff] at hx
    rw [List.head?_singleton, Option.mem_some_iff] at hy
    exact hx ▸ hy ▸ hedge
  · intro x hx
    rcases List.mem_append.1 hx with hx | hx
    · exact h.reach x hx
    · exact List.mem_singleton.1 hx ▸ (h.reach _ h.current_on_way).tail hedge
  · intro x hx
    rcases List.mem_append.1 hx with hx | hx
    · rcases h.linked x hx with rfl | hlink
      · exact .inr ⟨_, hedge⟩
      · exact .inr hlink
    · exact .inl (List.mem_singleton.1 hx)

section Leaf

variable (hr : r.Frozen) (hleaf : r.LeafEnums)
include hr hleaf

theorem WalkPath.ring {start : String} :
    ∀ (fuel : Nat) (way : List String) (current : EntityDecl) (ring : List String),
      WalkPath r start fuel way current → r.walkBases fuel way current = .cycle ring →
      ring.IsChain r.BaseEdge ∧ ∀ x ∈ ring, ReflTransGen r.BaseEdge start x
  | 0, _, _, _, h, _ => absurd h.fuel_pos (Nat.lt_irrefl 0)
  | fuel + 1, way, current, ring, h, hw => by
    rcases walkBases_succ_cases hw with
      ⟨-, hc⟩ | ⟨b, -, -, hc⟩ | ⟨b, pos, hb, hself, hpos, hc⟩ |
        ⟨b, -, -, -, -, hc⟩ | ⟨b, p, hb, hself, hnot, hp, hpe, hc⟩
    · cases hc
    · cases hc
    · cases hc
      obtain ⟨hlt, hget, -⟩ := List.idxOf?_eq_some_iff.1 hpos
      have hmem : b ∈ way := hget ▸ List.getElem_mem hlt
      have hedge : r.BaseEdge current.name b := by
        obtain ⟨t, ht, hte⟩ : ∃ t, r.lookup? b = some t ∧ t.isEnum = false := by
          rcases h.linked b hmem with hcur | ⟨y, hby⟩
          · exact absurd hcur hself
          · exact LeafEnums.lookup?_of_baseEdge hr hleaf hby
        exact ⟨current, h.current_mem, rfl, hb, hself, t, ht, hte⟩
      refine ⟨List.isChain_append.2 ⟨h.chain.drop pos, List.isChain_singleton _,
        fun x hx y hy => ?_⟩, fun x hx => ?_⟩
      · rw [List.getLast?_drop, if_neg (by omega), h.last, Option.mem_some_iff] at hx
        rw [List.head?_singleton, Option.mem_some_iff] at hy
        exact hx ▸ hy ▸ hedge
      · rcases List.mem_append.1 hx with hx | hx
        · exact h.reach x (List.mem_of_mem_drop hx)
        · exact List.mem_singleton.1 hx ▸ h.reach b hmem
    · cases hc
    · exact WalkPath.ring fuel _ _ ring (h.step hb hself hnot hp hpe) hc.symm

theorem chainOf_cycle_isChain (hd : d ∈ r.decls) {ring : List String}
    (h : r.chainOf d = .cycle ring) :
    ring.IsChain r.BaseEdge ∧ ∀ x ∈ ring, ReflTransGen r.BaseEdge d.name x :=
  WalkPath.ring hr hleaf _ _ _ ring (WalkPath.init hd) h

theorem isBaseCycle_of_chainOf (hd : d ∈ r.decls) {ring : List String}
    (h : r.chainOf d = .cycle ring) : r.IsBaseCycle (ring.dropLast : Cycle String) := by
  have hring := isRing_of_chainOf hd h
  obtain ⟨b, hb, hclosed⟩ := hring.closed
  obtain ⟨m, hm⟩ := List.head?_eq_some_iff.1 hb
  have hchain := (chainOf_cycle_isChain hr hleaf hd h).1
  rw [hclosed, hm] at hchain
  refine ⟨fun hnil => hring.ne_nil ((Cycle.coe_eq_nil _).1 hnil),
    Cycle.nodup_coe_iff.2 hring.nodup, ?_⟩
  rw [hm]
  exact (Cycle.chain_coe_cons _ b m).2 hchain

theorem chainOf_cycle_of_leadsInto (hd : d ∈ r.decls) {s : Cycle String} (hs : r.IsBaseCycle s)
    {m : String} (hm : m ∈ s) (hdm : ReflTransGen r.BaseEdge d.name m) :
    ∃ ring, r.chainOf d = .cycle ring ∧ (ring.dropLast : Cycle String) = s := by
  have hU := hr.baseEdge_rightUnique
  have hlead : ∀ y, ReflTransGen r.Extends d.name y →
      ∃ m ∈ s, ReflTransGen r.BaseEdge y m := by
    intro y hy
    induction hy with
    | refl => exact ⟨m, hm, hdm⟩
    | tail _ hyy' ih =>
      obtain ⟨z, hyz, hz⟩ := exists_baseEdge_of_leadsInto hs ih
      exact hr.extends_functional hyz.extends hyy' ▸ hz
  have hbases : ∀ x ∈ r.decls, ReflTransGen r.Extends d.name x.name → r.BaseResolves x := by
    intro x hx hreach b hb
    obtain ⟨z, hxz, -⟩ := exists_baseEdge_of_leadsInto hs (hlead _ hreach)
    obtain ⟨hxb, hne, t, ht, hte⟩ := (hr.baseEdge_iff hx).1 hxz
    obtain rfl := Option.some.inj (hb.symm.trans hxb)
    exact ⟨hne, t, ht, hte⟩
  cases hc : r.chainOf d with
  | complete anc =>
    exact absurd
      (TransGen.mono (fun _ _ h => BaseEdge.extends h) _ _ (Cycle.Chain.transGen_self hs.chain hm))
      (not_revisit_of_complete hr _ _ _ anc hd hc m
        (ReflTransGen.mono (fun _ _ h => BaseEdge.extends h) _ _ hdm))
  | broken => exact absurd hc (walkBases_ne_broken hbases _ _ _ (WalkInv.init hd))
  | cycle ring =>
    refine ⟨ring, rfl, ?_⟩
    have hcyc := isBaseCycle_of_chainOf hr hleaf hd hc
    obtain ⟨b, hb, -⟩ := (isRing_of_chainOf hd hc).closed
    have hbmem : b ∈ (ring.dropLast : Cycle String) := List.mem_of_mem_head? hb
    have hdb := (chainOf_cycle_isChain hr hleaf hd hc).2 b (List.mem_of_mem_dropLast
      (List.mem_of_mem_head? hb))
    rcases ReflTransGen.total_of_right_unique hU hdb hdm with hbm | hmb
    · exact Cycle.eq_of_chain_of_mem hU hcyc.chain hs.chain hcyc.nodup hs.nodup
        (Cycle.Chain.mem_of_reflTransGen hU hcyc.chain hbmem hbm) hm
    · exact Cycle.eq_of_chain_of_mem hU hcyc.chain hs.chain hcyc.nodup hs.nodup hbmem
        (Cycle.Chain.mem_of_reflTransGen hU hs.chain hm hmb)

end Leaf

/-! ## Canonical forms -/

theorem IsRing.mem_dropLast_iff {ring : List String} (h : r.IsRing ring) {x : String} :
    x ∈ ring.dropLast ↔ x ∈ ring := by
  obtain ⟨b, hb, hclosed⟩ := h.closed
  constructor
  · exact List.mem_of_mem_dropLast
  · intro hx
    rw [hclosed, List.mem_append, List.mem_singleton] at hx
    rcases hx with hx | rfl
    · exact hx
    · exact List.mem_of_mem_head? hb

theorem mem_canonicalCycle_iff {ring : List String} (h : r.IsRing ring) {x : String} :
    x ∈ r.canonicalCycle ring ↔ x ∈ ring := by
  obtain ⟨hcanon, hrot⟩ := h.canonicalCycle r
  rw [← hcanon.mem_dropLast_iff, hrot.mem_iff, h.mem_dropLast_iff]

/-- A ring as reports give it: closed by repeating its first member, which was registered
before every other member. -/
def StartsEarliest (r : Registry) (c : List String) : Prop :=
  ∃ a rest, c = a :: rest ++ [a] ∧ ∀ m ∈ rest, r.cycleRank a < r.cycleRank m

/-- The canonical form of a ring starts at its member registered first, and goes round the same
cycle. -/
theorem IsRing.canonicalCycle_spec {ring : List String} (h : r.IsRing ring) :
    r.StartsEarliest (r.canonicalCycle ring) ∧
      ((r.canonicalCycle ring).dropLast : Cycle String) = (ring.dropLast : Cycle String) := by
  obtain ⟨hcanon, hrot⟩ := h.canonicalCycle r
  refine ⟨?_, Cycle.coe_eq_coe.2 hrot⟩
  set M := ring.dropLast with hM
  obtain ⟨hs, hleast⟩ := leastIndex_spec (r := r) h.ne_nil
  have hturned : M.rotate (r.leastIndex M) = M[r.leastIndex M] ::
      (M.drop (r.leastIndex M + 1) ++ M.take (r.leastIndex M)) := by
    rw [List.rotate_eq_drop_append_take hs.le, List.drop_eq_getElem_cons hs, List.cons_append]
  refine ⟨M[r.leastIndex M], M.drop (r.leastIndex M + 1) ++ M.take (r.leastIndex M), ?_,
    fun m hm => ?_⟩
  · rw [canonicalCycle_eq_closeRing, ← hM, hturned]
    rfl
  · have hmem : m ∈ M := by
      have : m ∈ M.rotate (r.leastIndex M) := by
        rw [hturned]
        exact List.mem_cons_of_mem _ hm
      exact List.mem_rotate.1 this
    obtain ⟨j, hj, rfl⟩ := List.getElem_of_mem hmem
    have hne : M[r.leastIndex M] ∉ M.drop (r.leastIndex M + 1) ++ M.take (r.leastIndex M) := by
      have hnodup : (M.rotate (r.leastIndex M)).Nodup := List.nodup_rotate.2 h.nodup
      rw [hturned] at hnodup
      exact (List.nodup_cons.1 hnodup).1
    refine lt_of_le_of_ne (hleast j hj) fun heq => hne ?_
    rw [cycleRank_inj (h.registered _ (List.getElem_mem _)) (h.registered _ (List.getElem_mem _))
      heq]
    exact hm

/-! ## The rings the pass reports -/

theorem reportedRings_foldl_checkDecl (ds : List EntityDecl) :
    reportedRings (ds.foldl (r.checkDecl o) {}).errors =
      (ds.foldl (r.checkDecl o) {}).reported := by
  rw [← reportedRings_filter_nonlocal, foldl_checkDecl_rings ds {} rfl, reportedRings_map]

theorem reportedRings_resolveErrors :
    reportedRings (resolveErrors o r) = (r.decls.foldl (r.checkDecl o) {}).reported := by
  have hvalue : reportedRings (DependencyGraph.build r).valueCycles = [] :=
    List.filterMap_eq_nil_iff.2 fun e he =>
      SchemaError.ring?_eq_none (by rw [kind_of_mem_valueCycles he]; decide)
  rw [resolveErrors, reportedRings, List.filterMap_append, ← reportedRings, ← reportedRings,
    hvalue, List.append_nil, reportedRings_foldl_checkDecl]

/-! ## Each cycle reported once, by the first declaration that leads into it -/

/-- Base links from `n` reach a member of `c`. -/
def LeadsInto (r : Registry) (n : String) (c : List String) : Prop :=
  ∃ m ∈ c, ReflTransGen r.BaseEdge n m

/-- The pass reports ring `c` while it checks the first declaration, in registration order, whose
base links lead into `c`. -/
def ReportedAtFirst (o : ResolveOptions) (r : Registry) (c : List String) : Prop :=
  ∃ pre d post, r.decls = pre ++ d :: post ∧ r.LeadsInto d.name c ∧
    (∀ d' ∈ pre, ¬ r.LeadsInto d'.name c) ∧
    c ∉ reportedRings (pre.foldl (r.checkDecl o) {}).errors ∧
    c ∈ reportedRings (r.checkDecl o (pre.foldl (r.checkDecl o) {}) d).errors

theorem mem_reported_iff {ds : List EntityDecl} {c : List String} :
    c ∈ (ds.foldl (r.checkDecl o) {}).reported ↔
      ∃ d ∈ ds, ∃ ring, r.chainOf d = .cycle ring ∧ c = r.canonicalCycle ring := by
  rw [((foldl_checkDecl_reported (o := o) ds {} List.nodup_nil).2 c)]
  simp

theorem canonicalCycle_eq_iff_cycle {x y : List String} (hx : r.IsRing x) (hy : r.IsRing y) :
    r.canonicalCycle x = r.canonicalCycle y ↔ (x.dropLast : Cycle String) = y.dropLast := by
  rw [canonicalCycle_eq_iff hx hy, Cycle.coe_eq_coe]

theorem leadsInto_canonicalCycle_iff {ring : List String} (h : r.IsRing ring) {n : String} :
    r.LeadsInto n (r.canonicalCycle ring) ↔ r.LeadsInto n ring := by
  simp only [LeadsInto, mem_canonicalCycle_iff h]

section Reported

variable (hr : r.Frozen) (hleaf : r.LeafEnums)
include hr hleaf

theorem reported_isBaseCycle {c : List String}
    (hc : c ∈ (r.decls.foldl (r.checkDecl o) {}).reported) :
    r.IsBaseCycle (c.dropLast : Cycle String) ∧ r.StartsEarliest c := by
  obtain ⟨d, hd, ring, hchain, rfl⟩ := mem_reported_iff.1 hc
  obtain ⟨hstarts, hcycle⟩ := (isRing_of_chainOf hd hchain).canonicalCycle_spec
  exact ⟨hcycle ▸ isBaseCycle_of_chainOf hr hleaf hd hchain, hstarts⟩

theorem chainOf_of_leadsInto_reported {c : List String}
    (hc : c ∈ (r.decls.foldl (r.checkDecl o) {}).reported) (hd : d ∈ r.decls)
    (hlead : r.LeadsInto d.name c) :
    ∃ ring, r.chainOf d = .cycle ring ∧ r.canonicalCycle ring = c := by
  obtain ⟨d₀, hd₀, ring₀, hchain₀, rfl⟩ := mem_reported_iff.1 hc
  have hring₀ := isRing_of_chainOf hd₀ hchain₀
  obtain ⟨-, hcycle₀⟩ := hring₀.canonicalCycle_spec
  obtain ⟨m, hm, hdm⟩ := hlead
  have hm' : m ∈ (ring₀.dropLast : Cycle String) :=
    Cycle.mem_coe_iff.2 (hring₀.mem_dropLast_iff.2 ((mem_canonicalCycle_iff hring₀).1 hm))
  obtain ⟨ring, hchain, hsame⟩ :=
    chainOf_cycle_of_leadsInto hr hleaf hd (isBaseCycle_of_chainOf hr hleaf hd₀ hchain₀) hm' hdm
  exact ⟨ring, hchain,
    (canonicalCycle_eq_iff_cycle (isRing_of_chainOf hd hchain) hring₀).2 hsame⟩

/-- Every cycle of the base-link graph is reported, as exactly one ring. -/
theorem existsUnique_reported {s : Cycle String} (hs : r.IsBaseCycle s) :
    ∃! c, c ∈ (r.decls.foldl (r.checkDecl o) {}).reported ∧
      (c.dropLast : Cycle String) = s := by
  obtain ⟨a, ha⟩ := Cycle.exists_mem_of_ne_nil hs.ne_nil
  obtain ⟨b, -, da, hda, rfl, -⟩ := Cycle.Chain.exists_rel hs.chain ha
  obtain ⟨ring, hchain, hsame⟩ := chainOf_cycle_of_leadsInto hr hleaf hda hs ha .refl
  have hring := isRing_of_chainOf hda hchain
  refine ⟨r.canonicalCycle ring, ⟨mem_reported_iff.2 ⟨da, hda, ring, hchain, rfl⟩,
    hring.canonicalCycle_spec.2.trans hsame⟩, ?_⟩
  rintro c ⟨hc, hcs⟩
  obtain ⟨d', hd', ring', hchain', rfl⟩ := mem_reported_iff.1 hc
  have hring' := isRing_of_chainOf hd' hchain'
  exact (canonicalCycle_eq_iff_cycle hring' hring).2
    (hring'.canonicalCycle_spec.2.symm.trans (hcs.trans hsame.symm))

theorem leadsInto_of_chainOf (hd : d ∈ r.decls) {ring : List String}
    (h : r.chainOf d = .cycle ring) : r.LeadsInto d.name (r.canonicalCycle ring) := by
  have hring := isRing_of_chainOf hd h
  obtain ⟨b, hb, -⟩ := hring.closed
  have hbring : b ∈ ring := List.mem_of_mem_dropLast (List.mem_of_mem_head? hb)
  exact (leadsInto_canonicalCycle_iff hring).2
    ⟨b, hbring, (chainOf_cycle_isChain hr hleaf hd h).2 b hbring⟩

/-- A reported ring is reported while the pass checks the first declaration that leads into
it. -/
theorem reportedAtFirst {c : List String}
    (hc : c ∈ (r.decls.foldl (r.checkDecl o) {}).reported) : r.ReportedAtFirst o c := by
  have hsome : ∃ d ∈ r.decls, r.LeadsInto d.name c := by
    obtain ⟨d, hd, ring, hchain, rfl⟩ := mem_reported_iff.1 hc
    exact ⟨d, hd, leadsInto_of_chainOf hr hleaf hd hchain⟩
  obtain ⟨pre, d, post, hdecls, hlead, hfirst⟩ := List.exists_eq_append_first hsome
  have hd : d ∈ r.decls := hdecls ▸ List.mem_append_right pre List.mem_cons_self
  refine ⟨pre, d, post, hdecls, hlead, hfirst, ?_, ?_⟩
  · rw [reportedRings_foldl_checkDecl, mem_reported_iff]
    rintro ⟨d', hd', ring', hchain', rfl⟩
    have hd'mem : d' ∈ r.decls := hdecls ▸ List.mem_append_left _ hd'
    exact hfirst d' hd' (leadsInto_of_chainOf hr hleaf hd'mem hchain')
  · have hstep : r.checkDecl o (pre.foldl (r.checkDecl o) {}) d =
        (pre ++ [d]).foldl (r.checkDecl o) {} := by
      rw [List.foldl_append]
      rfl
    obtain ⟨ring, hchain, hcanon⟩ := chainOf_of_leadsInto_reported hr hleaf hc hd hlead
    rw [hstep, reportedRings_foldl_checkDecl, mem_reported_iff]
    exact ⟨d, List.mem_append_right pre (List.mem_singleton_self d), ring, hchain, hcanon.symm⟩

end Reported

/-- With no enumeration declaring a base, the rings a failed resolution reports are the cycles of
the base-link graph, one for each: each is reported once, as its members in base-link order
turned to start at the member registered first and closed by it, and it is reported while the
pass checks the first declaration whose base links lead into it. -/
theorem resolve_inheritanceCycles (o : ResolveOptions) (r : Registry) (hr : r.Frozen)
    (hleaf : r.LeafEnums) :
    (∀ s, r.IsBaseCycle s → ∃ errors, r.resolve o = .error errors) ∧
    ∀ errors, r.resolve o = .error errors →
      (reportedRings errors).Nodup ∧
      (∀ s, r.IsBaseCycle s →
        ∃! c, c ∈ reportedRings errors ∧ (c.dropLast : Cycle String) = s) ∧
      ∀ c ∈ reportedRings errors,
        r.IsBaseCycle (c.dropLast : Cycle String) ∧ r.StartsEarliest c ∧
          r.ReportedAtFirst o c := by
  have hrings : reportedRings (resolveErrors o r) = (r.decls.foldl (r.checkDecl o) {}).reported :=
    reportedRings_resolveErrors
  refine ⟨fun s hs => ?_, fun errors herr => ?_⟩
  · obtain ⟨c, ⟨hc, -⟩, -⟩ : ∃! c, c ∈ (r.decls.foldl (r.checkDecl o) {}).reported ∧
        (c.dropLast : Cycle String) = s := existsUnique_reported hr hleaf hs
    have hne : resolveErrors o r ≠ [] := fun hnil => by
      rw [← hrings, hnil] at hc
      exact List.not_mem_nil hc
    exact ⟨_, resolve_error_iff.2 ⟨rfl, hne⟩⟩
  · obtain ⟨rfl, -⟩ := resolve_error_iff.1 herr
    rw [hrings]
    refine ⟨(foldl_checkDecl_reported r.decls {} List.nodup_nil).1,
      fun s hs => existsUnique_reported hr hleaf hs, fun c hc => ?_⟩
    obtain ⟨hcycle, hstarts⟩ := reported_isBaseCycle hr hleaf hc
    exact ⟨hcycle, hstarts, reportedAtFirst hr hleaf hc⟩

def tailIntoRing : Registry :=
  ⟨[{ name := "Tail", base := some "A" }, { name := "A", base := some "B" },
    { name := "B", base := some "A" }, { name := "Color", kind := .enumeration ["red"] }]⟩

theorem tailIntoRing_inheritanceCycles :
    tailIntoRing.Frozen ∧ tailIntoRing.LeafEnums ∧
    (∀ s, tailIntoRing.IsBaseCycle s → ∃ errors, tailIntoRing.resolve {} = .error errors) ∧
    ∀ errors, tailIntoRing.resolve {} = .error errors →
      (reportedRings errors).Nodup ∧
      (∀ s, tailIntoRing.IsBaseCycle s →
        ∃! c, c ∈ reportedRings errors ∧ (c.dropLast : Cycle String) = s) ∧
      ∀ c ∈ reportedRings errors,
        tailIntoRing.IsBaseCycle (c.dropLast : Cycle String) ∧ tailIntoRing.StartsEarliest c ∧
          tailIntoRing.ReportedAtFirst {} c := by
  have hfrozen : tailIntoRing.Frozen := by decide
  have hleaf : tailIntoRing.LeafEnums := by decide
  exact ⟨hfrozen, hleaf, resolve_inheritanceCycles {} tailIntoRing hfrozen hleaf⟩

/-- An enumeration whose base is a class based on it. -/
def enumInRing : Registry :=
  ⟨[{ name := "E", kind := .enumeration ["x"], base := some "C" },
    { name := "C", base := some "E" }]⟩

/-- The base-link graph of `enumInRing` has no cycle, since no base link leaves the class `C` for
the enumeration `E`; yet the walk from `E` comes back to it, and resolution reports that ring. -/
theorem enumInRing_reports_ring :
    ¬ enumInRing.LeafEnums ∧ (∀ s, ¬ enumInRing.IsBaseCycle s) ∧
      enumInRing.resolve {} = .error [.inheritanceCycle ["E", "C", "E"],
        .unresolvedReference "C" none "E" (some "an enumeration cannot be used as a base")] := by
  have hedge : ∀ x y, enumInRing.BaseEdge x y → x = "E" ∧ y = "C" := by
    rintro x y ⟨d, hd, rfl, hb, -, t, ht, hte⟩
    simp only [enumInRing, List.mem_cons, List.not_mem_nil, or_false] at hd
    rcases hd with rfl | rfl
    · exact ⟨rfl, (Option.some.inj hb).symm⟩
    · obtain rfl := (Option.some.inj hb).symm
      simp only [enumInRing, lookup?] at ht
      cases ht
      cases hte
  refine ⟨by decide, fun s hs => ?_, rfl⟩
  obtain ⟨a, ha⟩ := Cycle.exists_mem_of_ne_nil hs.ne_nil
  obtain ⟨b, hb, hab⟩ := Cycle.Chain.exists_rel hs.chain ha
  obtain ⟨c, -, hbc⟩ := Cycle.Chain.exists_rel hs.chain hb
  have h₁ := (hedge a b hab).2
  have h₂ := (hedge b c hbc).1
  exact absurd (h₁.symm.trans h₂) (by decide)

end Registry

end EntitySchema
