import Mathlib.Data.List.Rotate
import EntitySchema.Proofs.BaseChain

/-! # Canonical rings

`canonicalCycle` turns a ring of bases to start at its member of least rank, the member
registered first, and closes it again. The rings walks find are closed lists of distinct
registered names (`IsRing`); for those, two rings have one canonical form exactly when their
members are rotations of each other (`canonicalCycle_eq_iff`). The registration order decides
only where the canonical form starts, never which rings share one.
-/

namespace EntitySchema

namespace Registry

variable {r : Registry}

/-- The rank `canonicalCycle` orders members by: the registration position, past the end for a
name not registered. -/
def cycleRank (r : Registry) (name : String) : Nat := (r.position? name).getD r.size

/-- One step of the search for the first member of least rank: its index and rank so far. -/
def leastStep (rank : String → Nat) (best : Option (Nat × Nat)) (entry : Nat × String) :
    Option (Nat × Nat) :=
  match best with
  | some (i, k) => if rank entry.2 < k then some (entry.1, rank entry.2) else some (i, k)
  | none => some (entry.1, rank entry.2)

/-- The index of the first member of least rank. -/
def leastIndex (r : Registry) (members : List String) : Nat :=
  ((((List.range members.length).zip members).foldl (leastStep r.cycleRank) none).map (·.1)).getD 0

/-- A list closed again by its first element. -/
def closeRing (rotated : List String) : List String :=
  match rotated.head? with
  | some first => rotated ++ [first]
  | none => rotated

theorem canonicalCycle_eq (ring : List String) :
    r.canonicalCycle ring =
      closeRing (ring.dropLast.drop (r.leastIndex ring.dropLast) ++
        ring.dropLast.take (r.leastIndex ring.dropLast)) := rfl

@[simp] theorem dropLast_closeRing (l : List String) : (closeRing l).dropLast = l := by
  unfold closeRing
  split
  · simp
  · rename_i hnone
    rw [List.head?_eq_none_iff.1 hnone]
    rfl

/-! ## The member of least rank -/

theorem foldl_leastStep (rank : String → Nat) :
    ∀ (l : List (Nat × String)) (i k : Nat), ∃ i' k',
      l.foldl (leastStep rank) (some (i, k)) = some (i', k') ∧ k' ≤ k ∧
        (∀ e ∈ l, k' ≤ rank e.2) ∧ ((i' = i ∧ k' = k) ∨ ∃ x, (i', x) ∈ l ∧ k' = rank x)
  | [], i, k => ⟨i, k, rfl, le_rfl, by simp, .inl ⟨rfl, rfl⟩⟩
  | e :: l, i, k => by
    by_cases he : rank e.2 < k
    · obtain ⟨i', k', hf, hle, hall, hsrc⟩ := foldl_leastStep rank l e.1 (rank e.2)
      refine ⟨i', k', by simpa [leastStep, he] using hf, by omega, ?_, ?_⟩
      · simp only [List.mem_cons, forall_eq_or_imp]
        exact ⟨hle, hall⟩
      · rcases hsrc with ⟨rfl, rfl⟩ | ⟨x, hx, rfl⟩
        · exact .inr ⟨e.2, List.mem_cons_self, rfl⟩
        · exact .inr ⟨x, List.mem_cons_of_mem _ hx, rfl⟩
    · obtain ⟨i', k', hf, hle, hall, hsrc⟩ := foldl_leastStep rank l i k
      refine ⟨i', k', by simpa [leastStep, he] using hf, hle, ?_, ?_⟩
      · simp only [List.mem_cons, forall_eq_or_imp]
        exact ⟨by omega, hall⟩
      · rcases hsrc with h | ⟨x, hx, rfl⟩
        · exact .inl h
        · exact .inr ⟨x, List.mem_cons_of_mem _ hx, rfl⟩

theorem mem_zip_range {members : List String} {i : Nat} {x : String} :
    (i, x) ∈ (List.range members.length).zip members ↔ ∃ h : i < members.length, members[i] = x := by
  constructor
  · intro hmem
    obtain ⟨j, hj, hget⟩ := List.mem_iff_getElem.1 hmem
    simp only [List.getElem_zip, List.getElem_range, Prod.mk.injEq] at hget
    obtain ⟨rfl, rfl⟩ := hget
    exact ⟨by simpa using hj, rfl⟩
  · rintro ⟨hi, rfl⟩
    refine List.mem_iff_getElem.2 ⟨i, by simpa using hi, ?_⟩
    simp

theorem leastIndex_spec {members : List String} (h : members ≠ []) :
    ∃ hs : r.leastIndex members < members.length, ∀ j (hj : j < members.length),
      r.cycleRank members[r.leastIndex members] ≤ r.cycleRank members[j] := by
  obtain ⟨x₀, rest, hsplit⟩ := List.exists_cons_of_ne_nil h
  have hentries : (List.range members.length).zip members =
      (0, x₀) :: (((List.range members.length).zip members).drop 1) := by
    rw [hsplit]
    simp [List.range_succ_eq_map, List.zip_cons_cons]
  obtain ⟨i', k', hf, hle, hall, hsrc⟩ :=
    foldl_leastStep r.cycleRank (((List.range members.length).zip members).drop 1) 0 (r.cycleRank x₀)
  have hfold : ((List.range members.length).zip members).foldl (leastStep r.cycleRank) none =
      some (i', k') := by
    rw [hentries, List.foldl_cons]
    exact hf
  have hidx : r.leastIndex members = i' := by simp [leastIndex, hfold]
  have hfound : ∃ x, (i', x) ∈ (List.range members.length).zip members ∧ k' = r.cycleRank x := by
    rcases hsrc with ⟨rfl, rfl⟩ | ⟨x, hx, rfl⟩
    · exact ⟨x₀, by rw [hentries]; exact List.mem_cons_self, rfl⟩
    · exact ⟨x, List.mem_of_mem_drop hx, rfl⟩
  obtain ⟨x, hx, rfl⟩ := hfound
  obtain ⟨hi', rfl⟩ := mem_zip_range.1 hx
  refine ⟨hidx ▸ hi', fun j hj => ?_⟩
  simp only [hidx]
  rcases Nat.eq_zero_or_pos j with rfl | hjpos
  · have h0 : members[0] = x₀ := by simp [hsplit]
    rw [h0]
    exact hle
  · have hmem : (j, members[j]) ∈ ((List.range members.length).zip members).drop 1 := by
      have hin : (j, members[j]) ∈ (List.range members.length).zip members :=
        mem_zip_range.2 ⟨hj, rfl⟩
      rw [hentries] at hin
      rcases List.mem_cons.1 hin with heq | hin
      · simp at heq
        omega
      · exact hin
    exact hall _ hmem

theorem leastIndex_le_length (members : List String) :
    r.leastIndex members ≤ members.length := by
  by_cases h : members = []
  · simp [h, leastIndex]
  · exact (leastIndex_spec h).1.le

theorem canonicalCycle_eq_closeRing (ring : List String) :
    r.canonicalCycle ring = closeRing (ring.dropLast.rotate (r.leastIndex ring.dropLast)) := by
  rw [canonicalCycle_eq, List.rotate_eq_drop_append_take (leastIndex_le_length _)]

/-! ## Rings that walks find -/

/-- A ring as walks find it: distinct registered names, the first repeated at the end. -/
structure IsRing (r : Registry) (ring : List String) : Prop where
  closed : ∃ b, ring.dropLast.head? = some b ∧ ring = ring.dropLast ++ [b]
  nodup : ring.dropLast.Nodup
  registered : ∀ x ∈ ring.dropLast, x ∈ r.names

theorem IsRing.ne_nil {ring : List String} (h : r.IsRing ring) : ring.dropLast ≠ [] := by
  obtain ⟨b, hb, -⟩ := h.closed
  intro hnil
  simp [hnil] at hb

theorem isRing_of_walkBases {start : String} :
    ∀ (fuel : Nat) (way : List String) (current : EntityDecl) (ring : List String),
      WalkInv r start fuel way current → r.walkBases fuel way current = .cycle ring →
      r.IsRing ring
  | 0, _, _, _, h, _ => absurd h.fuel_pos (Nat.lt_irrefl 0)
  | fuel + 1, way, current, ring, h, hw => by
    rcases walkBases_succ_cases hw with
      ⟨-, hc⟩ | ⟨b, -, -, hc⟩ | ⟨b, pos, -, -, hpos, hc⟩ | ⟨b, -, -, -, -, hc⟩ |
        ⟨b, p, hb, -, hnot, hp, -, hc⟩
    · cases hc
    · cases hc
    · cases hc
      obtain ⟨hlt, hget, -⟩ := List.idxOf?_eq_some_iff.1 hpos
      have hdl : (way.drop pos ++ [b]).dropLast = way.drop pos := List.dropLast_concat
      refine ⟨⟨b, ?_, by rw [hdl]⟩, ?_, ?_⟩
      · rw [hdl, List.head?_drop, List.getElem?_eq_getElem hlt, hget]
      · rw [hdl]
        exact h.nodup.sublist (List.drop_sublist _ _)
      · rw [hdl]
        exact fun x hx => h.registered x (List.mem_of_mem_drop hx)
    · cases hc
    · exact isRing_of_walkBases fuel _ _ ring (h.step hb hnot hp) hc.symm

theorem isRing_of_chainOf {d : EntityDecl} (hd : d ∈ r.decls) {ring : List String}
    (h : r.chainOf d = .cycle ring) : r.IsRing ring :=
  isRing_of_walkBases _ _ _ ring (WalkInv.init hd) h

/-! ## When two rings share a canonical form -/

theorem cycleRank_inj {x y : String} (hx : x ∈ r.names) (hy : y ∈ r.names)
    (h : r.cycleRank x = r.cycleRank y) : x = y := by
  obtain ⟨i, hi⟩ := Option.isSome_iff_exists.1 (List.isSome_idxOf?.2 hx)
  obtain ⟨j, hj⟩ := Option.isSome_iff_exists.1 (List.isSome_idxOf?.2 hy)
  have hij : i = j := by simpa [cycleRank, position?, hi, hj] using h
  subst hij
  obtain ⟨_, hxi, -⟩ := List.idxOf?_eq_some_iff.1 hi
  obtain ⟨_, hyi, -⟩ := List.idxOf?_eq_some_iff.1 hj
  rw [← hxi, ← hyi]

theorem cycleRank_least_le {members : List String} (h : members ≠ []) {y z : String}
    (hy : y ∈ members) (hz : members[r.leastIndex members]? = some z) :
    r.cycleRank z ≤ r.cycleRank y := by
  obtain ⟨hs, hleast⟩ := leastIndex_spec (r := r) h
  obtain ⟨j, hj, rfl⟩ := List.mem_iff_getElem.1 hy
  rw [List.getElem?_eq_getElem hs, Option.some_inj] at hz
  exact hz ▸ hleast j hj

theorem head?_rotate_mod {l : List String} (h : l ≠ []) (k : Nat) :
    (l.rotate k).head? = l[k % l.length]? := by
  rw [← List.rotate_mod, List.head?_rotate (Nat.mod_lt _ (List.length_pos_of_ne_nil h))]

/-- Two rings share a canonical form exactly when their members are rotations of each other. -/
theorem canonicalCycle_eq_iff {x y : List String} (hx : r.IsRing x) (hy : r.IsRing y) :
    r.canonicalCycle x = r.canonicalCycle y ↔ x.dropLast ~r y.dropLast := by
  rw [canonicalCycle_eq_closeRing, canonicalCycle_eq_closeRing]
  constructor
  · intro h
    have hturned := congrArg List.dropLast h
    rw [dropLast_closeRing, dropLast_closeRing] at hturned
    have hx' : x.dropLast ~r x.dropLast.rotate (r.leastIndex x.dropLast) := ⟨_, rfl⟩
    have hy' : y.dropLast ~r y.dropLast.rotate (r.leastIndex y.dropLast) := ⟨_, rfl⟩
    rw [hturned] at hx'
    exact hx'.trans hy'.symm
  · rintro ⟨t, hrot⟩
    set M := x.dropLast with hM
    set M' := y.dropLast with hM'
    have hne : M ≠ [] := hx.ne_nil
    have hne' : M' ≠ [] := hy.ne_nil
    obtain ⟨hs, -⟩ := leastIndex_spec (r := r) hne
    obtain ⟨hs', -⟩ := leastIndex_spec (r := r) hne'
    have hmem : ∀ z, z ∈ M' ↔ z ∈ M := fun z => by rw [← hrot, List.mem_rotate]
    have hz : M[r.leastIndex M]? = some M[r.leastIndex M] := List.getElem?_eq_getElem hs
    have hz' : M'[r.leastIndex M']? = some M'[r.leastIndex M'] := List.getElem?_eq_getElem hs'
    have hleast : M[r.leastIndex M] = M'[r.leastIndex M'] := by
      apply cycleRank_inj (hx.registered _ (List.getElem_mem _))
        (hy.registered _ (List.getElem_mem _))
      exact le_antisymm (cycleRank_least_le hne ((hmem _).1 (List.getElem_mem _)) hz)
        (cycleRank_least_le hne' ((hmem _).2 (List.getElem_mem _)) hz')
    have hturn : M'.rotate (r.leastIndex M') = M.rotate (t + r.leastIndex M') := by
      rw [← hrot, List.rotate_rotate]
    have hlt := Nat.mod_lt (t + r.leastIndex M') (List.length_pos_of_ne_nil hne)
    have hheads : M[(t + r.leastIndex M') % M.length] = M[r.leastIndex M] := by
      have h1 := head?_rotate_mod hne (t + r.leastIndex M')
      rw [← hturn, List.head?_rotate hs', hz', List.getElem?_eq_getElem hlt, Option.some_inj] at h1
      rw [← h1, hleast]
    have hidx := (hx.nodup.getElem_inj_iff).1 hheads
    rw [hturn, ← List.rotate_mod M (t + r.leastIndex M'), hidx]

end Registry

end EntitySchema
