import Mathlib.Data.List.Chain
import EntitySchema.Proofs.BaseChain

/-! # Where a walk along base links ends

Following base links from a declaration `d` meets `d` and then the classes `xs` the links lead
to, one after another: each the registered class that the declaration before it names as its
base, and no name met twice (`BaseWalk`). The walk stops at the last declaration met, by that
declaration's base (`WalkStops`): with none it is complete, and the classes met are the
ancestors, root first; a base naming the declaration itself breaks it; a base naming a
declaration met before closes a ring, from that declaration on; and a base that names no
registered class breaks it.

`chainOf` is that walk. It returns `c` exactly when some walk from `d` stops with `c`
(`chainOf_eq_iff`). A walk meets distinct registered names, so never more declarations than
the registry holds (`BaseWalk.length_lt`); and `walkBases` needs one round per declaration met,
any fuel beyond that giving the same answer (`walkBases_of_stops`). The registry's size is
therefore always enough: the loop never runs out before the walk stops.
-/

namespace EntitySchema

namespace Registry

variable {r : Registry} {d : EntityDecl}

/-- `x` names the registered class `p` as its base: the link a walk follows. -/
def FollowsBase (r : Registry) (x p : EntityDecl) : Prop :=
  x.base = some p.name ∧ r.lookup? p.name = some p ∧ p.isEnum = false

/-- Following base links from `d` meets the classes `xs`, one after another, and no name twice. -/
def BaseWalk (r : Registry) (d : EntityDecl) (xs : List EntityDecl) : Prop :=
  (d :: xs).IsChain r.FollowsBase ∧ ((d :: xs).map (·.name)).Nodup

/-- How the walk that has met `d` and then `xs` stops, by the base of the last declaration met:
none completes it, with the classes met as the ancestors, root first; the declaration's own name
breaks it; a name met before closes the ring from that name on, repeated at its end; and a name
that is no registered class breaks it. -/
def WalkStops (r : Registry) (d : EntityDecl) (xs : List EntityDecl) : Chain → Prop
  | .complete anc => (xs.getLastD d).base = none ∧ anc = (xs.map (·.name)).reverse
  | .cycle ring => ∃ b, (xs.getLastD d).base = some b ∧ b ≠ (xs.getLastD d).name ∧
      b ∈ (d :: xs).map (·.name) ∧
      ring = ((d :: xs).map (·.name)).drop (((d :: xs).map (·.name)).idxOf b) ++ [b]
  | .broken => ∃ b, (xs.getLastD d).base = some b ∧
      (b = (xs.getLastD d).name ∨
        b ∉ (d :: xs).map (·.name) ∧ ∀ p, r.lookup? b = some p → p.isEnum = true)

/-! ## Walks -/

theorem BaseWalk.nil (d : EntityDecl) : r.BaseWalk d [] :=
  ⟨List.isChain_singleton d, List.nodup_singleton _⟩

theorem lookup?_of_isChain :
    ∀ {d : EntityDecl} {xs : List EntityDecl}, (d :: xs).IsChain r.FollowsBase →
      ∀ x ∈ xs, r.lookup? x.name = some x
  | _, [], _, _, hx => absurd hx List.not_mem_nil
  | _, y :: ys, h, x, hx => by
    obtain ⟨hdy, hrest⟩ := List.isChain_cons_cons.1 h
    rcases List.mem_cons.1 hx with rfl | hx
    · exact hdy.2.1
    · exact lookup?_of_isChain hrest x hx

/-- A walk from a registered declaration meets distinct registered names, so it meets at most as
many declarations as the registry holds. -/
theorem BaseWalk.length_lt (hd : d ∈ r.decls) {xs : List EntityDecl} (h : r.BaseWalk d xs) :
    xs.length < r.size := by
  have hsub : (d :: xs).map (·.name) ⊆ r.names := by
    intro n hn
    obtain ⟨x, hx, rfl⟩ := List.mem_map.1 hn
    rcases List.mem_cons.1 hx with rfl | hx
    · exact name_mem_names hd
    · exact mem_names_of_lookup? (lookup?_of_isChain h.1 x hx)
  have hle := (h.2.subperm hsub).length_le
  simp only [List.length_map, List.length_cons] at hle
  have hsize : r.names.length = r.size := by simp [size, names]
  omega

theorem BaseWalk.snoc {xs : List EntityDecl} {p : EntityDecl} (h : r.BaseWalk d xs)
    (hp : r.FollowsBase (xs.getLastD d) p) (hnew : p.name ∉ (d :: xs).map (·.name)) :
    r.BaseWalk d (xs ++ [p]) := by
  refine ⟨?_, ?_⟩
  · rw [← List.cons_append]
    refine List.isChain_append.2 ⟨h.1, List.isChain_singleton p, fun x hx y hy => ?_⟩
    rw [List.getLast?_cons, Option.mem_some_iff] at hx
    rw [List.head?_singleton, Option.mem_some_iff] at hy
    rw [← hx, ← hy, ← List.getLastD_eq_getLast?]
    exact hp
  · rw [← List.cons_append, List.map_append, List.map_singleton]
    exact List.nodup_append.2 ⟨h.2, List.nodup_singleton _,
      fun a ha b hb hab => hnew (List.mem_singleton.1 hb ▸ hab ▸ ha)⟩

/-- The declaration a walk meets after the first part `xs` is the class the last declaration of
that part names as its base, and its name is new. -/
theorem BaseWalk.next {xs ys : List EntityDecl} {y : EntityDecl} (h : r.BaseWalk d (xs ++ y :: ys)) :
    r.FollowsBase (xs.getLastD d) y ∧ y.name ∉ (d :: xs).map (·.name) := by
  obtain ⟨hchain, hnodup⟩ := h
  rw [← List.cons_append] at hchain hnodup
  refine ⟨?_, ?_⟩
  · obtain ⟨-, -, hlink⟩ := List.isChain_append.1 hchain
    refine hlink _ ?_ y (by simp)
    rw [List.getLast?_cons, List.getLastD_eq_getLast?]
    rfl
  · rw [List.map_append, List.map_cons] at hnodup
    intro hy
    exact (List.nodup_append.1 hnodup).2.2 _ hy _ List.mem_cons_self rfl

/-! ## One round of `walkBases` -/

theorem walkBases_of_walkStops {xs : List EntityDecl} {c : Chain} (fuel : Nat)
    (h : r.WalkStops d xs c) :
    r.walkBases (fuel + 1) ((d :: xs).map (·.name)) (xs.getLastD d) = c := by
  cases c with
  | complete anc =>
    obtain ⟨hb, rfl⟩ := h
    rw [walkBases, hb]
    simp
  | cycle ring =>
    obtain ⟨b, hb, hself, hmem, rfl⟩ := h
    have hne : (b == (xs.getLastD d).name) = false := by simpa using hself
    rw [walkBases, hb]
    simp only [hne, Bool.false_eq_true, if_false, List.idxOf?_eq_some_idxOf hmem]
  | broken =>
    obtain ⟨b, hb, hself | ⟨hnot, henum⟩⟩ := h
    · have heq : (b == (xs.getLastD d).name) = true := by simpa using hself
      rw [walkBases, hb]
      simp only [heq, if_true]
    · have hlast : (xs.getLastD d).name ∈ (d :: xs).map (·.name) :=
        List.mem_map_of_mem List.getLastD_mem_cons
      have hne : (b == (xs.getLastD d).name) = false := by
        simpa using fun h : b = (xs.getLastD d).name => hnot (h ▸ hlast)
      have hnone : ((d :: xs).map (·.name)).idxOf? b = none := List.idxOf?_eq_none_iff.2 hnot
      rw [walkBases, hb]
      simp only [hne, Bool.false_eq_true, if_false, hnone]
      cases hp : r.lookup? b with
      | none => rfl
      | some p => simp [henum p hp]

theorem walkBases_succ_of_followsBase {xs : List EntityDecl} {y : EntityDecl} (fuel : Nat)
    (hy : r.FollowsBase (xs.getLastD d) y) (hnew : y.name ∉ (d :: xs).map (·.name)) :
    r.walkBases (fuel + 1) ((d :: xs).map (·.name)) (xs.getLastD d) =
      r.walkBases fuel ((d :: xs).map (·.name) ++ [y.name]) y := by
  obtain ⟨hb, hp, hpe⟩ := hy
  have hlast : (xs.getLastD d).name ∈ (d :: xs).map (·.name) :=
    List.mem_map_of_mem List.getLastD_mem_cons
  have hne : (y.name == (xs.getLastD d).name) = false := by
    simpa using fun h : y.name = (xs.getLastD d).name => hnew (h ▸ hlast)
  have hnone : ((d :: xs).map (·.name)).idxOf? y.name = none := List.idxOf?_eq_none_iff.2 hnew
  rw [walkBases, hb]
  simp only [hne, Bool.false_eq_true, if_false, hnone, hp, hpe]

/-! ## Whole walks -/

/-- With fuel for every registered name not yet met, `walkBases` from the end of a walk answers
as some longer walk stops. -/
theorem walkBases_stops (hd : d ∈ r.decls) :
    ∀ (fuel : Nat) (xs : List EntityDecl), r.BaseWalk d xs → r.size ≤ xs.length + fuel →
      ∃ ys, r.BaseWalk d (xs ++ ys) ∧
        r.WalkStops d (xs ++ ys) (r.walkBases fuel ((d :: xs).map (·.name)) (xs.getLastD d))
  | 0, xs, h, hfuel => absurd (h.length_lt hd) (by omega)
  | fuel + 1, xs, h, hfuel => by
    generalize hw : r.walkBases (fuel + 1) ((d :: xs).map (·.name)) (xs.getLastD d) = c
    rcases walkBases_succ_cases hw with
      ⟨hb, rfl⟩ | ⟨b, hb, hself, rfl⟩ | ⟨b, pos, hb, hself, hpos, rfl⟩ |
        ⟨b, hb, -, hnot, henum, rfl⟩ | ⟨b, p, hb, -, hnot, hp, hpe, rfl⟩
    · refine ⟨[], by simpa using h, ?_⟩
      rw [List.append_nil]
      exact ⟨hb, by simp⟩
    · refine ⟨[], by simpa using h, ?_⟩
      rw [List.append_nil]
      exact ⟨b, hb, .inl hself⟩
    · have hmem : b ∈ (d :: xs).map (·.name) := List.isSome_idxOf?.1 (by rw [hpos]; rfl)
      have hpos' : pos = ((d :: xs).map (·.name)).idxOf b :=
        Option.some.inj (hpos.symm.trans (List.idxOf?_eq_some_idxOf hmem))
      refine ⟨[], by simpa using h, ?_⟩
      rw [List.append_nil]
      exact ⟨b, hb, hself, hmem, by rw [hpos']⟩
    · refine ⟨[], by simpa using h, ?_⟩
      rw [List.append_nil]
      exact ⟨b, hb, .inr ⟨hnot, henum⟩⟩
    · obtain rfl := lookup?_name hp
      have hstep := h.snoc ⟨hb, hp, hpe⟩ hnot
      obtain ⟨ys, hwalk, hstops⟩ :=
        walkBases_stops hd fuel (xs ++ [p]) hstep
          (by simp only [List.length_append, List.length_singleton]; omega)
      have happ : xs ++ [p] ++ ys = xs ++ p :: ys := by simp
      have hway : (d :: (xs ++ [p])).map (·.name) = (d :: xs).map (·.name) ++ [p.name] := by simp
      rw [happ, hway, List.getLastD_concat] at hstops
      exact ⟨p :: ys, happ ▸ hwalk, hstops⟩

/-- A walk that stops with `c` after meeting `ys` more declarations: `walkBases` from where it
stands returns `c` with any fuel above the length of `ys`. -/
theorem walkBases_of_stops :
    ∀ (ys xs : List EntityDecl) (fuel : Nat) (c : Chain), r.BaseWalk d (xs ++ ys) →
      r.WalkStops d (xs ++ ys) c → ys.length < fuel →
      r.walkBases fuel ((d :: xs).map (·.name)) (xs.getLastD d) = c
  | [], xs, fuel + 1, c, _, hs, _ => walkBases_of_walkStops fuel (by simpa using hs)
  | y :: ys, xs, fuel + 1, c, h, hs, hfuel => by
    obtain ⟨hy, hnew⟩ := h.next
    rw [walkBases_succ_of_followsBase fuel hy hnew]
    have happ : xs ++ [y] ++ ys = xs ++ y :: ys := by simp
    have ih := walkBases_of_stops ys (xs ++ [y]) fuel c (happ ▸ h) (happ ▸ hs)
      (by simpa using hfuel)
    have hway : (d :: (xs ++ [y])).map (·.name) = (d :: xs).map (·.name) ++ [y.name] := by simp
    rwa [hway, List.getLastD_concat] at ih
  | _, _, 0, _, _, _, hfuel => absurd hfuel (Nat.not_lt_zero _)

/-- `chainOf d` is `c` exactly when following base links from `d` stops with `c`. -/
theorem chainOf_eq_iff (hd : d ∈ r.decls) {c : Chain} :
    r.chainOf d = c ↔ ∃ xs, r.BaseWalk d xs ∧ r.WalkStops d xs c := by
  constructor
  · rintro rfl
    obtain ⟨xs, hwalk, hstops⟩ := walkBases_stops hd r.size [] (.nil d) (by omega)
    exact ⟨xs, hwalk, hstops⟩
  · rintro ⟨xs, hwalk, hstops⟩
    exact walkBases_of_stops xs [] r.size c hwalk hstops (hwalk.length_lt hd)

/-- Following base links from a registered declaration `d`: no walk meets more declarations
than the registry holds; the walk that `chainOf` takes stops after meeting some `d :: xs`, and
`walkBases` gives its answer with any fuel from the length of `d :: xs` on, so the loop ends
within as many rounds as the registry has declarations; and `chainOf d` is `c` exactly when
following base links from `d` stops with `c`: complete with the classes met, root first, when
the last has no base; a ring from the first occurrence of a name met again, closed by it; or
broken at a self-base, an unregistered base or an enumeration base. -/
theorem chainOf_walk (hd : d ∈ r.decls) :
    (∀ xs, r.BaseWalk d xs → (d :: xs).length ≤ r.size) ∧
    (∃ xs, r.BaseWalk d xs ∧ r.WalkStops d xs (r.chainOf d) ∧
      ∀ fuel, (d :: xs).length ≤ fuel → r.walkBases fuel [d.name] d = r.chainOf d) ∧
    ∀ c, r.chainOf d = c ↔ ∃ xs, r.BaseWalk d xs ∧ r.WalkStops d xs c := by
  refine ⟨fun xs h => h.length_lt hd, ?_, fun c => chainOf_eq_iff hd⟩
  obtain ⟨xs, hwalk, hstops⟩ := (chainOf_eq_iff hd).1 rfl
  refine ⟨xs, hwalk, hstops, fun fuel hfuel => ?_⟩
  exact walkBases_of_stops xs [] fuel _ hwalk hstops (by simp at hfuel; omega)

def pairTail : EntityDecl := { name := "A", base := some "B" }

/-- `A` extends `B`, and `B` and `C` extend each other. -/
def tailIntoPair : Registry :=
  ⟨[pairTail, { name := "B", base := some "C" }, { name := "C", base := some "B" }]⟩

/-- The walk from `A` meets `B` and `C`, then `B` again: the ring `B`, `C`, `B`. -/
theorem tailIntoPair_walk :
    pairTail ∈ tailIntoPair.decls ∧ tailIntoPair.chainOf pairTail = .cycle ["B", "C", "B"] ∧
      (∀ xs, tailIntoPair.BaseWalk pairTail xs → (pairTail :: xs).length ≤ tailIntoPair.size) ∧
      (∃ xs, tailIntoPair.BaseWalk pairTail xs ∧
        tailIntoPair.WalkStops pairTail xs (tailIntoPair.chainOf pairTail) ∧
        ∀ fuel, (pairTail :: xs).length ≤ fuel →
          tailIntoPair.walkBases fuel [pairTail.name] pairTail = tailIntoPair.chainOf pairTail) ∧
      ∀ c, tailIntoPair.chainOf pairTail = c ↔
        ∃ xs, tailIntoPair.BaseWalk pairTail xs ∧ tailIntoPair.WalkStops pairTail xs c := by
  have hd : pairTail ∈ tailIntoPair.decls := List.mem_cons_self
  exact ⟨hd, rfl, chainOf_walk hd⟩

end Registry

end EntitySchema
