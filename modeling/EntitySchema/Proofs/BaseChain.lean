import EntitySchema.Proofs.Links

/-! # Walks along base links

`walkBases` follows base links from a declaration, keeping the names it has passed. Each step
is one of five: the declaration has no base (the walk is complete), it extends itself, its base
is already on the way (a ring), its base cannot be followed, or the walk goes on to the base
(`walkBases_succ_cases`). Every other fact about walks is read off those five.

Along a walk from `start` the names on the way are distinct and registered, each is reached
from `start` and reaches the current declaration by base links (`WalkInv`), and the fuel
covers every registered name not yet on the way. So in a frozen registry:

* a complete walk lists exactly the transitive ancestors (`mem_ancestors_iff`), and no ring of
  bases can be reached from its start (`not_revisit_of_complete`);
* a ring is reached from the start (`revisit_of_cycle`), and its members are distinct
  registered names;
* when every base reached from the start is a registered class other than its declaration,
  the walk is not broken (`walkBases_ne_broken`).
-/

namespace EntitySchema

namespace Registry

variable {r : Registry}

open Relation

/-! ## One step -/

theorem walkBases_succ_cases {fuel : Nat} {way : List String} {current : EntityDecl} {c : Chain}
    (h : r.walkBases (fuel + 1) way current = c) :
    (current.base = none ∧ c = .complete (way.drop 1).reverse) ∨
    (∃ b, current.base = some b ∧ b = current.name ∧ c = .broken) ∨
    (∃ b pos, current.base = some b ∧ b ≠ current.name ∧ way.idxOf? b = some pos ∧
      c = .cycle (way.drop pos ++ [b])) ∨
    (∃ b, current.base = some b ∧ b ≠ current.name ∧ b ∉ way ∧
      (∀ p, r.lookup? b = some p → p.isEnum = true) ∧ c = .broken) ∨
    (∃ b p, current.base = some b ∧ b ≠ current.name ∧ b ∉ way ∧ r.lookup? b = some p ∧
      p.isEnum = false ∧ c = r.walkBases fuel (way ++ [p.name]) p) := by
  rw [walkBases] at h
  cases hb : current.base with
  | none =>
    simp only [hb] at h
    exact .inl ⟨rfl, h.symm⟩
  | some b =>
    simp only [hb] at h
    by_cases hself : b = current.name
    · exact .inr (.inl ⟨b, rfl, hself, by simpa [hself] using h.symm⟩)
    have hself' : (b == current.name) = false := by simpa using hself
    simp only [hself', Bool.false_eq_true, if_false] at h
    cases hpos : way.idxOf? b with
    | some pos =>
      simp only [hpos] at h
      exact .inr (.inr (.inl ⟨b, pos, rfl, hself, hpos, h.symm⟩))
    | none =>
      simp only [hpos] at h
      have hnot : b ∉ way := by simpa using hpos
      cases hp : r.lookup? b with
      | none =>
        simp only [hp] at h
        exact .inr (.inr (.inr (.inl ⟨b, rfl, hself, hnot, by simp [hp], h.symm⟩)))
      | some p =>
        simp only [hp] at h
        cases he : p.isEnum
        · simp only [he, Bool.false_eq_true, if_false] at h
          exact .inr (.inr (.inr (.inr ⟨b, p, rfl, hself, hnot, hp, he, h.symm⟩)))
        · simp only [he, if_true] at h
          exact .inr (.inr (.inr (.inl ⟨b, rfl, hself, hnot, by simp [hp, he], h.symm⟩)))

/-! ## The walk invariant -/

/-- What holds of a walk from `start` that has reached `current` along `way` with `fuel` left. -/
structure WalkInv (r : Registry) (start : String) (fuel : Nat) (way : List String)
    (current : EntityDecl) : Prop where
  current_mem : current ∈ r.decls
  current_on_way : current.name ∈ way
  nodup : way.Nodup
  registered : ∀ x ∈ way, x ∈ r.names
  from_start : ∀ x ∈ way, ReflTransGen r.Extends start x
  to_current : ∀ x ∈ way, ReflTransGen r.Extends x current.name
  fuel_covers : r.size + 1 ≤ way.length + fuel

theorem WalkInv.init {d : EntityDecl} (hd : d ∈ r.decls) : WalkInv r d.name r.size [d.name] d := by
  refine ⟨hd, List.mem_singleton_self _, List.nodup_singleton _, ?_, ?_, ?_, ?_⟩
  · intro x hx
    exact List.mem_singleton.1 hx ▸ name_mem_names hd
  · intro x hx
    exact List.mem_singleton.1 hx ▸ .refl
  · intro x hx
    exact List.mem_singleton.1 hx ▸ .refl
  · simp only [List.length_singleton]
    omega

theorem WalkInv.fuel_pos {start : String} {fuel : Nat} {way : List String} {current : EntityDecl}
    (h : WalkInv r start fuel way current) : 0 < fuel := by
  have hsub : way ⊆ r.names := h.registered
  have hlen : way.length ≤ r.size := by
    simpa [size, names] using (h.nodup.subperm hsub).length_le
  have := h.fuel_covers
  omega

theorem WalkInv.step {start : String} {fuel : Nat} {way : List String} {current p : EntityDecl}
    {b : String} (h : WalkInv r start (fuel + 1) way current) (hb : current.base = some b)
    (hnot : b ∉ way) (hp : r.lookup? b = some p) :
    WalkInv r start fuel (way ++ [p.name]) p := by
  have hname : p.name = b := lookup?_name hp
  have hpmem := lookup?_mem hp
  have hlink : r.Extends current.name p.name :=
    ⟨current, h.current_mem, rfl, hname ▸ hb, name_mem_names hpmem⟩
  refine ⟨hpmem, by simp, ?_, ?_, ?_, ?_, ?_⟩
  · exact List.nodup_append.2 ⟨h.nodup, List.nodup_singleton _,
      fun x hx y hy hxy => hnot (by rw [← hname, ← List.mem_singleton.1 hy, ← hxy]; exact hx)⟩
  · intro x hx
    rcases List.mem_append.1 hx with hx | hx
    · exact h.registered x hx
    · exact List.mem_singleton.1 hx ▸ name_mem_names hpmem
  · intro x hx
    rcases List.mem_append.1 hx with hx | hx
    · exact h.from_start x hx
    · exact List.mem_singleton.1 hx ▸ (h.from_start _ h.current_on_way).tail hlink
  · intro x hx
    rcases List.mem_append.1 hx with hx | hx
    · exact (h.to_current x hx).tail hlink
    · exact List.mem_singleton.1 hx ▸ .refl
  · have := h.fuel_covers
    simp only [List.length_append, List.length_singleton]
    omega

/-! ## Where a walk ends -/

/-- Declaration `d` names a registered class other than itself as its base, if any. -/
def BaseResolves (r : Registry) (d : EntityDecl) : Prop :=
  ∀ b, d.base = some b → b ≠ d.name ∧ ∃ t, r.lookup? b = some t ∧ t.isEnum = false

/-- When every base reached from the start can be followed, a walk never breaks. -/
theorem walkBases_ne_broken {start : String}
    (hbases : ∀ d ∈ r.decls, ReflTransGen r.Extends start d.name → r.BaseResolves d) :
    ∀ (fuel : Nat) (way : List String) (current : EntityDecl),
      WalkInv r start fuel way current → r.walkBases fuel way current ≠ .broken
  | 0, _, _, h => absurd h.fuel_pos (Nat.lt_irrefl 0)
  | fuel + 1, way, current, h => by
    intro hw
    have hresolves := hbases current h.current_mem (h.from_start _ h.current_on_way)
    rcases walkBases_succ_cases hw with
      ⟨-, hc⟩ | ⟨b, hb, hself, -⟩ | ⟨b, pos, -, -, -, hc⟩ | ⟨b, hb, -, -, henum, -⟩ |
        ⟨b, p, hb, -, hnot, hp, -, hc⟩
    · cases hc
    · exact (hresolves b hb).1 hself
    · cases hc
    · obtain ⟨-, t, ht, hte⟩ := hresolves b hb
      simp [henum t ht] at hte
    · exact walkBases_ne_broken hbases fuel _ _ (h.step hb hnot hp) hc.symm

theorem revisit_of_cycle {start : String} :
    ∀ (fuel : Nat) (way : List String) (current : EntityDecl) (ring : List String),
      WalkInv r start fuel way current → r.walkBases fuel way current = .cycle ring →
      ∃ n, ReflTransGen r.Extends start n ∧ TransGen r.Extends n n
  | 0, _, _, _, h, _ => absurd h.fuel_pos (Nat.lt_irrefl 0)
  | fuel + 1, way, current, ring, h, hw => by
    rcases walkBases_succ_cases hw with
      ⟨-, hc⟩ | ⟨b, -, -, hc⟩ | ⟨b, pos, hb, -, hpos, -⟩ | ⟨b, -, -, -, -, hc⟩ |
        ⟨b, p, hb, -, hnot, hp, -, hc⟩
    · cases hc
    · cases hc
    · have hmem : b ∈ way := List.isSome_idxOf?.1 (by simp [hpos])
      have hlink : r.Extends current.name b := ⟨current, h.current_mem, rfl, hb, h.registered b hmem⟩
      exact ⟨b, h.from_start b hmem, .tail' (h.to_current b hmem) hlink⟩
    · cases hc
    · exact revisit_of_cycle fuel _ _ ring (h.step hb hnot hp) hc.symm

theorem Frozen.not_extends_of_base_none (hr : r.Frozen) {d : EntityDecl} (hd : d ∈ r.decls)
    (hb : d.base = none) {y : String} : ¬ r.Extends d.name y := by
  rw [hr.extends_iff hd, hb]
  simp

theorem Frozen.extends_iff_eq (hr : r.Frozen) {d : EntityDecl} (hd : d ∈ r.decls) {b : String}
    (hb : d.base = some b) (hreg : b ∈ r.names) {y : String} : r.Extends d.name y ↔ y = b := by
  rw [hr.extends_iff hd, hb]
  constructor
  · rintro ⟨h, -⟩
    exact (Option.some.inj h).symm
  · rintro rfl
    exact ⟨rfl, hreg⟩

/-- A complete walk lists the names on the way after its first, then every transitive
ancestor of the declaration it stopped at, root last. -/
theorem ancestors_of_complete (hr : r.Frozen) :
    ∀ (fuel : Nat) (way : List String) (current : EntityDecl) (anc : List String),
      current ∈ r.decls → r.walkBases fuel way current = .complete anc →
      ∃ path, anc = ((way ++ path).drop 1).reverse ∧
        ∀ a, a ∈ path ↔ TransGen r.Extends current.name a
  | 0, _, _, _, _, hw => by simp [walkBases] at hw
  | fuel + 1, way, current, anc, hcur, hw => by
    rcases walkBases_succ_cases hw with
      ⟨hb, hc⟩ | ⟨b, -, -, hc⟩ | ⟨b, pos, -, -, -, hc⟩ | ⟨b, -, -, -, -, hc⟩ |
        ⟨b, p, hb, -, -, hp, -, hc⟩
    · refine ⟨[], by simpa using hc, fun a => ?_⟩
      simp only [List.not_mem_nil, false_iff]
      intro ha
      obtain ⟨y, hy, -⟩ := TransGen.head'_iff.1 ha
      exact hr.not_extends_of_base_none hcur hb hy
    · cases hc
    · cases hc
    · cases hc
    · obtain ⟨path, hanc, hpath⟩ :=
        ancestors_of_complete hr fuel _ p anc (lookup?_mem hp) hc.symm
      refine ⟨p.name :: path, by simpa using hanc, fun a => ?_⟩
      have hname := lookup?_name hp
      have hlink : ∀ y, r.Extends current.name y ↔ y = p.name := by
        intro y
        rw [hr.extends_iff_eq hcur hb (mem_names_of_lookup? hp), hname]
      rw [List.mem_cons, hpath]
      constructor
      · rintro (rfl | h)
        · exact .single ((hlink _).2 rfl)
        · exact TransGen.head ((hlink _).2 rfl) h
      · intro ha
        obtain ⟨y, hy, hya⟩ := TransGen.head'_iff.1 ha
        rw [(hlink y).1 hy] at hya
        rcases ReflTransGen.cases_head_iff.1 hya with h | ⟨z, hz, hza⟩
        · exact .inl h.symm
        · exact .inr (TransGen.head' hz hza)

theorem nodup_of_complete {start : String} :
    ∀ (fuel : Nat) (way : List String) (current : EntityDecl) (anc : List String),
      WalkInv r start fuel way current → r.walkBases fuel way current = .complete anc → anc.Nodup
  | 0, _, _, _, _, hw => by simp [walkBases] at hw
  | fuel + 1, way, current, anc, h, hw => by
    rcases walkBases_succ_cases hw with
      ⟨-, hc⟩ | ⟨b, -, -, hc⟩ | ⟨b, pos, -, -, -, hc⟩ | ⟨b, -, -, -, -, hc⟩ |
        ⟨b, p, hb, -, hnot, hp, -, hc⟩
    · cases hc
      exact List.nodup_reverse.2 (h.nodup.sublist (List.drop_sublist _ _))
    · cases hc
    · cases hc
    · cases hc
    · exact nodup_of_complete fuel _ p anc (h.step hb hnot hp) hc.symm

theorem not_revisit_of_complete (hr : r.Frozen) :
    ∀ (fuel : Nat) (way : List String) (current : EntityDecl) (anc : List String),
      current ∈ r.decls → r.walkBases fuel way current = .complete anc →
      ∀ n, ReflTransGen r.Extends current.name n → ¬ TransGen r.Extends n n
  | 0, _, _, _, _, hw => by simp [walkBases] at hw
  | fuel + 1, way, current, anc, hcur, hw => by
    rcases walkBases_succ_cases hw with
      ⟨hb, hc⟩ | ⟨b, -, -, hc⟩ | ⟨b, pos, -, -, -, hc⟩ | ⟨b, -, -, -, -, hc⟩ |
        ⟨b, p, hb, -, -, hp, -, hc⟩
    · intro n hn hcyc
      rcases ReflTransGen.cases_head_iff.1 hn with rfl | ⟨y, hy, -⟩
      · obtain ⟨y, hy, -⟩ := TransGen.head'_iff.1 hcyc
        exact hr.not_extends_of_base_none hcur hb hy
      · exact hr.not_extends_of_base_none hcur hb hy
    · cases hc
    · cases hc
    · cases hc
    · have ih := not_revisit_of_complete hr fuel _ p anc (lookup?_mem hp) hc.symm
      have hname := lookup?_name hp
      have hlink : ∀ y, r.Extends current.name y → y = p.name := by
        intro y hy
        rw [hr.extends_iff_eq hcur hb (mem_names_of_lookup? hp)] at hy
        rw [hname]
        exact hy
      intro n hn hcyc
      rcases ReflTransGen.cases_head_iff.1 hn with rfl | ⟨y, hy, hyn⟩
      · obtain ⟨y, hy, hyn⟩ := TransGen.head'_iff.1 hcyc
        exact ih _ (hlink y hy ▸ hyn) hcyc
      · exact ih n (hlink y hy ▸ hyn) hcyc

/-! ## The chain of a declaration -/

variable {d : EntityDecl}

theorem chainOf_ne_broken (hbases : ∀ d ∈ r.decls, r.BaseResolves d) (hd : d ∈ r.decls) :
    r.chainOf d ≠ .broken :=
  walkBases_ne_broken (fun x hx _ => hbases x hx) _ _ _ (WalkInv.init hd)

theorem revisit_of_chainOf_cycle (hd : d ∈ r.decls) {ring : List String}
    (h : r.chainOf d = .cycle ring) : ∃ n, ReflTransGen r.Extends d.name n ∧ TransGen r.Extends n n :=
  revisit_of_cycle _ _ _ ring (WalkInv.init hd) h

/-- A complete chain holds exactly the transitive ancestors. -/
theorem mem_ancestors_iff (hr : r.Frozen) (hd : d ∈ r.decls) {anc : List String}
    (h : r.chainOf d = .complete anc) (a : String) : a ∈ anc ↔ TransGen r.Extends d.name a := by
  obtain ⟨path, rfl, hpath⟩ := ancestors_of_complete hr _ _ _ anc hd h
  simp [hpath]

theorem nodup_of_chainOf (hd : d ∈ r.decls) {anc : List String} (h : r.chainOf d = .complete anc) :
    anc.Nodup :=
  nodup_of_complete _ _ _ anc (WalkInv.init hd) h

/-- When every base can be followed, a chain is complete exactly when following base links
from the declaration never comes back to a name already passed. -/
theorem chainOf_complete_iff (hr : r.Frozen) (hbases : ∀ d ∈ r.decls, r.BaseResolves d)
    (hd : d ∈ r.decls) :
    (∃ anc, r.chainOf d = .complete anc) ↔
      ∀ n, ReflTransGen r.Extends d.name n → ¬ TransGen r.Extends n n := by
  constructor
  · rintro ⟨anc, h⟩
    exact not_revisit_of_complete hr _ _ _ anc hd h
  · intro hno
    cases h : r.chainOf d with
    | complete anc => exact ⟨anc, rfl⟩
    | cycle ring =>
      obtain ⟨n, hn, hcyc⟩ := revisit_of_chainOf_cycle hd h
      exact absurd hcyc (hno n hn)
    | broken => exact absurd h (chainOf_ne_broken hbases hd)

end Registry

end EntitySchema
