import Mathlib.Data.List.Nodup
import EntitySchema.Proofs.Reachability
import EntitySchema.Schema.Resolve

/-! # Links between registered entities

A registry that `register` builds holds each name once (`Frozen`). Then the declaration a name
looks up is the one registered declaration of that name, and lookups only depend on which
declarations are registered, not on their order.

Two relations between names follow the declarations. `Extends` is a base link to a registered
entity, the link a walk along bases follows. `HardEdge` is a hard dependency of the dependency
graph: a base that is a registered class other than the entity itself (`BaseEdge`), or a
registered entity held by value in a field (`HoldsByValue`). The graph that `build` makes has
one node per declaration, and an edge between two positions exactly when there is a hard edge
between the names at those positions (`adj_iff`).
-/

namespace EntitySchema

namespace Registry

/-- Each name is registered once, as `register` keeps it. -/
def Frozen (r : Registry) : Prop := r.names.Nodup

instance (r : Registry) : Decidable r.Frozen := inferInstanceAs (Decidable r.names.Nodup)

variable {r : Registry} {d : EntityDecl} {n : String}

theorem mem_names : n ∈ r.names ↔ ∃ d ∈ r.decls, d.name = n := by
  simp [names]

theorem name_mem_names (hd : d ∈ r.decls) : d.name ∈ r.names := mem_names.2 ⟨d, hd, rfl⟩

@[simp] theorem contains_iff : r.contains n = true ↔ n ∈ r.names := by
  simp [contains]

theorem lookup?_name (h : r.lookup? n = some d) : d.name = n := by
  simpa using List.find?_some h

theorem lookup?_mem (h : r.lookup? n = some d) : d ∈ r.decls := List.mem_of_find?_eq_some h

theorem mem_names_of_lookup? (h : r.lookup? n = some d) : n ∈ r.names :=
  lookup?_name h ▸ name_mem_names (lookup?_mem h)

theorem lookup?_eq_none_iff : r.lookup? n = none ↔ n ∉ r.names := by
  rw [← contains_iff, contains_eq_isSome_lookup]
  cases r.lookup? n <;> simp

theorem exists_lookup? (h : n ∈ r.names) : ∃ d, r.lookup? n = some d := by
  cases hl : r.lookup? n with
  | none => exact absurd h (lookup?_eq_none_iff.1 hl)
  | some d => exact ⟨d, rfl⟩

theorem Frozen.eq_of_name_eq (hr : r.Frozen) {d' : EntityDecl} (hd : d ∈ r.decls)
    (hd' : d' ∈ r.decls) (h : d.name = d'.name) : d = d' :=
  List.inj_on_of_nodup_map hr hd hd' h

theorem Frozen.lookup?_self (hr : r.Frozen) (hd : d ∈ r.decls) : r.lookup? d.name = some d := by
  obtain ⟨d', hd'⟩ := exists_lookup? (name_mem_names hd)
  rw [hd', hr.eq_of_name_eq (lookup?_mem hd') hd (lookup?_name hd')]

theorem Frozen.lookup?_eq_some_iff (hr : r.Frozen) : r.lookup? n = some d ↔ d ∈ r.decls ∧ d.name = n :=
  ⟨fun h => ⟨lookup?_mem h, lookup?_name h⟩, fun ⟨hd, hn⟩ => hn ▸ hr.lookup?_self hd⟩

/-! ## Reordering a frozen registry -/

section Perm

variable {r₁ r₂ : Registry}

theorem mem_names_of_perm (hp : r₁.decls.Perm r₂.decls) : n ∈ r₁.names ↔ n ∈ r₂.names :=
  (hp.map _).mem_iff

theorem Frozen.of_perm (hr : r₁.Frozen) (hp : r₁.decls.Perm r₂.decls) : r₂.Frozen :=
  (hp.map _).nodup_iff.1 hr

theorem lookup?_eq_of_perm (hr : r₁.Frozen) (hp : r₁.decls.Perm r₂.decls) (n : String) :
    r₁.lookup? n = r₂.lookup? n := by
  cases h : r₁.lookup? n with
  | none =>
    exact (lookup?_eq_none_iff.2 fun hn => lookup?_eq_none_iff.1 h ((mem_names_of_perm hp).2 hn)).symm
  | some d =>
    obtain ⟨hd, rfl⟩ := hr.lookup?_eq_some_iff.1 h
    exact ((hr.of_perm hp).lookup?_self (hp.mem_iff.1 hd)).symm

end Perm

/-! ## Base links and hard edges -/

/-- `a` names `b` as its base, and `b` is registered. -/
def Extends (r : Registry) (a b : String) : Prop :=
  ∃ d ∈ r.decls, d.name = a ∧ d.base = some b ∧ b ∈ r.names

/-- `b` is the base of `a`, a registered class other than `a`. -/
def BaseEdge (r : Registry) (a b : String) : Prop :=
  ∃ d ∈ r.decls, d.name = a ∧ d.base = some b ∧ b ≠ a ∧ ∃ t, r.lookup? b = some t ∧ t.isEnum = false

/-- A field of `a` holds the registered entity `t` by value, outside any collection. -/
def HoldsByValue (r : Registry) (a t : String) : Prop :=
  ∃ d ∈ r.decls, d.name = a ∧ ∃ f ∈ d.fields, f.type = .reference t ∧ t ∈ r.names

/-- A hard dependency: `a` cannot be laid out before `b`. -/
def HardEdge (r : Registry) (a b : String) : Prop := r.BaseEdge a b ∨ r.HoldsByValue a b

theorem BaseEdge.extends {a b : String} (h : r.BaseEdge a b) : r.Extends a b := by
  obtain ⟨d, hd, hn, hb, -, t, ht, -⟩ := h
  exact ⟨d, hd, hn, hb, mem_names_of_lookup? ht⟩

theorem Frozen.extends_iff (hr : r.Frozen) (hd : d ∈ r.decls) {b : String} :
    r.Extends d.name b ↔ d.base = some b ∧ b ∈ r.names := by
  constructor
  · rintro ⟨d', hd', hn, hb, hreg⟩
    rw [hr.eq_of_name_eq hd hd' hn.symm]
    exact ⟨hb, hreg⟩
  · rintro ⟨hb, hreg⟩
    exact ⟨d, hd, rfl, hb, hreg⟩

theorem Frozen.extends_functional (hr : r.Frozen) {a b c : String} (hb : r.Extends a b)
    (hc : r.Extends a c) : b = c := by
  obtain ⟨d, hd, rfl, hdb, -⟩ := hb
  obtain ⟨hdc, -⟩ := (hr.extends_iff hd).1 hc
  exact Option.some.inj (hdb.symm.trans hdc)

theorem HardEdge.mem_names {a b : String} (h : r.HardEdge a b) : a ∈ r.names ∧ b ∈ r.names := by
  rcases h with ⟨d, hd, rfl, -, -, t, ht, -⟩ | ⟨d, hd, rfl, -, -, -, hreg⟩
  · exact ⟨name_mem_names hd, mem_names_of_lookup? ht⟩
  · exact ⟨name_mem_names hd, hreg⟩

theorem Frozen.baseEdge_iff (hr : r.Frozen) (hd : d ∈ r.decls) {b : String} :
    r.BaseEdge d.name b ↔
      d.base = some b ∧ b ≠ d.name ∧ ∃ t, r.lookup? b = some t ∧ t.isEnum = false := by
  constructor
  · rintro ⟨d', hd', hn, h⟩
    obtain rfl := hr.eq_of_name_eq hd hd' hn.symm
    exact h
  · exact fun h => ⟨d, hd, rfl, h⟩

theorem Frozen.holdsByValue_iff (hr : r.Frozen) (hd : d ∈ r.decls) {t : String} :
    r.HoldsByValue d.name t ↔ ∃ f ∈ d.fields, f.type = .reference t ∧ t ∈ r.names := by
  constructor
  · rintro ⟨d', hd', hn, h⟩
    rwa [hr.eq_of_name_eq hd hd' hn.symm]
  · exact fun h => ⟨d, hd, rfl, h⟩

/-! ## The edges of a declaration -/

/-- The edges `edgesOf` lists: the base edge, and one edge per field that holds a registered
entity by value. -/
theorem mem_edgesOf {b : String} {via : EdgeVia} : (⟨b, via⟩ : Edge) ∈ r.edgesOf d ↔
    (via = .base ∧ d.base = some b ∧ b ≠ d.name ∧ ∃ t, r.lookup? b = some t ∧ t.isEnum = false) ∨
    ∃ f ∈ d.fields, via = .field f.name ∧ f.type = .reference b ∧ b ∈ r.names := by
  unfold edgesOf
  simp only [List.mem_append]
  apply or_congr
  · cases hb : d.base with
    | none => simp
    | some b' =>
      cases ht : r.lookup? b' with
      | none =>
        simp [ht]
        grind
      | some t =>
        simp [ht]
        grind
  · simp only [List.mem_filterMap]
    apply exists_congr
    intro f
    apply and_congr_right
    intro hf
    cases hty : f.type with
    | reference t =>
      by_cases hc : t ∈ r.names <;> simp [FieldType.directReference?, hc] <;> grind
    | primitive k => simp [FieldType.directReference?]
    | collection e => simp [FieldType.directReference?]

theorem target_mem_names {e : Edge} (he : e ∈ r.edgesOf d) : e.target ∈ r.names := by
  rcases mem_edgesOf.1 he with ⟨-, -, -, t, ht, -⟩ | ⟨-, -, -, -, hreg⟩
  · exact mem_names_of_lookup? ht
  · exact hreg

theorem Frozen.hardEdge_iff (hr : r.Frozen) (hd : d ∈ r.decls) {b : String} :
    r.HardEdge d.name b ↔ ∃ e ∈ r.edgesOf d, e.target = b := by
  rw [HardEdge, hr.baseEdge_iff hd, hr.holdsByValue_iff hd]
  constructor
  · rintro (h | ⟨f, hf, hty, hreg⟩)
    · exact ⟨⟨b, .base⟩, mem_edgesOf.2 (.inl ⟨rfl, h⟩), rfl⟩
    · exact ⟨⟨b, .field f.name⟩, mem_edgesOf.2 (.inr ⟨f, hf, rfl, hty, hreg⟩), rfl⟩
  · rintro ⟨⟨b, via⟩, he, rfl⟩
    rcases mem_edgesOf.1 he with ⟨-, h⟩ | ⟨f, hf, -, hty, hreg⟩
    · exact .inl h
    · exact .inr ⟨f, hf, hty, hreg⟩

end Registry

/-! ## Positions of the built graph -/

namespace DependencyGraph

variable {r : Registry}

theorem lookup_map_name {β : Type} (l : List EntityDecl) (f : EntityDecl → β) (n : String) :
    (l.map fun d => (d.name, f d)).lookup n = (l.find? (·.name == n)).map f := by
  induction l with
  | nil => rfl
  | cons d ds ih =>
    by_cases h : d.name = n
    · simp [h]
    · have h' : (n == d.name) = false := by simpa using Ne.symm h
      simp [List.lookup_cons, h, h', ih]

theorem build_edges (r : Registry) (n : String) :
    (build r).edges n = ((r.lookup? n).map r.edgesOf).getD [] := by
  simp [edges, build, lookup_map_name, Registry.lookup?]

@[simp] theorem build_names (r : Registry) : (build r).names = r.names := by
  simp [names, build, Registry.names]

@[simp] theorem build_size (r : Registry) : (build r).size = r.size := by
  simp [size, build, Registry.size]

theorem indexOf_lt {n : String} (h : n ∈ r.names) : (build r).indexOf n < r.size := by
  simpa [indexOf, Registry.size, Registry.names] using List.idxOf_lt_length_of_mem h

theorem nameAt_indexOf {n : String} (h : n ∈ r.names) : (build r).nameAt ((build r).indexOf n) = n := by
  have hlt : r.names.idxOf n < r.names.length := List.idxOf_lt_length_of_mem h
  simp [nameAt, indexOf, List.getElem?_eq_getElem hlt, List.getElem_idxOf hlt]

theorem nameAt_mem {i : Nat} (hi : i < r.size) : (build r).nameAt i ∈ r.names := by
  have hlt : i < r.names.length := by simpa [Registry.names, Registry.size] using hi
  simp [nameAt, List.getElem?_eq_getElem hlt, List.getElem_mem]

theorem indexOf_nameAt (hr : r.Frozen) {i : Nat} (hi : i < r.size) :
    (build r).indexOf ((build r).nameAt i) = i := by
  have hlt : i < r.names.length := by simpa [Registry.names, Registry.size] using hi
  simp [nameAt, indexOf, List.getElem?_eq_getElem hlt, List.Nodup.idxOf_getElem hr]

theorem adj_iff (hr : r.Frozen) {i j : Nat} (hi : i < r.size) :
    (build r).Adj i j ↔ j < r.size ∧ r.HardEdge ((build r).nameAt i) ((build r).nameAt j) := by
  obtain ⟨d, hd⟩ := Registry.exists_lookup? (nameAt_mem hi)
  have hmem := Registry.lookup?_mem hd
  rw [← Registry.lookup?_name hd, hr.hardEdge_iff hmem]
  simp only [Adj, successors, build_edges, hd, Option.map_some, Option.getD_some, List.mem_map]
  constructor
  · rintro ⟨e, he, rfl⟩
    have ht := Registry.target_mem_names he
    exact ⟨indexOf_lt ht, e, he, (nameAt_indexOf ht).symm⟩
  · rintro ⟨hj, e, he, hte⟩
    exact ⟨e, he, by rw [hte, indexOf_nameAt hr hj]⟩

theorem adj_indexOf (hr : r.Frozen) {a b : String} (h : r.HardEdge a b) :
    (build r).Adj ((build r).indexOf a) ((build r).indexOf b) := by
  obtain ⟨ha, hb⟩ := h.mem_names
  rw [adj_iff hr (indexOf_lt ha), nameAt_indexOf ha, nameAt_indexOf hb]
  exact ⟨indexOf_lt hb, h⟩

theorem transGen_adj (hr : r.Frozen) {a b : String} (h : Relation.TransGen r.HardEdge a b) :
    Relation.TransGen (build r).Adj ((build r).indexOf a) ((build r).indexOf b) :=
  Relation.TransGen.lift (build r).indexOf (fun _ _ => adj_indexOf hr) _ _ h

theorem reflTransGen_adj (hr : r.Frozen) {a b : String} (h : Relation.ReflTransGen r.HardEdge a b) :
    Relation.ReflTransGen (build r).Adj ((build r).indexOf a) ((build r).indexOf b) :=
  Relation.ReflTransGen.lift (build r).indexOf (fun _ _ => adj_indexOf hr) _ _ h

theorem reflTransGen_hardEdge (hr : r.Frozen) {i j : Nat} (hi : i < r.size)
    (h : Relation.ReflTransGen (build r).Adj i j) :
    j < r.size ∧ Relation.ReflTransGen r.HardEdge ((build r).nameAt i) ((build r).nameAt j) := by
  induction h with
  | refl => exact ⟨hi, .refl⟩
  | tail _ hkj ih =>
    obtain ⟨hk, hpath⟩ := ih
    obtain ⟨hj, hedge⟩ := (adj_iff hr hk).1 hkj
    exact ⟨hj, hpath.tail hedge⟩

theorem transGen_hardEdge (hr : r.Frozen) {i j : Nat} (hi : i < r.size)
    (h : Relation.TransGen (build r).Adj i j) :
    Relation.TransGen r.HardEdge ((build r).nameAt i) ((build r).nameAt j) := by
  obtain ⟨k, hik, hkj⟩ := Relation.TransGen.tail'_iff.1 h
  obtain ⟨hk, hpath⟩ := reflTransGen_hardEdge hr hi hik
  exact .tail' hpath ((adj_iff hr hk).1 hkj).2

end DependencyGraph

end EntitySchema
