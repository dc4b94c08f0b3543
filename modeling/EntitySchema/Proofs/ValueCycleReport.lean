import EntitySchema.Proofs.ShortestPath
import EntitySchema.Proofs.ValueCycleCount
import EntitySchema.Proofs.EmissionOrder

/-! # What a value cycle reports

The strongly connected components of the hard edges, each read as its names in registration
order and taken in the order of their first name's registration, are `strongComponents`. Those
with a field edge inside, a field of one member that holds a member by value (itself
included), are `componentsWithFieldEdge`.

`valueCycles` reports exactly one error for each of them, in that order (`valueCycles_reports`).
The error names the first member, in registration order, with such a field; the first such field
of its declaration; and the cycle from the entity through that field's target and back along a
walk inside the component that no walk inside it beats (`ReportsValueCycle`).

The proof reads `components` as the classes of the positions linked with no earlier position
(`components_eq_leaders`), `entryEdge` as a search for the first field edge inside
(`entryEdge_spec`), and the path back through the breadth-first search of `pathWithin_spec`, fed
with a walk inside the component that exists because its members reach each other.
-/

namespace EntitySchema

open Relation

namespace Registry

variable {r : Registry}

theorem NameLinked.trans {a b c : String} (hab : r.NameLinked a b) (hbc : r.NameLinked b c) :
    r.NameLinked a c := by
  rcases hab with rfl | ⟨hab, hba⟩
  · exact hbc
  rcases hbc with rfl | ⟨hbc, hcb⟩
  · exact .inr ⟨hab, hba⟩
  · exact .inr ⟨hab.trans hbc, hcb.trans hba⟩

/-! ### What is reported -/

/-- `entity` is the first of `members` with a field that holds one of them by value. -/
def FirstHolder (r : Registry) (members : List String) (entity : String) : Prop :=
  ∃ pre post, members = pre ++ entity :: post ∧ (∃ t ∈ members, r.HoldsByValue entity t) ∧
    ∀ x ∈ pre, ∀ t ∈ members, ¬ r.HoldsByValue x t

/-- `field` is the first field of the declaration of `entity` that holds a member, `target`, by
value. -/
def FirstField (r : Registry) (members : List String) (entity field target : String) : Prop :=
  ∃ d, r.lookup? entity = some d ∧ ∃ fpre f fpost, d.fields = fpre ++ f :: fpost ∧
    f.name = field ∧ f.type = .reference target ∧ target ∈ members ∧
    ∀ f' ∈ fpre, ∀ t ∈ members, f'.type ≠ .reference t

/-- `path` leads from `a` to `b` along hard edges into `members`, and no such walk is shorter. -/
def ShortestWithin (r : Registry) (members : List String) (a b : String) (path : List String) :
    Prop :=
  path.head? = some a ∧ path.getLast? = some b ∧
    path.IsChain (fun x y => y ∈ members ∧ r.HardEdge x y) ∧
    ∀ q : List String, q.head? = some a → q.getLast? = some b →
      q.IsChain (fun x y => y ∈ members ∧ r.HardEdge x y) → path.length ≤ q.length

/-- The error reported for the component with names `members`: its first member with a field
edge inside, that member's first such field, and the cycle through the field's target and a
shortest walk inside the component back, which starts and ends with the entity and follows hard
edges. -/
def ReportsValueCycle (r : Registry) (members : List String) (err : SchemaError) : Prop :=
  ∃ entity field target path, err = .valueCycle entity field (entity :: path) ∧
    r.FirstHolder members entity ∧ r.FirstField members entity field target ∧
    r.ShortestWithin members target entity path ∧
    (entity :: path).getLast? = some entity ∧ (entity :: path).IsChain r.HardEdge

open Classical in
/-- The strongly connected components of the hard edges, each as its names in registration
order, ordered by the registration of their first name. -/
noncomputable def strongComponents (r : Registry) : List (List String) :=
  (r.names.filter fun a => ∀ b ∈ r.names.take (r.names.idxOf a), ¬ r.NameLinked a b).map
    fun a => r.names.filter (r.NameLinked a)

open Classical in
/-- The strongly connected components with a field edge inside. -/
noncomputable def componentsWithFieldEdge (r : Registry) : List (List String) :=
  r.strongComponents.filter fun C => ∃ x ∈ C, ∃ y ∈ C, r.HoldsByValue x y

end Registry

namespace DependencyGraph

variable {r : Registry}


open Classical in
theorem map_nameAt_classOf (hr : r.Frozen) {k : Nat} (hk : k < r.size) :
    ((build r).classOf k).map (build r).nameAt =
      r.names.filter fun b => decide (r.NameLinked ((build r).nameAt k) b) := by
  rw [← map_nameAt_range (r := r), List.filter_map, classOf]
  congr 1
  rw [← build_size r]
  refine List.filter_congr fun j hj => ?_
  have hj : j < r.size := by simpa using List.mem_range.1 hj
  have hk' : k < (build r).size := by simpa using hk
  have hj' : j < (build r).size := by simpa using hj
  rw [Function.comp_apply, Bool.eq_iff_iff, linked_iff hk' hj', linked_iff_nameLinked hr hk hj,
    decide_eq_true_iff]

theorem isLeast_iff (hr : r.Frozen) {i : Nat} (hi : i < r.size) :
    (build r).IsLeast i ↔
      ∀ b ∈ r.names.take (r.names.idxOf ((build r).nameAt i)),
        ¬ r.NameLinked ((build r).nameAt i) b := by
  have hidx : r.names.idxOf ((build r).nameAt i) = i := by
    simpa [indexOf] using indexOf_nameAt hr hi
  rw [hidx, ← map_nameAt_range (r := r), ← List.map_take, List.take_range, Nat.min_eq_left hi.le]
  simp only [List.mem_map, List.mem_range, forall_exists_index, and_imp, forall_apply_eq_imp_iff₂]
  refine forall₂_congr fun j hj => ?_
  rw [← linked_iff_nameLinked hr hi (by omega)]
  exact ⟨fun h hij => h hij.symm, fun h hji => h hji.symm⟩

theorem map_filter_names {P : String → Bool} {Q : Nat → Prop} [DecidablePred Q]
    {F : String → List String} {G : Nat → List String}
    (hPQ : ∀ i < r.size, P ((build r).nameAt i) = decide (Q i))
    (hFG : ∀ i < r.size, F ((build r).nameAt i) = G i) :
    (r.names.filter P).map F = ((List.range r.size).filter Q).map G := by
  rw [← map_nameAt_range (r := r), List.filter_map, List.map_map]
  have hfilter : (List.range r.size).filter (P ∘ (build r).nameAt) =
      (List.range r.size).filter Q :=
    List.filter_congr fun i hi => hPQ i (List.mem_range.1 hi)
  rw [hfilter]
  exact List.map_congr_left fun i hi => hFG i (List.mem_range.1 (List.mem_filter.1 hi).1)

open Classical in
/-- The components, read as names, are the strongly connected components of the hard edges. -/
theorem map_components (hr : r.Frozen) :
    (build r).components.map (·.map (build r).nameAt) = r.strongComponents := by
  rw [components_eq_leaders (build_closed r), List.map_map, Registry.strongComponents, build_size]
  symm
  refine map_filter_names (fun i hi => ?_) (fun i hi => ?_)
  · rw [Bool.eq_iff_iff, decide_eq_true_iff, decide_eq_true_iff, isLeast_iff hr hi]
  · exact (map_nameAt_classOf hr hi).symm

/-! ### Steps inside a component -/

theorem step_build_iff (hr : r.Frozen) {members : List String} {u v : String} :
    (build r).Step members u v ↔ v ∈ members ∧ r.HardEdge u v := by
  unfold Step
  rw [build_edges]
  refine and_congr_right fun _ => ?_
  cases hu : r.lookup? u with
  | none =>
    simp only [Option.map_none, Option.getD_none, List.map_nil, List.not_mem_nil, false_iff]
    exact fun h => (Registry.lookup?_eq_none_iff.1 hu) h.mem_names.1
  | some d =>
    rw [Option.map_some, Option.getD_some, ← Registry.lookup?_name hu,
      hr.hardEdge_iff (Registry.lookup?_mem hu), List.mem_map]

theorem reflTransGen_of_mem_isChain {R : String → String → Prop} :
    ∀ {a : String} {l : List String}, (a :: l).IsChain R → ∀ x ∈ a :: l,
      ReflTransGen R a x ∧ ReflTransGen R x ((a :: l).getLast (List.cons_ne_nil a l))
  | a, [], _, x, hx => by
    obtain rfl := List.mem_singleton.1 hx
    exact ⟨.refl, .refl⟩
  | a, b :: l, h, x, hx => by
    obtain ⟨hab, hrest⟩ := List.isChain_cons_cons.1 h
    have ih := reflTransGen_of_mem_isChain hrest
    rw [List.getLast_cons (List.cons_ne_nil b l)]
    rcases List.mem_cons.1 hx with rfl | hx
    · exact ⟨.refl, ReflTransGen.head hab (ih b List.mem_cons_self).2⟩
    · obtain ⟨hbx, hxl⟩ := ih x hx
      exact ⟨ReflTransGen.head hab hbx, hxl⟩

/-- Two names of a component, the second holding the first by value, are joined by a walk
inside the component from the first to the second. -/
theorem exists_walk_within (hr : r.Frozen) {c : List Nat} (hc : c ∈ (build r).components)
    {target entity : String} (ht : target ∈ c.map (build r).nameAt)
    (he : entity ∈ c.map (build r).nameAt) (hedge : r.HardEdge entity target) :
    ∃ q : List String, q.head? = some target ∧ q.getLast? = some entity ∧
      q.IsChain (fun x y => y ∈ c.map (build r).nameAt ∧ r.HardEdge x y) := by
  obtain ⟨k, hk, rfl⟩ := mem_components (build_closed r) hc
  have hk' : k < r.size := by simpa using hk
  have hmem : ∀ x, x ∈ ((build r).classOf k).map (build r).nameAt ↔
      x ∈ r.names ∧ r.NameLinked ((build r).nameAt k) x := by
    intro x
    rw [← mem_componentNames_classOf hr hk', componentNames, List.mem_toFinset]
  obtain ⟨-, hkt⟩ := (hmem target).1 ht
  obtain ⟨-, hke⟩ := (hmem entity).1 he
  have hte : ReflTransGen r.HardEdge target entity := by
    rcases (Registry.NameLinked.trans (hkt.elim (fun h => .inl h.symm)
      (fun h => .inr ⟨h.2, h.1⟩)) hke) with h | h
    · exact h ▸ .refl
    · exact h.1.to_reflTransGen
  obtain ⟨l, hchain, hlast⟩ := List.exists_isChain_cons_of_relationReflTransGen hte
  have hin : ∀ x ∈ target :: l, x ∈ ((build r).classOf k).map (build r).nameAt := by
    intro x hx
    obtain ⟨htx, hxe⟩ := reflTransGen_of_mem_isChain hchain x hx
    rcases reflTransGen_iff_eq_or_transGen.1 htx with rfl | htx
    · exact ht
    · rw [hlast] at hxe
      obtain ⟨y, -, hyx⟩ := TransGen.tail'_iff.1 htx
      exact (hmem x).2 ⟨hyx.mem_names.2, hkt.trans (.inr ⟨htx, TransGen.tail' hxe hedge⟩)⟩
  refine ⟨target :: l, rfl, by rw [List.getLast?_eq_some_getLast (List.cons_ne_nil _ _), hlast], ?_⟩
  exact (List.IsChain.iff_mem.1 hchain).imp fun x y hxy => ⟨hin y hxy.2.1, hxy.2.2⟩

/-! ### The first field edge inside -/

/-- The edge a field gives its declaration, when it holds a registered entity by value. -/
def fieldEdge (r : Registry) (f : FieldDecl) : Option Edge :=
  match f.type.directReference? with
  | some t => if r.contains t then some ⟨t, .field f.name⟩ else none
  | none => none

/-- What `entryEdge` looks for in the edges of `source`: a field edge into `members`. -/
def fieldEdgeWithin (members : List String) (source : String) (e : Edge) :
    Option (String × String × String) :=
  match e.via with
  | .field f => if members.contains e.target then some (source, f, e.target) else none
  | .base => none

theorem entryEdge_eq (g : DependencyGraph) (members : List String) :
    g.entryEdge members = members.findSome? fun source =>
      (g.edges source).findSome? (fieldEdgeWithin members source) :=
  rfl

theorem edgesOf_eq (r : Registry) (d : EntityDecl) :
    ∃ base : List Edge, r.edgesOf d = base ++ d.fields.filterMap (fieldEdge r) ∧
      ∀ e ∈ base, e.via = .base := by
  refine ⟨_, rfl, ?_⟩
  intro e he
  split at he
  · split at he
    · rw [List.mem_singleton.1 he]
    · exact absurd he List.not_mem_nil
  · exact absurd he List.not_mem_nil

theorem findSome?_filterMap {α β γ : Type} (f : α → Option β) (p : β → Option γ) :
    ∀ l : List α, (l.filterMap f).findSome? p = l.findSome? fun a => (f a).bind p
  | [] => rfl
  | a :: l => by
    cases hf : f a with
    | none => simp [hf, findSome?_filterMap f p l]
    | some b => simp [hf, List.findSome?_cons, findSome?_filterMap f p l]

theorem directReference?_eq_some {t : FieldType} {n : String} :
    t.directReference? = some n ↔ t = .reference n := by
  cases t <;> simp [FieldType.directReference?]

/-- A field gives a field edge into `members` exactly when it holds a registered member by
value. -/
theorem fieldEdgeWithin_fieldEdge {members : List String} {source : String} {f : FieldDecl}
    {x : String × String × String} :
    (fieldEdge r f).bind (fieldEdgeWithin members source) = some x ↔
      ∃ t, x = (source, f.name, t) ∧ f.type = .reference t ∧ t ∈ r.names ∧ t ∈ members := by
  constructor
  · intro h
    unfold fieldEdge at h
    cases ht : f.type.directReference? with
    | none => simp [ht] at h
    | some t =>
      have hty := directReference?_eq_some.1 ht
      by_cases hreg : t ∈ r.names
      · by_cases hin : t ∈ members
        · simp [ht, hreg, hin, fieldEdgeWithin] at h
          exact ⟨t, h.symm, hty, hreg, hin⟩
        · simp [ht, hreg, hin, fieldEdgeWithin] at h
      · simp [ht, hreg] at h
  · rintro ⟨t, rfl, hty, hreg, hin⟩
    simp [fieldEdge, hty, FieldType.directReference?, hreg, hin, fieldEdgeWithin]

/-- The search through the edges of a declaration finds its first field that holds a member by
value. -/
theorem findSome?_edgesOf {members : List String} {d : EntityDecl}
    {x : String × String × String} :
    (r.edgesOf d).findSome? (fieldEdgeWithin members d.name) = some x ↔
      d.fields.findSome? (fun f => (fieldEdge r f).bind (fieldEdgeWithin members d.name)) =
        some x := by
  obtain ⟨base, hedges, hbase⟩ := edgesOf_eq r d
  have hnone : base.findSome? (fieldEdgeWithin members d.name) = none :=
    List.findSome?_eq_none_iff.2 fun e he => by simp [fieldEdgeWithin, hbase e he]
  rw [hedges, List.findSome?_append, hnone, Option.none_or, findSome?_filterMap]

theorem not_holdsByValue_of_findSome? (hr : r.Frozen) {members : List String} {x : String}
    (h : ((build r).edges x).findSome? (fieldEdgeWithin members x) = none) :
    ∀ t ∈ members, ¬ r.HoldsByValue x t := by
  rintro t ht ⟨d, hd, rfl, f, hf, hty, hreg⟩
  rw [build_edges, hr.lookup?_self hd, Option.map_some, Option.getD_some] at h
  have hedge : (⟨t, .field f.name⟩ : Edge) ∈ r.edgesOf d :=
    Registry.mem_edgesOf.2 (.inr ⟨f, hf, rfl, hty, hreg⟩)
  have := List.findSome?_eq_none_iff.1 h _ hedge
  simp [fieldEdgeWithin, ht] at this

/-- What `entryEdge` finds: the first member with a field holding a member by value, that
member's first such field, and the member it holds. -/
theorem entryEdge_spec (hr : r.Frozen) {members : List String}
    (hnames : ∀ x ∈ members, x ∈ r.names) {entity field target : String}
    (h : (build r).entryEdge members = some (entity, field, target)) :
    r.FirstHolder members entity ∧ r.FirstField members entity field target := by
  rw [entryEdge_eq] at h
  obtain ⟨pre, source, post, hsplit, hsource, hpre⟩ := List.findSome?_eq_some_iff.1 h
  obtain ⟨d, hd⟩ : ∃ d, r.lookup? source = some d := by
    cases hd : r.lookup? source with
    | some d => exact ⟨d, rfl⟩
    | none => simp [build_edges, hd] at hsource
  have hname : d.name = source := Registry.lookup?_name hd
  rw [build_edges, hd, Option.map_some, Option.getD_some, ← hname, findSome?_edgesOf] at hsource
  obtain ⟨fpre, f, fpost, hfields, hf, hfpre⟩ := List.findSome?_eq_some_iff.1 hsource
  obtain ⟨t, heq, hty, hreg, hin⟩ := fieldEdgeWithin_fieldEdge.1 hf
  obtain ⟨rfl, rfl, rfl⟩ : d.name = entity ∧ f.name = field ∧ t = target := by
    simpa [eq_comm] using heq
  have hholds : r.HoldsByValue d.name t :=
    ⟨d, Registry.lookup?_mem hd, rfl, f, by simp [hfields], hty, hreg⟩
  refine ⟨⟨pre, post, by rw [hsplit, hname], ⟨t, hin, hholds⟩, fun x hx =>
    not_holdsByValue_of_findSome? hr (hpre x hx)⟩, ⟨d, by rw [hname, hd], fpre, f, fpost,
    hfields, rfl, hty, hin, fun f' hf' t' ht' hty' => ?_⟩⟩
  have := hfpre f' hf'
  rw [Option.eq_none_iff_forall_ne_some] at this
  exact this _ (fieldEdgeWithin_fieldEdge.2 ⟨t', rfl, hty', hnames t' ht', ht'⟩)

/-! ### The report of one component -/

/-- The error `valueCycles` reports for a component, if any. -/
def cycleReport (g : DependencyGraph) (component : List Nat) : Option SchemaError :=
  let members := component.map g.nameAt
  (g.entryEdge members).map fun (entity, field, target) =>
    .valueCycle entity field (entity :: g.pathWithin members target entity)

theorem valueCycles_eq (g : DependencyGraph) :
    g.valueCycles = (g.components.filter g.isCyclic).filterMap g.cycleReport :=
  rfl

theorem mem_names_of_mem_component {c : List Nat} (hc : c ∈ (build r).components) {x : String}
    (hx : x ∈ c.map (build r).nameAt) : x ∈ r.names := by
  obtain ⟨i, hi, rfl⟩ := List.mem_map.1 hx
  exact nameAt_mem (mem_components_lt hc i hi)

/-- A component with a field edge inside reports its first field edge and a shortest walk back. -/
theorem cycleReport_spec (hr : r.Frozen) {c : List Nat} (hc : c ∈ (build r).components)
    {x : String × String × String} (hentry : (build r).entryEdge (c.map (build r).nameAt) = some x) :
    ∃ err, (build r).cycleReport c = some err ∧ r.ReportsValueCycle (c.map (build r).nameAt) err := by
  obtain ⟨entity, field, target⟩ := x
  have hnames := fun y (hy : y ∈ c.map (build r).nameAt) => mem_names_of_mem_component hc hy
  obtain ⟨hholder, hfirst⟩ := entryEdge_spec hr hnames hentry
  have ⟨pre, post, hsplit, _⟩ := hholder
  have he : entity ∈ c.map (build r).nameAt := by simp [hsplit]
  have ⟨d, hd, fpre, f, fpost, hfields, _, hty, ht, _⟩ := hfirst
  have hedge : r.HardEdge entity target := by
    refine .inr ⟨d, Registry.lookup?_mem hd, Registry.lookup?_name hd, f, ?_, hty, hnames _ ht⟩
    simp [hfields]
  have hsteps : ∀ q : List String, q.IsChain ((build r).Step (c.map (build r).nameAt)) ↔
      q.IsChain (fun x y => y ∈ c.map (build r).nameAt ∧ r.HardEdge x y) :=
    fun q => ⟨List.IsChain.imp fun _ _ h => (step_build_iff hr).1 h,
      List.IsChain.imp fun _ _ h => (step_build_iff hr).2 h⟩
  obtain ⟨q, hq, hqlast, hqchain⟩ := exists_walk_within hr hc ht he hedge
  obtain ⟨hhead, hlast, hchain, -⟩ := pathWithin_spec ht hq hqlast ((hsteps q).2 hqchain)
  set path := (build r).pathWithin (c.map (build r).nameAt) target entity
  have hshort : r.ShortestWithin (c.map (build r).nameAt) target entity path :=
    ⟨hhead, hlast, (hsteps path).1 hchain, fun q' hq' hq'last hq'chain =>
      (pathWithin_spec ht hq' hq'last ((hsteps q').2 hq'chain)).2.2.2⟩
  have hclosed : (entity :: path).IsChain r.HardEdge := by
    refine List.IsChain.cons (((hsteps path).1 hchain).imp fun _ _ h => h.2) fun y hy => ?_
    rw [hhead] at hy
    cases hy
    exact hedge
  refine ⟨_, by simp [cycleReport, hentry, path], entity, field, target, path, rfl, hholder, hfirst,
    hshort, by simp [List.getLast?_cons, hlast], hclosed⟩

/-! ### All components -/

open Classical in
/-- Down a list of components: those with a field edge inside each give one report, in order,
and the others none. -/
theorem forall₂_cycleReport (hr : r.Frozen) :
    ∀ l : List (List Nat), (∀ c ∈ l, c ∈ (build r).components) →
      List.Forall₂ r.ReportsValueCycle
        ((l.map (·.map (build r).nameAt)).filter fun C => ∃ x ∈ C, ∃ y ∈ C, r.HoldsByValue x y)
        ((l.filter (build r).isCyclic).filterMap (build r).cycleReport)
  | [], _ => .nil
  | c :: l, hl => by
    have hc := hl c List.mem_cons_self
    have ih := forall₂_cycleReport hr l fun c' hc' => hl c' (List.mem_cons_of_mem c hc')
    have hfield : (∃ x ∈ c.map (build r).nameAt, ∃ y ∈ c.map (build r).nameAt,
        r.HoldsByValue x y) ↔ ((build r).entryEdge (c.map (build r).nameAt)).isSome := by
      rw [entryEdge_isSome_iff hr (mem_components_lt hc)]
      simp
    rw [List.map_cons]
    cases hentry : (build r).entryEdge (c.map (build r).nameAt) with
    | none =>
      have hnot : ¬ ∃ x ∈ c.map (build r).nameAt, ∃ y ∈ c.map (build r).nameAt,
          r.HoldsByValue x y := by
        rw [hfield, hentry]
        simp
      have hnone : (build r).cycleReport c = none := by simp [cycleReport, hentry]
      rw [List.filter_cons_of_neg (by simpa using hnot)]
      by_cases hcyc : (build r).isCyclic c
      · rw [List.filter_cons_of_pos hcyc, List.filterMap_cons_none hnone]
        exact ih
      · rw [List.filter_cons_of_neg hcyc]
        exact ih
    | some x =>
      obtain ⟨err, hreport, hspec⟩ := cycleReport_spec hr hc hentry
      have hsome : ((build r).entryEdge (c.map (build r).nameAt)).isSome := by simp [hentry]
      obtain ⟨i, hi, j, hj, hv⟩ := (entryEdge_isSome_iff hr (mem_components_lt hc)).1 hsome
      rw [List.filter_cons_of_pos (by simpa using hfield.2 hsome),
        List.filter_cons_of_pos (isCyclic_of_holdsByValue hr hc hi hj hv),
        List.filterMap_cons_some hreport]
      exact .cons hspec ih

/-- In a frozen registry `valueCycles` reports one error for each strongly connected component
of the hard edges with a field edge inside, in the order of their first registered names, and
none for the others; each names the component's first member with such a field, that member's
first such field, and a cycle back through a shortest walk inside the component. -/
theorem valueCycles_reports (r : Registry) (hr : r.Frozen) :
    List.Forall₂ r.ReportsValueCycle r.componentsWithFieldEdge (build r).valueCycles := by
  rw [valueCycles_eq, Registry.componentsWithFieldEdge, ← map_components hr]
  exact forall₂_cycleReport hr _ fun c hc => hc

/-- `Hen` and `Egg` hold each other by value, and `Coop` holds a `Hen` from outside the cycle. -/
def henAndEgg : Registry :=
  ⟨[{ name := "Coop", fields := [⟨"hen", .reference "Hen", none⟩] },
    { name := "Hen", fields := [⟨"egg", .reference "Egg", none⟩] },
    { name := "Egg", fields := [⟨"hen", .reference "Hen", none⟩] }]⟩

theorem henAndEgg_reports : henAndEgg.Frozen ∧
    List.Forall₂ henAndEgg.ReportsValueCycle henAndEgg.componentsWithFieldEdge
      (build henAndEgg).valueCycles :=
  ⟨by decide, valueCycles_reports henAndEgg (by decide)⟩

end DependencyGraph

end EntitySchema
