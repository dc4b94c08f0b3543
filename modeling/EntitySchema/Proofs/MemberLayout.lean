import EntitySchema.Proofs.RegistrationOrder

/-!
# Member layout along an inheritance chain

A resolved entity lists every field it holds, inherited ones first. A Rust struct declares that
whole list; a C++, C# or Java class declares only the entity's own fields and inherits the rest
from its base. The two layouts agree exactly when no derived declaration takes an inherited
field's name: then the fields of a chain's declarations never meet, flattening them is plain
concatenation, and the own fields of the ancestors, root first, followed by the entity's own
fields are its fields.

With shadowing allowed the derived field takes the inherited field's slot, so the class chain
declares that name twice while the flat list holds it once.
-/

namespace EntitySchema

open Relation

namespace Registry

/-- Places one declared field of `owner` in a layout: in the slot of a field of that name if
there is one, at the end otherwise. -/
def placeField (owner : EntityDecl) (acc : List ResolvedField) (f : FieldDecl) : List ResolvedField :=
  let field : ResolvedField := ⟨f.name, f.type, f.default, owner.name⟩
  if acc.any (·.name == f.name) then acc.map fun x => if x.name == f.name then field else x
  else acc ++ [field]

theorem flattenFields_eq (owners : List EntityDecl) :
    flattenFields owners = owners.foldl (fun acc o => o.fields.foldl (placeField o) acc) [] :=
  rfl

variable (o : EntityDecl)

theorem flattenFields_single : flattenFields [o] = o.fields.foldl (placeField o) [] :=
  rfl

theorem names_placeField (acc : List ResolvedField) (f : FieldDecl) (x : String) :
    x ∈ (placeField o acc f).map (·.name) ↔ x ∈ acc.map (·.name) ∨ x = f.name := by
  unfold placeField
  split
  · rename_i h
    simp only [List.map_map]
    have hmap : acc.map ((·.name) ∘ fun y => if y.name == f.name then
        (⟨f.name, f.type, f.default, o.name⟩ : ResolvedField) else y) = acc.map (·.name) :=
      List.map_congr_left fun y _ => by by_cases hy : y.name = f.name <;> simp [hy]
    rw [hmap]
    obtain ⟨y, hy, hyf⟩ := List.any_eq_true.1 h
    constructor
    · exact .inl
    · rintro (hx | rfl)
      · exact hx
      · exact List.mem_map.2 ⟨y, hy, by simpa using hyf⟩
  · simp

theorem names_foldl_placeField (x : String) :
    ∀ (fs : List FieldDecl) (acc : List ResolvedField),
      x ∈ (fs.foldl (placeField o) acc).map (·.name) ↔ x ∈ acc.map (·.name) ∨ ∃ f ∈ fs, f.name = x
  | [], acc => by simp
  | f :: fs, acc => by
    rw [List.foldl_cons, names_foldl_placeField x fs, names_placeField]
    simp only [List.mem_cons, exists_eq_or_imp]
    constructor
    · rintro ((h | rfl) | h)
      · exact .inl h
      · exact .inr (.inl rfl)
      · exact .inr (.inr h)
    · rintro (h | rfl | h)
      · exact .inl (.inl h)
      · exact .inl (.inr rfl)
      · exact .inr h

theorem foldl_placeField_append (acc : List ResolvedField) :
    ∀ (fs : List FieldDecl) (placed : List ResolvedField), (∀ f ∈ fs, f.name ∉ acc.map (·.name)) →
      fs.foldl (placeField o) (acc ++ placed) = acc ++ fs.foldl (placeField o) placed
  | [], _, _ => rfl
  | f :: fs, placed, hfresh => by
    have hf : f.name ∉ acc.map (·.name) := hfresh f List.mem_cons_self
    have hstep : placeField o (acc ++ placed) f = acc ++ placeField o placed f := by
      have hany : acc.any (·.name == f.name) = false := by
        simpa using fun y hy hyf => hf (List.mem_map.2 ⟨y, hy, hyf⟩)
      have hkeep : acc.map (fun x => if x.name == f.name then
          (⟨f.name, f.type, f.default, o.name⟩ : ResolvedField) else x) = acc := by
        have hid : acc.map (fun x => if x.name == f.name then
            (⟨f.name, f.type, f.default, o.name⟩ : ResolvedField) else x) = acc.map id :=
          List.map_congr_left fun y hy => by
            have : y.name ≠ f.name := fun hyf => hf (List.mem_map.2 ⟨y, hy, hyf⟩)
            simp [this]
        rw [hid, List.map_id]
      unfold placeField
      simp only [List.any_append, hany, Bool.false_or, List.map_append, hkeep, List.append_assoc]
      split <;> rfl
    rw [List.foldl_cons, hstep, List.foldl_cons]
    exact foldl_placeField_append acc fs _ fun f' hf' => hfresh f' (List.mem_cons_of_mem f hf')

theorem mem_foldl_placeField :
    ∀ (fs : List FieldDecl) (placed : List ResolvedField) (x : ResolvedField),
      x ∈ fs.foldl (placeField o) placed →
        x ∈ placed ∨ ∃ f ∈ fs, x = ⟨f.name, f.type, f.default, o.name⟩
  | [], _, _, hx => .inl hx
  | f :: fs, placed, x, hx => by
    rcases mem_foldl_placeField fs _ x hx with hx | ⟨g, hg, rfl⟩
    · unfold placeField at hx
      split at hx
      · obtain ⟨y, hy, rfl⟩ := List.mem_map.1 hx
        split
        · exact .inr ⟨f, List.mem_cons_self, rfl⟩
        · exact .inl hy
      · rcases List.mem_append.1 hx with hx | hx
        · exact .inl hx
        · exact .inr ⟨f, List.mem_cons_self, List.mem_singleton.1 hx⟩
    · exact .inr ⟨g, List.mem_cons_of_mem f hg, rfl⟩

theorem declaredIn_of_mem_flattenFields_single {x : ResolvedField} (hx : x ∈ flattenFields [o]) :
    x.declaredIn = o.name := by
  rcases mem_foldl_placeField o o.fields [] x hx with hx | ⟨f, -, rfl⟩
  · cases hx
  · rfl

theorem exists_owner_of_mem_flattenFields {owners : List EntityDecl} {x : ResolvedField}
    (hx : x ∈ flattenFields owners) :
    ∃ p ∈ owners, ∃ f ∈ p.fields, x = ⟨f.name, f.type, f.default, p.name⟩ := by
  suffices h : ∀ (owners : List EntityDecl) (acc : List ResolvedField),
      x ∈ owners.foldl (fun acc p => p.fields.foldl (placeField p) acc) acc →
        x ∈ acc ∨ ∃ p ∈ owners, ∃ f ∈ p.fields, x = ⟨f.name, f.type, f.default, p.name⟩ by
    simpa using h owners [] hx
  intro owners
  induction owners with
  | nil => exact fun _ hx => .inl hx
  | cons p owners ih =>
    intro acc hx
    rcases ih _ hx with hx | ⟨q, hq, f, hf, rfl⟩
    · rcases mem_foldl_placeField p p.fields acc x hx with hx | ⟨f, hf, rfl⟩
      · exact .inl hx
      · exact .inr ⟨p, List.mem_cons_self, f, hf, rfl⟩
    · exact .inr ⟨q, List.mem_cons_of_mem p hq, f, hf, rfl⟩

theorem nodup_names_foldl_placeField :
    ∀ (fs : List FieldDecl) (placed : List ResolvedField), (placed.map (·.name)).Nodup →
      ((fs.foldl (placeField o) placed).map (·.name)).Nodup
  | [], _, h => h
  | f :: fs, placed, h => by
    apply nodup_names_foldl_placeField fs
    unfold placeField
    split
    · rename_i hany
      obtain ⟨y, hy, hyf⟩ := List.any_eq_true.1 hany
      have hmap : (placed.map fun x => if x.name == f.name then
          (⟨f.name, f.type, f.default, o.name⟩ : ResolvedField) else x).map (·.name) =
          placed.map (·.name) := by
        rw [List.map_map]
        exact List.map_congr_left fun y _ => by by_cases hy : y.name = f.name <;> simp [hy]
      rwa [hmap]
    · rename_i hany
      rw [List.map_append, List.nodup_append]
      refine ⟨h, List.nodup_singleton _, ?_⟩
      simp only [List.mem_map, List.mem_singleton]
      rintro _ ⟨y, hy, rfl⟩ _ ⟨_, rfl, rfl⟩ hyf
      exact hany (List.any_eq_true.2 ⟨y, hy, by simpa using hyf⟩)

/-- Whether no field of `o₁` has the name of a field of `o₂`. -/
def FieldsApart (o₁ o₂ : EntityDecl) : Prop := ∀ f ∈ o₁.fields, ∀ g ∈ o₂.fields, f.name ≠ g.name

theorem foldl_layout_of_apart :
    ∀ (owners : List EntityDecl) (acc : List ResolvedField), owners.Pairwise FieldsApart →
      (∀ o ∈ owners, ∀ f ∈ o.fields, f.name ∉ acc.map (·.name)) →
      owners.foldl (fun acc o => o.fields.foldl (placeField o) acc) acc =
        acc ++ owners.flatMap fun o => flattenFields [o]
  | [], acc, _, _ => by simp
  | o :: owners, acc, hapart, hfresh => by
    obtain ⟨ho, hrest⟩ := List.pairwise_cons.1 hapart
    have hfirst : o.fields.foldl (placeField o) acc = acc ++ flattenFields [o] := by
      rw [flattenFields_single]
      simpa using foldl_placeField_append o acc o.fields [] (hfresh o List.mem_cons_self)
    have hfresh' : ∀ o' ∈ owners, ∀ f ∈ o'.fields,
        f.name ∉ (acc ++ flattenFields [o]).map (·.name) := by
      intro o' ho' f hf hin
      rw [List.map_append, List.mem_append] at hin
      rcases hin with hin | hin
      · exact hfresh o' (List.mem_cons_of_mem o ho') f hf hin
      · rcases (names_foldl_placeField o f.name o.fields []).1 hin with hin | ⟨g, hg, hgf⟩
        · cases hin
        · exact ho o' ho' g hg f hf hgf
    rw [List.foldl_cons, hfirst, foldl_layout_of_apart owners _ hrest hfresh', List.flatMap_cons,
      List.append_assoc]

theorem flattenFields_of_apart {owners : List EntityDecl} (hapart : owners.Pairwise FieldsApart) :
    flattenFields owners = owners.flatMap fun o => flattenFields [o] := by
  rw [flattenFields_eq]
  simpa using foldl_layout_of_apart owners [] hapart (by simp)

theorem nodup_names_flattenFields (owners : List EntityDecl) :
    ((flattenFields owners).map (·.name)).Nodup := by
  rw [flattenFields_eq]
  suffices h : ∀ (owners : List EntityDecl) (acc : List ResolvedField), (acc.map (·.name)).Nodup →
      ((owners.foldl (fun acc o => o.fields.foldl (placeField o) acc) acc).map (·.name)).Nodup from
    h owners [] List.nodup_nil
  intro owners
  induction owners with
  | nil => exact fun _ h => h
  | cons o owners ih => exact fun acc h => ih _ (nodup_names_foldl_placeField o o.fields acc h)

theorem FieldsApart.symm {o₁ o₂ : EntityDecl} (h : FieldsApart o₁ o₂) : FieldsApart o₂ o₁ :=
  fun f hf g hg hfg => h g hg f hf hfg.symm

/-! ### Chains of a well-formed registry -/

variable {opts : ResolveOptions} {r : Registry} {d : EntityDecl} {anc : List String}

theorem WellFormed.chainOf_complete (hr : r.Frozen) (hw : r.WellFormed opts) (hd : d ∈ r.decls) :
    ∃ anc, r.chainOf d = .complete anc :=
  (chainOf_complete_iff hr hw.base_resolves hd).2 (hw.no_revisit d hd)

theorem chains_lookup_of_complete (hr : r.Frozen) (hd : d ∈ r.decls)
    (hc : r.chainOf d = .complete anc) :
    ((r.decls.foldl (r.checkDecl opts) {}).chains.lookup d.name).getD [] = anc := by
  rw [foldl_checkDecl_chains, List.nil_append, lookup_flatMap_completeChains _ _ hr]
  change ((r.lookup? d.name).bind _).getD [] = anc
  rw [hr.lookup?_self hd]
  simp [hc]

theorem lookup?_of_transGen_extends (hw : r.WellFormed opts) {x a : String}
    (h : TransGen r.Extends x a) : ∃ t, r.lookup? a = some t ∧ t.isEnum = false := by
  obtain ⟨y, -, dy, hdy, rfl, hb, -⟩ := TransGen.tail'_iff.1 h
  obtain ⟨-, t, ht, hte⟩ := hw.base_resolves dy hdy a hb
  exact ⟨t, ht, hte⟩

theorem WellFormed.name_not_mem_ancestors (hr : r.Frozen) (hw : r.WellFormed opts)
    (hd : d ∈ r.decls) (hc : r.chainOf d = .complete anc) : d.name ∉ anc :=
  fun h => hw.no_revisit d hd d.name .refl ((mem_ancestors_iff hr hd hc _).1 h)

theorem map_name_filterMap_lookup? :
    ∀ {names : List String}, (∀ a ∈ names, a ∈ r.names) → (names.filterMap r.lookup?).map (·.name) = names
  | [], _ => rfl
  | a :: names, h => by
    obtain ⟨t, ht⟩ := exists_lookup? (h a List.mem_cons_self)
    rw [List.filterMap_cons, ht, List.map_cons, lookup?_name ht,
      map_name_filterMap_lookup? fun b hb => h b (List.mem_cons_of_mem a hb)]

theorem pairwise_fieldsApart (hr : r.Frozen) (hw : r.WellFormed opts)
    (hshadow : opts.allowShadowing = false) (hd : d ∈ r.decls) (hc : r.chainOf d = .complete anc) :
    (anc.filterMap r.lookup? ++ [d]).Pairwise FieldsApart := by
  have hanc : ∀ a, a ∈ anc ↔ TransGen r.Extends d.name a := mem_ancestors_iff hr hd hc
  have hself : d.name ∉ anc := hw.name_not_mem_ancestors hr hd hc
  have hmem : ∀ x ∈ anc.filterMap r.lookup? ++ [d],
      x ∈ r.decls ∧ ReflTransGen r.Extends d.name x.name := by
    intro x hx
    rcases List.mem_append.1 hx with hx | hx
    · obtain ⟨a, ha, hxa⟩ := List.mem_filterMap.1 hx
      rw [lookup?_name hxa]
      exact ⟨lookup?_mem hxa, ((hanc a).1 ha).to_reflTransGen⟩
    · rw [List.mem_singleton.1 hx]
      exact ⟨hd, .refl⟩
  have hreg : ∀ a ∈ anc, a ∈ r.names := fun a ha =>
    let ⟨_, ht, _⟩ := lookup?_of_transGen_extends hw ((hanc a).1 ha)
    mem_names_of_lookup? ht
  have hnames : ((anc.filterMap r.lookup? ++ [d]).map (·.name)).Nodup := by
    rw [List.map_append, map_name_filterMap_lookup? hreg]
    refine List.nodup_append.2 ⟨nodup_of_chainOf hd hc, List.nodup_singleton _, ?_⟩
    intro a ha b hb hab
    rw [List.map_singleton, List.mem_singleton] at hb
    rw [hab, hb] at ha
    exact hself ha
  have hextends : ∀ {x y : EntityDecl}, x ∈ r.decls → y ∈ r.decls →
      TransGen r.Extends x.name y.name → FieldsApart x y :=
    fun hx hy h => hw.no_shadow hshadow _ hx _ h _ (hr.lookup?_self hy)
  have hunique : Relator.RightUnique r.Extends := fun _ _ _ => hr.extends_functional
  refine (List.pairwise_map.1 (List.nodup_iff_pairwise_ne.1 hnames)).imp_of_mem ?_
  intro x y hx hy hne
  obtain ⟨hxd, hx⟩ := hmem x hx
  obtain ⟨hyd, hy⟩ := hmem y hy
  rcases ReflTransGen.total_of_right_unique hunique hx hy with hxy | hyx
  · rcases reflTransGen_iff_eq_or_transGen.1 hxy with heq | hxy
    · exact absurd heq.symm hne
    · exact hextends hxd hyd hxy
  · rcases reflTransGen_iff_eq_or_transGen.1 hyx with heq | hyx
    · exact absurd heq hne
    · exact (hextends hyd hxd hyx).symm

/-- Without shadowing, a resolved entity holds the fields of its chain one declaration after
another, and its own fields are those its declaration places. -/
theorem materialize_layout (hr : r.Frozen) (hw : r.WellFormed opts)
    (hshadow : opts.allowShadowing = false) (hd : d ∈ r.decls) (hc : r.chainOf d = .complete anc)
    (rank : Nat) (g : DependencyGraph) :
    (r.materialize d anc rank g).fields =
        (anc.filterMap r.lookup?).flatMap (fun o => flattenFields [o]) ++ flattenFields [d] ∧
      (r.materialize d anc rank g).ownFields = flattenFields [d] := by
  have hfields : (r.materialize d anc rank g).fields =
      (anc.filterMap r.lookup?).flatMap (fun o => flattenFields [o]) ++ flattenFields [d] := by
    simp only [materialize]
    rw [flattenFields_of_apart (pairwise_fieldsApart hr hw hshadow hd hc), List.flatMap_append,
      List.flatMap_singleton]
  refine ⟨hfields, ?_⟩
  have hself : d.name ∉ anc := hw.name_not_mem_ancestors hr hd hc
  have hinherited : ∀ x ∈ (anc.filterMap r.lookup?).flatMap (fun o => flattenFields [o]),
      (x.declaredIn == d.name) = false := by
    intro x hx
    obtain ⟨o, ho, hxo⟩ := List.mem_flatMap.1 hx
    obtain ⟨a, ha, hoa⟩ := List.mem_filterMap.1 ho
    rw [declaredIn_of_mem_flattenFields_single o hxo, lookup?_name hoa, beq_eq_false_iff_ne]
    exact fun h => hself (h ▸ ha)
  have hname : (r.materialize d anc rank g).name = d.name := rfl
  rw [ResolvedEntity.ownFields, hfields, List.filter_append,
    List.filter_eq_nil_iff.2 fun x hx => by simpa [hname] using hinherited x hx,
    List.filter_eq_self.2 fun x hx => by simp [hname, declaredIn_of_mem_flattenFields_single d hx],
    List.nil_append]

/-! ### The entities of a resolved model -/

variable {m : Model}

/-- An entity of a resolved model is its declaration materialized over the declaration's chain. -/
theorem exists_materialize (hr : r.Frozen) (h : r.resolve opts = .ok m) {e : ResolvedEntity}
    (he : e ∈ m.entities) :
    ∃ d ∈ r.decls, ∃ anc k, r.chainOf d = .complete anc ∧
      e = r.materialize d anc k (DependencyGraph.build r) := by
  obtain ⟨k, hk⟩ := List.getElem?_of_mem he
  obtain ⟨d, hd, -, rfl⟩ := entity_of_getElem? h hk
  obtain ⟨anc, hc⟩ := (wellFormed_of_resolve_ok hr h).chainOf_complete hr hd
  exact ⟨d, hd, anc, k, hc, by rw [chains_lookup_of_complete hr hd hc]⟩

/-- Every field of an entity of a resolved model is a field declared by a registered
declaration, the entity's own or an ancestor's. -/
theorem exists_declared_of_mem_fields (hr : r.Frozen) (h : r.resolve opts = .ok m)
    {e : ResolvedEntity} (he : e ∈ m.entities) {x : ResolvedField} (hx : x ∈ e.fields) :
    ∃ p ∈ r.decls, ∃ f ∈ p.fields, x = ⟨f.name, f.type, f.default, p.name⟩ := by
  obtain ⟨d, hd, anc, k, -, rfl⟩ := exists_materialize hr h he
  obtain ⟨p, hp, f, hf, rfl⟩ := exists_owner_of_mem_flattenFields hx
  refine ⟨p, ?_, f, hf, rfl⟩
  rcases List.mem_append.1 hp with hp | hp
  · obtain ⟨n, -, hn⟩ := List.mem_filterMap.1 hp
    exact lookup?_mem hn
  · rw [List.mem_singleton.1 hp]
    exact hd

theorem flatMap_filterMap_congr {α β γ δ : Type} {f : α → Option β} {g : α → Option γ}
    {F : β → List δ} {G : γ → List δ} :
    ∀ {l : List α}, (∀ a ∈ l, ∃ b c, f a = some b ∧ g a = some c ∧ F b = G c) →
      (l.filterMap f).flatMap F = (l.filterMap g).flatMap G
  | [], _ => rfl
  | a :: l, h => by
    obtain ⟨b, c, hb, hc, hbc⟩ := h a List.mem_cons_self
    rw [List.filterMap_cons, hb, List.filterMap_cons, hc, List.flatMap_cons, List.flatMap_cons, hbc,
      flatMap_filterMap_congr fun a' ha' => h a' (List.mem_cons_of_mem a ha')]

/-- Without shadowing, the entity a resolved model holds under a registered name declares the
fields its declaration places, and is a class exactly when the declaration is. -/
theorem get?_of_lookup? (hr : r.Frozen) (hshadow : opts.allowShadowing = false)
    (h : r.resolve opts = .ok m) {p : EntityDecl} (hp : r.lookup? p.name = some p) :
    ∃ t, m.get? p.name = some t ∧ t.ownFields = flattenFields [p] ∧ t.isEnum = p.isEnum := by
  have hw := wellFormed_of_resolve_ok hr h
  have hpd := lookup?_mem hp
  obtain ⟨anc, hc⟩ := hw.chainOf_complete hr hpd
  have hget := get?_of_resolve_ok hr h p.name
  rw [hp, Option.map_some, chains_lookup_of_complete hr hpd hc] at hget
  obtain ⟨t, ht, heq⟩ := Option.map_eq_some_iff.1 hget
  have hown : t.ownFields = flattenFields [p] :=
    calc t.ownFields = ({ t with rank := 0 } : ResolvedEntity).ownFields := rfl
      _ = (r.materialize p anc 0 (DependencyGraph.build r)).ownFields := congrArg _ heq
      _ = flattenFields [p] := (materialize_layout hr hw hshadow hpd hc 0 _).2
  have hkind : t.kind = p.kind := congrArg ResolvedEntity.kind heq
  refine ⟨t, ht, hown, ?_⟩
  cases hk : p.kind <;> simp [ResolvedEntity.isEnum, EntityDecl.isEnum, hkind, hk]

/-- Without shadowing, a resolved entity's ancestors are classes of the model, and their own
fields, root first, followed by the entity's own fields are its fields, no name twice. -/
theorem resolve_memberLayout (hr : r.Frozen) (hshadow : opts.allowShadowing = false)
    (h : r.resolve opts = .ok m) (e : ResolvedEntity) (he : e ∈ m.entities) :
    (∀ a ∈ e.ancestors, ∃ t, m.get? a = some t ∧ t.isEnum = false) ∧
      (e.ancestors.filterMap m.get?).flatMap ResolvedEntity.ownFields ++ e.ownFields = e.fields ∧
      (e.fields.map (·.name)).Nodup := by
  have hw := wellFormed_of_resolve_ok hr h
  obtain ⟨d, hd, anc, k, hc, rfl⟩ := exists_materialize hr h he
  obtain ⟨hfields, hown⟩ := materialize_layout hr hw hshadow hd hc k (DependencyGraph.build r)
  have hents : ∀ a ∈ anc, ∃ t p, m.get? a = some t ∧ r.lookup? a = some p ∧
      t.ownFields = flattenFields [p] ∧ t.isEnum = false := by
    intro a ha
    obtain ⟨p, hp, hpe⟩ := lookup?_of_transGen_extends hw ((mem_ancestors_iff hr hd hc a).1 ha)
    obtain rfl := lookup?_name hp
    obtain ⟨t, ht, htown, hte⟩ := get?_of_lookup? hr hshadow h hp
    exact ⟨t, p, ht, hp, htown, hte.trans hpe⟩
  refine ⟨fun a ha => ?_, ?_, nodup_names_flattenFields _⟩
  · obtain ⟨t, -, ht, -, -, hte⟩ := hents a ha
    exact ⟨t, ht, hte⟩
  · change (anc.filterMap m.get?).flatMap ResolvedEntity.ownFields ++
      (r.materialize d anc k (DependencyGraph.build r)).ownFields = (r.materialize d anc k (DependencyGraph.build r)).fields
    rw [hfields, hown, flatMap_filterMap_congr fun a ha =>
      let ⟨t, p, ht, hp, htown, _⟩ := hents a ha; ⟨t, p, ht, hp, htown⟩]

theorem chainOfThree_memberLayout : chainOfThree.Frozen ∧
    ({} : ResolveOptions).allowShadowing = false ∧
    ∃ m, chainOfThree.resolve {} = .ok m ∧ ∀ e ∈ m.entities,
      (∀ a ∈ e.ancestors, ∃ t, m.get? a = some t ∧ t.isEnum = false) ∧
      (e.ancestors.filterMap m.get?).flatMap ResolvedEntity.ownFields ++ e.ownFields = e.fields ∧
      (e.fields.map (·.name)).Nodup := by
  obtain ⟨m, hm⟩ : ∃ m, chainOfThree.resolve {} = .ok m := ⟨_, rfl⟩
  exact ⟨by decide, rfl, m, hm, resolve_memberLayout (by decide) rfl hm⟩

/-- `Derived` declares `id` again over the `id` of its base. -/
def shadowedId : Registry :=
  ⟨[{ name := "Base", fields := [⟨"id", .primitive .u32, none⟩] },
    { name := "Derived", base := some "Base",
      fields := [⟨"id", .primitive .string, none⟩, ⟨"x", .primitive .boolean, none⟩] }]⟩

/-- With shadowing allowed, the class chain of `Derived` declares `id` twice, once in the base and
once in `Derived`, while its fields hold `id` once, in the slot of the base's. -/
theorem shadowedId_declared_twice : ∃ m, shadowedId.resolve { allowShadowing := true } = .ok m ∧
    ∃ e ∈ m.entities,
      ((e.ancestors.filterMap m.get?).flatMap ResolvedEntity.ownFields ++ e.ownFields).map (·.name) =
        ["id", "id", "x"] ∧
      e.fields.map (·.name) = ["id", "x"] := by
  refine ⟨_, rfl, ?_⟩
  decide +kernel

end Registry

end EntitySchema
