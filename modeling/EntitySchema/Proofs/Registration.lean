import Mathlib.Data.List.Induction
import Std.Data.HashMap.Lemmas
import EntitySchema.Proofs.Links

/-! # The index of a registry stays in step with its entries

A registry keeps its declarations in a list and, beside it, an index from names to positions. A
`register` call reads the index to refuse a name that is taken, and otherwise appends the
declaration and records its name at position `len`. The two are in step (`InStep`) when the names
of the entries are distinct and the index maps exactly those names, each to the position of its
entry. The empty registry is in step, and a registration keeps it so (`InStep.register`); so is
every registry that a sequence of `register` calls builds (`Built.inStep`), and the snapshot that
`freeze` takes of it.

In step, the index answers what the list answers: a lookup finds the one entry of that name, a
position is the place of that entry, and a name is held exactly when it looks up
(`registered_consistent`). So the resolver, run on the entries in order, reads through them what
it would read through the index (`FrozenRegistry.reads_eq`).

Loading a batch registers each document that reads. Read declaratively, a document *fails* when
it does not read, or when it reads to a name that an earlier document already read to. The fold
of a load keeps one invariant, `LoadedSoFar`: since the first declaration of a name is the one
registered, "an earlier document read to this name" and "the index holds this name" agree after
every document. So a load holds the declarations of the documents in order when none fails, and
otherwise fails with one error per failing document (`load_eq`).
-/

namespace EntitySchema

/-- The entries and the index are in step: the names of the entries are distinct, and the index
maps exactly those names, each to the position of its entry. -/
structure InStep (entries : List EntityDecl) (index : Std.HashMap String Nat) : Prop where
  nodup : (entries.map (·.name)).Nodup
  index_iff : ∀ n i, index[n]? = some i ↔ ∃ d : EntityDecl, entries[i]? = some d ∧ d.name = n

theorem getElem?_append_singleton_eq_some {l : List EntityDecl} {d d' : EntityDecl} {i : Nat} :
    (l ++ [d])[i]? = some d' ↔ l[i]? = some d' ∨ (i = l.length ∧ d' = d) := by
  rw [List.getElem?_append]
  split
  · next hi =>
    have hne : i ≠ l.length := Nat.ne_of_lt hi
    simp [hne]
  · next hi =>
    have hnone : l[i]? = none := List.getElem?_eq_none (Nat.le_of_not_lt hi)
    rw [hnone]
    rcases Nat.lt_or_ge l.length i with hlt | hle
    · have hpast : [d][i - l.length]? = none := List.getElem?_eq_none (by simp; omega)
      simp [hpast, Nat.ne_of_gt hlt]
    · have heq : i = l.length := Nat.le_antisymm hle (Nat.le_of_not_lt hi)
      subst heq
      simp [eq_comm]

theorem nodup_names_append_singleton {l : List EntityDecl} {d : EntityDecl} :
    ((l ++ [d]).map (·.name)).Nodup ↔ d.name ∉ l.map (·.name) ∧ (l.map (·.name)).Nodup := by
  rw [List.map_append, List.map_singleton, ← List.concat_eq_append, List.nodup_concat]

namespace InStep

variable {entries : List EntityDecl} {index : Std.HashMap String Nat} {n : String} {d : EntityDecl}

theorem empty : InStep [] ∅ :=
  ⟨List.nodup_nil, fun n i => by simp⟩

theorem contains_iff (h : InStep entries index) :
    index.contains n = true ↔ n ∈ entries.map (·.name) := by
  rw [Std.HashMap.contains_eq_isSome_getElem?, Option.isSome_iff_exists, List.mem_map]
  constructor
  · rintro ⟨i, hi⟩
    obtain ⟨d, hd, rfl⟩ := (h.index_iff n i).1 hi
    exact ⟨d, List.mem_of_getElem? hd, rfl⟩
  · rintro ⟨d, hd, rfl⟩
    obtain ⟨i, hi⟩ := List.mem_iff_getElem?.1 hd
    exact ⟨i, (h.index_iff _ i).2 ⟨d, hi, rfl⟩⟩

theorem lookup_eq_some_iff (h : InStep entries index) :
    index[n]?.bind (fun i => entries[i]?) = some d ↔ d ∈ entries ∧ d.name = n := by
  rw [Option.bind_eq_some_iff]
  constructor
  · rintro ⟨i, hi, hd⟩
    obtain ⟨d', hd', hn⟩ := (h.index_iff n i).1 hi
    rw [hd] at hd'
    cases hd'
    exact ⟨List.mem_of_getElem? hd, hn⟩
  · rintro ⟨hd, rfl⟩
    obtain ⟨i, hi⟩ := List.mem_iff_getElem?.1 hd
    exact ⟨i, (h.index_iff _ i).2 ⟨d, hi, rfl⟩, hi⟩

/-- Recording a new name at the end keeps the entries and the index in step. -/
theorem register (h : InStep entries index) (hnew : d.name ∉ entries.map (·.name)) :
    InStep (entries ++ [d]) (index.insert d.name entries.length) := by
  refine ⟨nodup_names_append_singleton.2 ⟨hnew, h.nodup⟩, fun n i => ?_⟩
  · rw [Std.HashMap.getElem?_insert]
    by_cases hn : d.name = n
    · subst hn
      simp only [beq_self_eq_true, if_true, Option.some.injEq]
      constructor
      · rintro rfl
        exact ⟨d, List.getElem?_concat_length, rfl⟩
      · rintro ⟨d', hd', hname⟩
        rcases getElem?_append_singleton_eq_some.1 hd' with hd' | ⟨hi, -⟩
        · exact absurd (hname ▸ List.mem_map_of_mem (List.mem_of_getElem? hd')) hnew
        · exact hi.symm
    · have hne : (d.name == n) = false := beq_false_of_ne hn
      rw [hne, if_neg Bool.false_ne_true, h.index_iff]
      constructor
      · rintro ⟨d', hd', hname⟩
        exact ⟨d', getElem?_append_singleton_eq_some.2 (.inl hd'), hname⟩
      · rintro ⟨d', hd', hname⟩
        rcases getElem?_append_singleton_eq_some.1 hd' with hd' | ⟨-, rfl⟩
        · exact ⟨d', hd', hname⟩
        · exact absurd hname hn

theorem frozen (h : InStep entries index) : (⟨entries⟩ : Registry).Frozen := h.nodup

end InStep

theorem Registry.Frozen.position?_eq_some_iff {r : Registry} (hr : r.Frozen) {n : String}
    {i : Nat} : r.position? n = some i ↔ ∃ d : EntityDecl, r.decls[i]? = some d ∧ d.name = n := by
  unfold Registry.position?
  rw [List.idxOf?_eq_some_iff]
  constructor
  · rintro ⟨hi, hn, -⟩
    have hi' : i < r.decls.length := by simpa [Registry.names] using hi
    exact ⟨r.decls[i], List.getElem?_eq_getElem hi', by simpa [Registry.names] using hn⟩
  · rintro ⟨d, hd, rfl⟩
    obtain ⟨hi, rfl⟩ := List.getElem?_eq_some_iff.1 hd
    have hi' : i < r.names.length := by simpa [Registry.names] using hi
    refine ⟨hi', by simp [Registry.names], fun j hj hji => ?_⟩
    have hj' : j < r.names.length := by omega
    have heq : r.names[j] = r.names[i] := by simpa [Registry.names] using hji
    exact absurd (hr.getElem_inj_iff.1 heq) (by omega)

/-! ## The registry while documents are loaded -/

namespace TypeRegistry

variable {r : TypeRegistry} {d : EntityDecl}

theorem register_of_contains (h : r.index.contains d.name = true) :
    r.register d = (.error (.duplicateEntity d.name), r) := by
  simp [register, h]

theorem register_of_not_contains (h : r.index.contains d.name = false) :
    r.register d = (.ok (), ⟨r.entries ++ [d], r.index.insert d.name r.len⟩) := by
  simp [register, h, len]

theorem register_of_mem (h : InStep r.entries r.index) (htaken : d.name ∈ r.entries.map (·.name)) :
    r.register d = (.error (.duplicateEntity d.name), r) :=
  register_of_contains (h.contains_iff.2 htaken)

theorem register_of_not_mem (h : InStep r.entries r.index)
    (hnew : d.name ∉ r.entries.map (·.name)) :
    r.register d = (.ok (), ⟨r.entries ++ [d], r.index.insert d.name r.len⟩) :=
  register_of_not_contains (Bool.eq_false_iff.2 fun hc => hnew (h.contains_iff.1 hc))

/-- A registration, refused or not, keeps the entries and the index in step. -/
theorem register_inStep (h : InStep r.entries r.index) (d : EntityDecl) :
    InStep (r.register d).2.entries (r.register d).2.index := by
  by_cases hnew : d.name ∈ r.entries.map (·.name)
  · rw [register_of_mem h hnew]
    exact h
  · rw [register_of_not_mem h hnew]
    exact h.register hnew

/-- The registries a sequence of `register` calls builds from `new`. A refused call leaves the
registry it was made on. -/
inductive Built : TypeRegistry → Prop
  | new : Built TypeRegistry.new
  | register {r : TypeRegistry} (d : EntityDecl) : Built r → Built (r.register d).2

theorem Built.inStep (h : r.Built) : InStep r.entries r.index := by
  induction h with
  | new => exact InStep.empty
  | register d _ ih => exact register_inStep ih d

/-- What the index gives a registry while documents are loaded: it is in step with the entries, a
lookup finds the one entry of that name, a taken name is refused with the registry left as it
was, and a new one is appended and recorded at position `len`, no other name moving. -/
structure Consistent (r : TypeRegistry) : Prop where
  inStep : InStep r.entries r.index
  lookup_iff : ∀ n d, r.lookup n = some d ↔ d ∈ r.entries ∧ d.name = n
  refuses_taken : ∀ d : EntityDecl, d.name ∈ r.entries.map (·.name) →
    r.register d = (.error (.duplicateEntity d.name), r)
  appends_new : ∀ d : EntityDecl, d.name ∉ r.entries.map (·.name) →
    (r.register d).1 = .ok () ∧ (r.register d).2.entries = r.entries ++ [d] ∧
      (r.register d).2.index[d.name]? = some r.len ∧
      ∀ n, n ≠ d.name → (r.register d).2.index[n]? = r.index[n]?

theorem consistent_of_inStep (h : InStep r.entries r.index) : r.Consistent where
  inStep := h
  lookup_iff _ _ := h.lookup_eq_some_iff
  refuses_taken _ htaken := register_of_mem h htaken
  appends_new d hnew := by
    rw [register_of_not_mem h hnew]
    refine ⟨rfl, rfl, Std.HashMap.getElem?_insert_self, fun n hn => ?_⟩
    rw [Std.HashMap.getElem?_insert, if_neg (by simpa using Ne.symm hn)]

end TypeRegistry

/-! ## The frozen registry -/

namespace FrozenRegistry

variable {f : FrozenRegistry}

/-- In step, the index gives what the resolver reads from the entries in order: the same lookup,
the same position and the same membership. -/
theorem reads_eq (h : InStep f.entries f.index) (n : String) :
    f.lookup n = f.toRegistry.lookup? n ∧ f.position n = f.toRegistry.position? n ∧
      f.contains n = f.toRegistry.contains n := by
  have hfrozen : f.toRegistry.Frozen := h.frozen
  refine ⟨Option.ext fun d => ?_, Option.ext fun i => ?_, Bool.eq_iff_iff.2 ?_⟩
  · rw [hfrozen.lookup?_eq_some_iff]
    exact h.lookup_eq_some_iff
  · rw [hfrozen.position?_eq_some_iff]
    exact h.index_iff n i
  · rw [Registry.contains_iff]
    exact h.contains_iff

/-- What the index gives the snapshot the resolver is given: it is in step with the entries, a
lookup finds the one entry of that name, the position of a name is the place of that entry, a name
is held exactly when it looks up, reading the places `0` to `len - 1` gives the entries in order,
and every read by name agrees with the entries read in order. -/
structure Consistent (f : FrozenRegistry) : Prop where
  inStep : InStep f.entries f.index
  lookup_iff : ∀ n d, f.lookup n = some d ↔ d ∈ f.iter ∧ d.name = n
  position_iff : ∀ n i, f.position n = some i ↔ ∃ d, f.get i = some d ∧ d.name = n
  contains_eq : ∀ n, f.contains n = (f.lookup n).isSome
  iter_eq : (List.range f.len).map f.get = f.iter.map some
  reads_eq : ∀ n, f.lookup n = f.toRegistry.lookup? n ∧ f.position n = f.toRegistry.position? n ∧
    f.contains n = f.toRegistry.contains n

theorem map_get_range : (List.range f.len).map f.get = f.iter.map some := by
  refine List.ext_getElem (by simp [len, iter]) fun k hk _ => ?_
  have hk' : k < f.entries.length := by simpa [len] using hk
  simp [get, iter, hk']

theorem consistent_of_inStep (h : InStep f.entries f.index) : f.Consistent where
  inStep := h
  lookup_iff _ _ := h.lookup_eq_some_iff
  position_iff n i := h.index_iff n i
  contains_eq n := by
    rw [(reads_eq h n).2.2, (reads_eq h n).1]
    exact Registry.contains_eq_isSome_lookup _ n
  iter_eq := map_get_range
  reads_eq := reads_eq h

end FrozenRegistry

/-! ## Every registry that registering builds -/

namespace TypeRegistry

/-- Every registry that a sequence of `register` calls builds from `new` keeps its index in step
with its entries, and so does the snapshot `freeze` takes of it. -/
theorem registered_consistent {r : TypeRegistry} (h : r.Built) :
    r.Consistent ∧ r.freeze.Consistent :=
  ⟨consistent_of_inStep h.inStep, FrozenRegistry.consistent_of_inStep h.inStep⟩

/-- `Entity` and then `Hat` registered, and `Hat` once more, refused. -/
theorem entityAndHat_consistent :
    let r := ((TypeRegistry.new.register { name := "Entity" }).2.register { name := "Hat" }).2
    (r.register { name := "Hat" }).2.Built ∧ (r.register { name := "Hat" }).2.Consistent ∧
      (r.register { name := "Hat" }).2.freeze.Consistent := by
  intro r
  have hbuilt : (r.register { name := "Hat" }).2.Built := .register _ (.register _ (.register _ .new))
  exact ⟨hbuilt, registered_consistent hbuilt⟩

end TypeRegistry

/-! ## Loading a batch of documents -/

namespace Registry

variable (s : Spellings)

/-! ### The failing documents of a batch -/

/-- The declarations of the documents that read, in document order. -/
def readable (docs : List (String × String)) : List EntityDecl :=
  docs.filterMap fun doc => (s.readDocument doc.1 doc.2).toOption

/-- What loading reports for a document read after the documents `before`: its own error if it
does not read, the repeated name if a document of `before` read to the same name, and nothing
otherwise. -/
def loadError? (before : List (String × String)) (doc : String × String) :
    Option SchemaError :=
  match s.readDocument doc.1 doc.2 with
  | .error e => some e
  | .ok d =>
    if d.name ∈ (readable s before).map (·.name) then some (.duplicateEntity d.name) else none

/-- The errors of a batch: one for each failing document, in document order. -/
def loadErrors (docs : List (String × String)) : List SchemaError :=
  docs.zipIdx.filterMap fun (doc, i) => loadError? s (docs.take i) doc

variable {s}

theorem readable_append_singleton (p : List (String × String)) (doc : String × String) :
    readable s (p ++ [doc]) = readable s p ++ (s.readDocument doc.1 doc.2).toOption.toList := by
  simp only [readable, List.filterMap_append, List.filterMap_cons, List.filterMap_nil]
  cases (s.readDocument doc.1 doc.2).toOption <;> rfl

theorem loadErrors_append_singleton (p : List (String × String)) (doc : String × String) :
    loadErrors s (p ++ [doc]) = loadErrors s p ++ (loadError? s p doc).toList := by
  unfold loadErrors
  rw [List.zipIdx_append, List.filterMap_append, List.zipIdx_singleton, Nat.zero_add]
  have hbefore : ∀ x ∈ p.zipIdx,
      (fun (y, i) => loadError? s ((p ++ [doc]).take i) y) x =
        (fun (y, i) => loadError? s (p.take i) y) x := by
    rintro ⟨x, i⟩ hx
    have hi : i < p.length := by simpa using (List.mem_zipIdx hx).2.1
    simp only [List.take_append_of_le_length (Nat.le_of_lt hi)]
  rw [List.filterMap_congr hbefore]
  congr 1
  simp only [List.filterMap_cons, List.filterMap_nil, List.take_left]
  cases loadError? s p doc <;> rfl

theorem loadError?_eq_none_iff (p : List (String × String)) (doc : String × String) :
    loadError? s p doc = none ↔
      ∃ d, s.readDocument doc.1 doc.2 = .ok d ∧ d.name ∉ (readable s p).map (·.name) := by
  unfold loadError?
  split
  · next e he => simp [he]
  · next d hd =>
    split
    · next hmem =>
      refine ⟨(fun h => nomatch h), ?_⟩
      rintro ⟨d', hd', hfresh⟩
      rw [hd] at hd'
      cases hd'
      exact absurd hmem hfresh
    · next hmem => exact ⟨fun _ => ⟨d, hd, hmem⟩, fun _ => rfl⟩

/-- No document of a batch fails exactly when every document reads and no two of them read to
one name. -/
theorem loadErrors_eq_nil_iff (docs : List (String × String)) :
    loadErrors s docs = [] ↔
      (∀ doc ∈ docs, ∃ d, s.readDocument doc.1 doc.2 = .ok d) ∧
        ((readable s docs).map (·.name)).Nodup := by
  induction docs using List.reverseRecOn with
  | nil => simp [loadErrors, readable]
  | append_singleton p doc ih =>
    rw [loadErrors_append_singleton, List.append_eq_nil_iff, ih, Option.toList_eq_nil_iff,
      loadError?_eq_none_iff, readable_append_singleton]
    constructor
    · rintro ⟨⟨hread, hnodup⟩, d, hd, hfresh⟩
      refine ⟨fun x hx => ?_, ?_⟩
      · rcases List.mem_append.1 hx with hx | hx
        · exact hread x hx
        · exact List.mem_singleton.1 hx ▸ ⟨d, hd⟩
      · rw [hd]
        exact nodup_names_append_singleton.2 ⟨hfresh, hnodup⟩
    · rintro ⟨hread, hnodup⟩
      obtain ⟨d, hd⟩ := hread doc (List.mem_append_right p (List.mem_singleton_self doc))
      rw [hd] at hnodup
      obtain ⟨hfresh, hnodup⟩ := nodup_names_append_singleton.1 hnodup
      exact ⟨⟨fun x hx => hread x (List.mem_append_left _ hx), hnodup⟩, d, hd, hfresh⟩

/-! ### The fold of `load` -/

/-- What the fold has built after the documents `p`: the names read so far are exactly the ones
the index holds, the entries are the declarations read so far as long as no name repeated, and
the errors are those of `p`. -/
structure LoadedSoFar (s : Spellings) (p : List (String × String))
    (acc : TypeRegistry × List SchemaError) : Prop where
  contains_iff : ∀ n, acc.1.index.contains n = true ↔ n ∈ (readable s p).map (·.name)
  decls : ((readable s p).map (·.name)).Nodup → acc.1.entries = readable s p
  errors : acc.2 = loadErrors s p

theorem LoadedSoFar.nil : LoadedSoFar s [] (TypeRegistry.new, []) where
  contains_iff n := by simp [TypeRegistry.new, readable]
  decls _ := rfl
  errors := rfl

/-- What one step of the fold can do: a document that does not read adds its error, one that
reads to a name the index holds adds the repeated name, and any other is registered last. -/
theorem loadStep_cases (acc : TypeRegistry × List SchemaError) (doc : String × String) :
    (∃ e, s.readDocument doc.1 doc.2 = .error e ∧
      TypeRegistry.loadStep s acc doc = (acc.1, acc.2 ++ [e])) ∨
    (∃ d, s.readDocument doc.1 doc.2 = .ok d ∧ acc.1.index.contains d.name = true ∧
      TypeRegistry.loadStep s acc doc = (acc.1, acc.2 ++ [.duplicateEntity d.name])) ∨
    (∃ d, s.readDocument doc.1 doc.2 = .ok d ∧ acc.1.index.contains d.name = false ∧
      TypeRegistry.loadStep s acc doc =
        (⟨acc.1.entries ++ [d], acc.1.index.insert d.name acc.1.entries.length⟩, acc.2)) := by
  unfold TypeRegistry.loadStep
  cases hread : s.readDocument doc.1 doc.2 with
  | error e => exact .inl ⟨e, rfl, rfl⟩
  | ok d =>
    cases hcontains : acc.1.index.contains d.name
    · exact .inr (.inr ⟨d, rfl, hcontains, by simp [TypeRegistry.register, hcontains]⟩)
    · exact .inr (.inl ⟨d, rfl, hcontains, by simp [TypeRegistry.register, hcontains]⟩)

theorem LoadedSoFar.step {p : List (String × String)} {acc : TypeRegistry × List SchemaError}
    (h : LoadedSoFar s p acc) (doc : String × String) :
    LoadedSoFar s (p ++ [doc]) (TypeRegistry.loadStep s acc doc) := by
  have herrors := loadErrors_append_singleton (s := s) p doc
  have hreadable := readable_append_singleton (s := s) p doc
  unfold loadError? at herrors
  rcases loadStep_cases acc doc with ⟨e, hread, hstep⟩ | ⟨d, hread, hcontains, hstep⟩ |
    ⟨d, hread, hcontains, hstep⟩
  · rw [hread] at herrors hreadable
    simp only [Except.toOption, Option.toList_none, List.append_nil] at herrors hreadable
    rw [hstep]
    exact ⟨by simpa [hreadable] using h.contains_iff, by simpa [hreadable] using h.decls,
      by simp [herrors, h.errors]⟩
  · have hmem : d.name ∈ (readable s p).map (·.name) := (h.contains_iff _).1 hcontains
    rw [hread] at herrors hreadable
    simp only [Except.toOption, Option.toList_some, hmem, if_true] at herrors hreadable
    rw [hstep]
    refine ⟨fun n => ?_, fun hnodup => ?_, by simp [herrors, h.errors]⟩
    · rw [h.contains_iff, hreadable, List.map_append, List.mem_append]
      constructor
      · exact .inl
      · rintro (hn | hn)
        · exact hn
        · exact (List.mem_singleton.1 hn) ▸ hmem
    · rw [hreadable] at hnodup
      exact absurd hmem (nodup_names_append_singleton.1 hnodup).1
  · have hmem : d.name ∉ (readable s p).map (·.name) :=
      fun hmem => by simp [(h.contains_iff _).2 hmem] at hcontains
    rw [hread] at herrors hreadable
    simp only [Except.toOption, Option.toList_some, hmem, if_false, Option.toList_none,
      List.append_nil] at herrors hreadable
    rw [hstep]
    refine ⟨fun n => ?_, fun hnodup => ?_, by simp [herrors, h.errors]⟩
    · rw [Std.HashMap.contains_insert, Bool.or_eq_true, h.contains_iff, hreadable]
      simp only [beq_iff_eq, List.map_append, List.map_cons, List.map_nil, List.mem_append,
        List.mem_singleton]
      rw [or_comm, eq_comm]
    · rw [hreadable] at hnodup
      rw [h.decls (nodup_names_append_singleton.1 hnodup).2, hreadable]

theorem LoadedSoFar.foldl {p : List (String × String)} {acc : TypeRegistry × List SchemaError}
    (h : LoadedSoFar s p acc) (docs : List (String × String)) :
    LoadedSoFar s (p ++ docs) (docs.foldl (TypeRegistry.loadStep s) acc) := by
  induction docs generalizing p acc with
  | nil => simpa using h
  | cons doc docs ih =>
    have hstep := ih (h.step doc)
    rwa [List.append_assoc, List.singleton_append] at hstep

/-- A load holds the declarations read when no document fails, and reports the failures
otherwise. -/
theorem load_eq (docs : List (String × String)) :
    load s docs = if loadErrors s docs = [] then .ok ⟨readable s docs⟩
      else .error (loadErrors s docs) := by
  have hfold := LoadedSoFar.nil.foldl (s := s) docs
  rw [List.nil_append] at hfold
  unfold load TypeRegistry.load
  generalize docs.foldl (TypeRegistry.loadStep s) (TypeRegistry.new, []) = acc at hfold
  obtain ⟨⟨entries, index⟩, errors⟩ := acc
  obtain ⟨-, hdecls, herrors⟩ := hfold
  simp only at hdecls herrors
  subst herrors
  by_cases hnil : loadErrors s docs = []
  · rw [if_pos hnil, hnil, ← hdecls ((loadErrors_eq_nil_iff docs).1 hnil).2]
    rfl
  · obtain ⟨e, rest, hcons⟩ := List.exists_cons_of_ne_nil hnil
    rw [if_neg hnil, hcons]
    rfl

/-- Every declaration of a loaded registry is what one of the documents reads to. -/
theorem exists_read_of_mem_load {docs : List (String × String)} {r : Registry}
    (h : load s docs = .ok r) {d : EntityDecl} (hd : d ∈ r.decls) :
    ∃ doc ∈ docs, s.readDocument doc.1 doc.2 = .ok d := by
  rw [load_eq] at h
  split at h
  · cases h
    obtain ⟨doc, hdoc, hread⟩ := List.mem_filterMap.1 hd
    refine ⟨doc, hdoc, ?_⟩
    cases hr : s.readDocument doc.1 doc.2 with
    | error e =>
      rw [hr] at hread
      cases hread
    | ok d' =>
      rw [hr] at hread
      cases hread
      rfl
  · cases h

end Registry

end EntitySchema
