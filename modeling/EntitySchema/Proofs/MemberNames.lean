import EntitySchema.Proofs.IdentifierWords
import EntitySchema.Proofs.Loading

/-!
# Member and enumerator names of a generated type

A generated type declares one member for each of its fields: a C++, C# or Java class for its own
fields, the inherited ones living in its base class, and a Rust struct for the whole flattened
list. An enumeration declares one enumerator for each value. The names of these fields, and the
values, are distinct identifiers; the question is whether the target language's spelling keeps
them apart.

It does not always. C++ members take an `m_` prefix and C# marks reserved words with an `@` that
no identifier starts with, so both keep names apart. C++, Java and Rust mark a reserved word with
an appended underscore instead, and the marked word is another identifier: Java writes both `new`
and `new_` as `new_`. Rust first turns a name to snake case (a member) or Pascal case (an
enumerator), which merges `blockNumber` with `block_number` and `darkBlue` with `dark_blue`; the
marks add nothing there, since neither form ever ends in an underscore. Two distinct names thus
meet exactly as `MemberNamesMeet` and `EnumeratorNamesMeet` say.
-/

namespace EntitySchema

open Target

/-! ### Reserved-word marks -/

namespace Target

/-- Two names of which one is a reserved word and the other that word with an underscore. -/
def KeywordPair (keywords : List String) (a b : String) : Prop :=
  (a ∈ keywords ∧ b = a ++ "_") ∨ (b ∈ keywords ∧ a = b ++ "_")

/-- When two distinct identifiers get one member name: never in C++, whose prefix keeps them
apart, nor in C#, whose mark no identifier starts with; in Java when one is a reserved word and
the other that word with an underscore; in Rust when their snake-case forms agree. -/
def MemberNamesMeet : Language → String → String → Prop
  | .cpp, _, _ => False
  | .csharp, _, _ => False
  | .java, a, b => KeywordPair javaKeywords a b
  | .rust, a, b => Text.snakeCase a = Text.snakeCase b

/-- When two distinct identifiers get one enumerator name: never in C#; in C++ and Java when one
is a reserved word and the other that word with an underscore; in Rust when their Pascal-case
forms agree. -/
def EnumeratorNamesMeet : Language → String → String → Prop
  | .cpp, a, b => KeywordPair cppKeywords a b
  | .csharp, _, _ => False
  | .java, a, b => KeywordPair javaKeywords a b
  | .rust, a, b => Text.pascalCase a = Text.pascalCase b

theorem getLast?_append_underscore (x : String) : (x ++ "_").toList.getLast? = some '_' := by
  simp [String.toList_append]

theorem keywords_getLast? :
    cppKeywords.all (fun k => k.toList.getLast? != some '_') = true ∧
      javaKeywords.all (fun k => k.toList.getLast? != some '_') = true ∧
      rustKeywords.all (fun k => k.toList.getLast? != some '_') = true := by
  decide

theorem append_underscore_not_mem {kw : List String}
    (hkw : kw.all (fun k => k.toList.getLast? != some '_') = true) :
    ∀ k ∈ kw, k ++ "_" ∉ kw := by
  intro k _ hmem
  have hlast := List.all_eq_true.1 hkw _ hmem
  rw [getLast?_append_underscore] at hlast
  exact absurd hlast (by decide)

/-- Two names get one mark exactly when they are equal, or one is a reserved word and the other
is that word with its mark. -/
theorem suffixKeyword_eq_iff {kw : List String} (hkw : ∀ k ∈ kw, k ++ "_" ∉ kw) {a b : String} :
    suffixKeyword kw a = suffixKeyword kw b ↔ a = b ∨ KeywordPair kw a b := by
  unfold suffixKeyword KeywordPair
  simp only [List.contains_iff_mem]
  by_cases ha : a ∈ kw <;> by_cases hb : b ∈ kw
  · have hab : b ≠ a ++ "_" := fun h => hkw a ha (h ▸ hb)
    have hba : a ≠ b ++ "_" := fun h => hkw b hb (h ▸ ha)
    simp [ha, hb, hab, hba]
  · have hab : a ≠ b := fun h => hb (h ▸ ha)
    simp [ha, hb, hab, eq_comm]
  · have hab : a ≠ b := fun h => ha (h ▸ hb)
    simp [ha, hb, hab]
  · simp [ha, hb]

theorem suffixKeyword_eq_iff_of_getLast? {kw : List String} {a b : String}
    (ha : a.toList.getLast? ≠ some '_') (hb : b.toList.getLast? ≠ some '_') :
    suffixKeyword kw a = suffixKeyword kw b ↔ a = b := by
  unfold suffixKeyword
  constructor
  · intro h
    split at h <;> split at h
    · exact (String.append_left_inj "_").1 h
    · exact absurd (h ▸ getLast?_append_underscore a) hb
    · exact absurd (h ▸ getLast?_append_underscore b) ha
    · exact h
  · rintro rfl
    rfl

theorem verbatimName_eq_iff {a b : String} (ha : isIdentifier a = true)
    (hb : isIdentifier b = true) : verbatimName a = verbatimName b ↔ a = b := by
  have hat : ∀ {x y : String}, isIdentifier y = true → "@" ++ x ≠ y := by
    intro x y hy hxy
    have hpart : isIdentPart '@' = true :=
      isIdentPart_of_mem hy (by rw [← hxy, String.toList_append]; simp)
    exact absurd hpart (by decide)
  unfold verbatimName
  constructor
  · intro h
    split at h <;> split at h
    · exact (String.append_right_inj "@").1 h
    · exact absurd h (hat hb)
    · exact absurd h.symm (hat ha)
    · exact h
  · rintro rfl
    rfl

theorem getLast?_pascalCase_ne {a : String} (ha : isIdentifier a = true) :
    (Text.pascalCase a).toList.getLast? ≠ some '_' := fun hlast =>
  Text.underscore_not_mem_pascalCase (fun _ hc => isIdentPart_of_mem ha hc)
    (List.mem_of_getLast? hlast)

section Identifiers

variable {a b : String} (ha : isIdentifier a = true) (hb : isIdentifier b = true) (hne : a ≠ b)

include ha hb hne

/-- Two distinct identifiers get one member name exactly when they meet in the language. -/
theorem memberName_eq_iff (l : Language) :
    l.memberName a = l.memberName b ↔ MemberNamesMeet l a b := by
  cases l with
  | cpp =>
    simp only [Language.memberName, MemberNamesMeet, iff_false]
    exact fun h => hne ((String.append_right_inj "m_").1 h)
  | csharp =>
    simp only [Language.memberName, MemberNamesMeet, iff_false]
    exact fun h => hne ((verbatimName_eq_iff ha hb).1 h)
  | java =>
    rw [Language.memberName, Language.memberName, MemberNamesMeet,
      suffixKeyword_eq_iff (append_underscore_not_mem keywords_getLast?.2.1)]
    simp [hne]
  | rust =>
    rw [Language.memberName, Language.memberName, MemberNamesMeet, rustFieldName, rustFieldName,
      suffixKeyword_eq_iff_of_getLast?
        (Text.getLast?_snakeCase_ne fun _ hc => isIdentPart_of_mem ha hc)
        (Text.getLast?_snakeCase_ne fun _ hc => isIdentPart_of_mem hb hc)]

/-- Two distinct identifiers get one enumerator name exactly when they meet in the language. -/
theorem enumeratorName_eq_iff (l : Language) :
    l.enumeratorName a = l.enumeratorName b ↔ EnumeratorNamesMeet l a b := by
  cases l with
  | cpp =>
    rw [Language.enumeratorName, Language.enumeratorName, EnumeratorNamesMeet,
      suffixKeyword_eq_iff (append_underscore_not_mem keywords_getLast?.1)]
    simp [hne]
  | csharp =>
    simp only [Language.enumeratorName, EnumeratorNamesMeet, iff_false]
    exact fun h => hne ((verbatimName_eq_iff ha hb).1 h)
  | java =>
    rw [Language.enumeratorName, Language.enumeratorName, EnumeratorNamesMeet,
      suffixKeyword_eq_iff (append_underscore_not_mem keywords_getLast?.2.1)]
    simp [hne]
  | rust =>
    rw [Language.enumeratorName, Language.enumeratorName, EnumeratorNamesMeet,
      suffixKeyword_eq_iff_of_getLast? (getLast?_pascalCase_ne ha) (getLast?_pascalCase_ne hb)]

end Identifiers

/-- The fields a generated type declares members for: its own fields in C++, C# and Java, whose
classes inherit the rest from their base, and the whole flattened list in Rust. -/
def Language.memberFields : Language → ResolvedEntity → List ResolvedField
  | .rust, e => e.fields
  | .cpp, e => e.ownFields
  | .csharp, e => e.ownFields
  | .java, e => e.ownFields

theorem Language.memberFields_sublist (l : Language) (e : ResolvedEntity) :
    (l.memberFields e).Sublist e.fields := by
  cases l with
  | rust => exact List.Sublist.refl _
  | cpp | csharp | java => exact List.filter_sublist

end Target

/-- Renaming a list of distinct names keeps them distinct exactly when no two of them meet, given
when two distinct names are renamed alike. -/
theorem nodup_map_iff_of_eq_iff {xs : List String} (hxs : xs.Nodup) {g : String → String}
    {meet : String → String → Prop} (h : ∀ a ∈ xs, ∀ b ∈ xs, a ≠ b → (g a = g b ↔ meet a b)) :
    (xs.map g).Nodup ↔ ∀ a ∈ xs, ∀ b ∈ xs, a ≠ b → ¬ meet a b := by
  rw [List.nodup_map_iff_inj_on hxs]
  constructor
  · intro hinj a ha b hb hne hmeet
    exact hne (hinj a ha b hb ((h a ha b hb hne).2 hmeet))
  · intro hapart a ha b hb hg
    by_contra hne
    exact hapart a ha b hb hne ((h a ha b hb hne).1 hg)

/-! ### Names the document reader accepts -/

/-- The names the document reader requires of a declaration: its fields are named by
identifiers, and an enumeration's values are distinct identifiers. -/
structure EntityDecl.NamedByIdentifiers (d : EntityDecl) : Prop where
  fields : ∀ f ∈ d.fields, isIdentifier f.name = true
  values : ∀ v ∈ d.enumValues, isIdentifier v = true
  distinct : d.enumValues.Nodup

instance (d : EntityDecl) : Decidable d.NamedByIdentifiers :=
  decidable_of_iff ((∀ f ∈ d.fields, isIdentifier f.name = true) ∧
      (∀ v ∈ d.enumValues, isIdentifier v = true) ∧ d.enumValues.Nodup)
    ⟨fun ⟨hf, hv, hd⟩ => ⟨hf, hv, hd⟩, fun ⟨hf, hv, hd⟩ => ⟨hf, hv, hd⟩⟩

section Documents

variable {s : Spellings} {document : String}

theorem Layout.namedByIdentifiers_of_toDecl {raw : Layout} {d : EntityDecl}
    (h : raw.toDecl s document = .ok d) : d.NamedByIdentifiers := by
  unfold Layout.toDecl at h
  cases hn : (raw.name <|> Path.fileStem? document) with
  | none => simp [hn] at h
  | some name =>
    simp only [hn] at h
    obtain ⟨_, -, h⟩ := Except.bind_eq_ok.1 h
    obtain ⟨k, hk, h⟩ := Except.bind_eq_ok.1 h
    obtain ⟨_, -, h⟩ := Except.bind_eq_ok.1 h
    obtain ⟨fields, -, h⟩ := Except.bind_eq_ok.1 h
    obtain ⟨_, -, h⟩ := Except.bind_eq_ok.1 h
    obtain ⟨_, -, h⟩ := Except.bind_eq_ok.1 h
    obtain ⟨_, -, h⟩ := Except.bind_eq_ok.1 h
    obtain ⟨_, -, h⟩ := Except.bind_eq_ok.1 h
    obtain ⟨ds, hds, h⟩ := Except.bind_eq_ok.1 h
    obtain ⟨_, hkind, h⟩ := Except.bind_eq_ok.1 h
    cases h
    obtain ⟨hall, -, -, hnames⟩ := fieldsToDecls_sound hds
    obtain ⟨henum, -⟩ := (checkKind_eq_ok_iff hk).1 hkind
    have hfields : ∀ f ∈ ds, isIdentifier f.name = true := by
      intro f hf
      have hmem : some f.name ∈ (fields.getD []).map (·.name) := by
        rw [← hnames]
        exact List.mem_map_of_mem hf
      obtain ⟨entry, hentry, hname⟩ := List.mem_map.1 hmem
      obtain ⟨n, hn, hid⟩ := (hall entry hentry).name
      rw [hname] at hn
      exact Option.some.inj hn ▸ hid
    rcases declKind_eq_ok_iff.1 hk with ⟨-, rfl⟩ | ⟨-, rfl⟩ | ⟨hkind', rfl⟩
    · exact ⟨hfields, fun v hv => by simp [EntityDecl.enumValues] at hv, List.nodup_nil⟩
    · exact ⟨hfields, fun v hv => by simp [EntityDecl.enumValues] at hv, List.nodup_nil⟩
    · obtain ⟨-, -, -, -, hids, hnodup⟩ := henum hkind'
      exact ⟨hfields, hids, hnodup⟩

theorem readDocument_namedByIdentifiers {content : String} {d : EntityDecl}
    (h : s.readDocument document content = .ok d) : d.NamedByIdentifiers := by
  unfold Spellings.readDocument at h
  split at h
  · exact Layout.namedByIdentifiers_of_toDecl h
  · cases h

/-- Every declaration of a registry loaded from documents has the names the reader requires. -/
theorem Registry.load_namedByIdentifiers {docs : List (String × String)} {r : Registry}
    (h : Registry.load s docs = .ok r) : ∀ d ∈ r.decls, d.NamedByIdentifiers := by
  intro d hd
  obtain ⟨doc, -, hread⟩ := Registry.exists_read_of_mem_load h hd
  exact readDocument_namedByIdentifiers hread

end Documents

/-! ### Entities of a resolved model -/

namespace Registry

variable {o : ResolveOptions} {r : Registry} {m : Model} {e : ResolvedEntity}

/-- Every field of an entity of a resolved model is declared by a registered declaration, so it
has the names the reader requires. -/
theorem isIdentifier_of_mem_fields (hr : r.Frozen)
    (hnamed : ∀ d ∈ r.decls, d.NamedByIdentifiers) (h : r.resolve o = .ok m)
    (he : e ∈ m.entities) {f : ResolvedField} (hf : f ∈ e.fields) : isIdentifier f.name = true := by
  obtain ⟨p, hp, g, hg, rfl⟩ := exists_declared_of_mem_fields hr h he hf
  exact (hnamed p hp).fields g hg

theorem enumValues_of_mem_entities (hr : r.Frozen)
    (hnamed : ∀ d ∈ r.decls, d.NamedByIdentifiers) (h : r.resolve o = .ok m)
    (he : e ∈ m.entities) : (∀ v ∈ e.enumValues, isIdentifier v = true) ∧ e.enumValues.Nodup := by
  obtain ⟨d, hd, anc, k, -, rfl⟩ := exists_materialize hr h he
  exact ⟨(hnamed d hd).values, (hnamed d hd).distinct⟩

/-- The fields of a generated type have distinct names, whatever the declarations: flattening
keeps one field of each name. -/
theorem nodup_names_memberFields (hr : r.Frozen) (h : r.resolve o = .ok m) (he : e ∈ m.entities)
    (l : Language) : ((l.memberFields e).map (·.name)).Nodup := by
  obtain ⟨d, hd, anc, k, -, rfl⟩ := exists_materialize hr h he
  exact ((l.memberFields_sublist _).map _).nodup (nodup_names_flattenFields _)

/-- The member and enumerator names of a generated type. Its fields, and its values, have
distinct names; two of them get one name in a language exactly when they meet there, so the
names the language writes are distinct exactly when no two fields, or no two values, meet. -/
theorem resolve_memberNames (hr : r.Frozen) (hnamed : ∀ d ∈ r.decls, d.NamedByIdentifiers)
    (h : r.resolve o = .ok m) (l : Language) (he : e ∈ m.entities) :
    ((l.memberFields e).map (·.name)).Nodup ∧ e.enumValues.Nodup ∧
      (∀ a ∈ (l.memberFields e).map (·.name), ∀ b ∈ (l.memberFields e).map (·.name), a ≠ b →
        (l.memberName a = l.memberName b ↔ MemberNamesMeet l a b)) ∧
      (∀ a ∈ e.enumValues, ∀ b ∈ e.enumValues, a ≠ b →
        (l.enumeratorName a = l.enumeratorName b ↔ EnumeratorNamesMeet l a b)) ∧
      (((l.memberFields e).map fun f => l.memberName f.name).Nodup ↔
        ∀ a ∈ (l.memberFields e).map (·.name), ∀ b ∈ (l.memberFields e).map (·.name), a ≠ b →
          ¬ MemberNamesMeet l a b) ∧
      ((e.enumValues.map l.enumeratorName).Nodup ↔
        ∀ a ∈ e.enumValues, ∀ b ∈ e.enumValues, a ≠ b → ¬ EnumeratorNamesMeet l a b) := by
  have hnames := nodup_names_memberFields hr h he l
  have hids : ∀ a ∈ (l.memberFields e).map (·.name), isIdentifier a = true := by
    intro a ha
    obtain ⟨f, hf, rfl⟩ := List.mem_map.1 ha
    exact isIdentifier_of_mem_fields hr hnamed h he ((l.memberFields_sublist e).subset hf)
  obtain ⟨hvids, hvalues⟩ := enumValues_of_mem_entities hr hnamed h he
  have hmembers : ∀ a ∈ (l.memberFields e).map (·.name), ∀ b ∈ (l.memberFields e).map (·.name),
      a ≠ b → (l.memberName a = l.memberName b ↔ MemberNamesMeet l a b) :=
    fun a ha b hb hne => memberName_eq_iff (hids a ha) (hids b hb) hne l
  have henums : ∀ a ∈ e.enumValues, ∀ b ∈ e.enumValues, a ≠ b →
      (l.enumeratorName a = l.enumeratorName b ↔ EnumeratorNamesMeet l a b) :=
    fun a ha b hb hne => enumeratorName_eq_iff (hvids a ha) (hvids b hb) hne l
  have hwritten : ((l.memberFields e).map fun f => l.memberName f.name) =
      ((l.memberFields e).map (·.name)).map l.memberName := by
    rw [List.map_map]
    rfl
  rw [hwritten]
  exact ⟨hnames, hvalues, hmembers, henums, nodup_map_iff_of_eq_iff hnames hmembers,
    nodup_map_iff_of_eq_iff hvalues henums⟩

/-- A class with the fields `new` and `new_`, and an enumeration with the values `darkBlue` and
`dark_blue`. -/
def collidingNames : Registry :=
  ⟨[{ name := "Thing",
      fields := [⟨"new", .primitive .boolean, none⟩, ⟨"new_", .primitive .boolean, none⟩] },
    { name := "Shade", kind := .enumeration ["darkBlue", "dark_blue"] }]⟩

theorem collidingNames_memberNames : collidingNames.Frozen ∧
    (∀ d ∈ collidingNames.decls, d.NamedByIdentifiers) ∧
    ∃ m, collidingNames.resolve {} = .ok m ∧ ∀ (l : Language), ∀ e ∈ m.entities,
      ((l.memberFields e).map (·.name)).Nodup ∧ e.enumValues.Nodup ∧
        (∀ a ∈ (l.memberFields e).map (·.name), ∀ b ∈ (l.memberFields e).map (·.name), a ≠ b →
          (l.memberName a = l.memberName b ↔ MemberNamesMeet l a b)) ∧
        (∀ a ∈ e.enumValues, ∀ b ∈ e.enumValues, a ≠ b →
          (l.enumeratorName a = l.enumeratorName b ↔ EnumeratorNamesMeet l a b)) ∧
        (((l.memberFields e).map fun f => l.memberName f.name).Nodup ↔
          ∀ a ∈ (l.memberFields e).map (·.name), ∀ b ∈ (l.memberFields e).map (·.name), a ≠ b →
            ¬ MemberNamesMeet l a b) ∧
        ((e.enumValues.map l.enumeratorName).Nodup ↔
          ∀ a ∈ e.enumValues, ∀ b ∈ e.enumValues, a ≠ b → ¬ EnumeratorNamesMeet l a b) := by
  obtain ⟨m, hm⟩ : ∃ m, collidingNames.resolve {} = .ok m := ⟨_, rfl⟩
  have hr : collidingNames.Frozen := by decide
  have hnamed : ∀ d ∈ collidingNames.decls, d.NamedByIdentifiers := by decide
  exact ⟨hr, hnamed, m, hm, fun l e he => resolve_memberNames hr hnamed hm l he⟩

/-- `new` and `new_` are distinct fields of `Thing` that Java writes as one member `new_`, and
`darkBlue` and `dark_blue` are distinct values of `Shade` that Rust writes as one variant
`DarkBlue`. -/
theorem collidingNames_share_identifiers : ∃ m, collidingNames.resolve {} = .ok m ∧
    (∃ e ∈ m.entities, ∃ f₁ ∈ e.ownFields, ∃ f₂ ∈ e.ownFields, f₁.name ≠ f₂.name ∧
      Language.java.memberName f₁.name = "new_" ∧ Language.java.memberName f₂.name = "new_") ∧
    (∃ e ∈ m.entities, ∃ v₁ ∈ e.enumValues, ∃ v₂ ∈ e.enumValues, v₁ ≠ v₂ ∧
      Language.rust.enumeratorName v₁ = "DarkBlue" ∧
      Language.rust.enumeratorName v₂ = "DarkBlue") := by
  refine ⟨_, rfl, ?_⟩
  decide +kernel

end Registry

end EntitySchema
