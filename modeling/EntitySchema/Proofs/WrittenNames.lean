import EntitySchema.Proofs.MemberNames

/-!
# Names the generated code declares

Each target language escapes the member and enumerator names it writes: C++ puts `m_` in front of
a member, C# puts `@` in front of a reserved word, and C++, Java and Rust append an underscore to
one. None of the escaped names is in the language's keyword table, whatever the schema name
(`memberName_not_mem_keywords`, `enumeratorName_not_mem_keywords`), and from an identifier they
make an identifier of the language (`WellSpelled`). Rust first turns a name to snake or Pascal
case, which keeps only its letters, digits and inner underscores: the names `_` and `_1` come out
as the empty name and `1`.

Nothing of the kind happens to the name of an entity, which is written as declared wherever its
type is spelled, nor to the segments of a namespace or package: a schema may name an entity
`class` (`classEntity_declared_raw`).
-/

namespace EntitySchema

open Target

namespace Target

/-! ### Keyword tables -/

theorem keywords_marks :
    cppKeywords.all (fun k => k.toList.take 2 != ['m', '_']) = true ∧
      csharpKeywords.all (fun k => k.toList.head? != some '@') = true := by
  decide

theorem suffixKeyword_not_mem {kw : List String} (hkw : ∀ k ∈ kw, k ++ "_" ∉ kw) (n : String) :
    suffixKeyword kw n ∉ kw := by
  unfold suffixKeyword
  split
  · exact hkw n (List.contains_iff_mem.1 ‹_›)
  · exact fun h => ‹¬ _› (List.contains_iff_mem.2 h)

theorem verbatimName_not_mem (n : String) : verbatimName n ∉ csharpKeywords := by
  unfold verbatimName
  split
  · intro h
    have hhead := List.all_eq_true.1 keywords_marks.2 _ h
    simp [String.toList_append] at hhead
  · exact fun h => ‹¬ _› (List.contains_iff_mem.2 h)

theorem memberPrefix_not_mem (n : String) : "m_" ++ n ∉ cppKeywords := by
  intro h
  have htake := List.all_eq_true.1 keywords_marks.1 _ h
  simp [String.toList_append] at htake

/-- A written member name is never a keyword of its language. -/
theorem memberName_not_mem_keywords (l : Language) (n : String) : l.memberName n ∉ l.keywords := by
  cases l with
  | cpp => exact memberPrefix_not_mem n
  | csharp => exact verbatimName_not_mem n
  | java => exact suffixKeyword_not_mem (append_underscore_not_mem keywords_getLast?.2.1) n
  | rust => exact suffixKeyword_not_mem (append_underscore_not_mem keywords_getLast?.2.2) _

theorem enumeratorName_not_mem_keywords (l : Language) (n : String) :
    l.enumeratorName n ∉ l.keywords := by
  cases l with
  | cpp => exact suffixKeyword_not_mem (append_underscore_not_mem keywords_getLast?.1) n
  | csharp => exact verbatimName_not_mem n
  | java => exact suffixKeyword_not_mem (append_underscore_not_mem keywords_getLast?.2.1) n
  | rust => exact suffixKeyword_not_mem (append_underscore_not_mem keywords_getLast?.2.2) _

/-! ### Identifiers -/

/-- What a written member or enumerator name is made of: an identifier in C++ and Java, an
identifier or one behind the verbatim mark `@` in C#, and in Rust letters, digits and
underscores, possibly none or a digit first. -/
def WellSpelled : Language → String → Prop
  | .cpp, s => isIdentifier s = true
  | .csharp, s => isIdentifier s = true ∨ ∃ t, s = "@" ++ t ∧ isIdentifier t = true
  | .java, s => isIdentifier s = true
  | .rust, s => ∀ c ∈ s.toList, isIdentPart c = true

theorem isIdentifier_append_underscore {n : String} (hn : isIdentifier n = true) :
    isIdentifier (n ++ "_") = true := by
  unfold isIdentifier at hn ⊢
  rw [String.toList_append]
  split at hn
  · cases hn
  · rename_i c rest hcons
    rw [hcons]
    simpa [isIdentPart] using hn

theorem isIdentifier_suffixKeyword (kw : List String) {n : String} (hn : isIdentifier n = true) :
    isIdentifier (suffixKeyword kw n) = true := by
  unfold suffixKeyword
  split
  · exact isIdentifier_append_underscore hn
  · exact hn

theorem isIdentifier_memberPrefix {n : String} (hn : isIdentifier n = true) :
    isIdentifier ("m_" ++ n) = true := by
  have hparts : ∀ c ∈ n.toList, isIdentPart c = true := fun _ hc => isIdentPart_of_mem hn hc
  unfold isIdentifier
  rw [String.toList_append]
  simp only [show ("m_" : String).toList = ['m', '_'] from rfl, List.cons_append, List.nil_append]
  simpa [isIdentStart, isIdentPart] using hparts

theorem forall_mem_intercalate {p : Char → Prop} {sep : List Char} (hsep : ∀ c ∈ sep, p c)
    {xs : List (List Char)} (hxs : ∀ x ∈ xs, ∀ c ∈ x, p c) : ∀ c ∈ sep.intercalate xs, p c := by
  intro c hc
  by_contra hp
  exact not_mem_intercalate (fun h => hp (hsep c h)) (fun x hx h => hp (hxs x hx c h)) hc

theorem isIdentPart_of_mem_snakeCase {s : String} (hs : ∀ c ∈ s.toList, isIdentPart c = true) :
    ∀ c ∈ (Text.snakeCase s).toList, isIdentPart c = true := by
  rw [Text.snakeCase, String.toList_intercalate, List.map_map]
  refine forall_mem_intercalate (by simp [isIdentPart]) fun x hx c hc => ?_
  obtain ⟨w, hw, rfl⟩ := List.mem_map.1 hx
  have halnum := Text.isAlphanum_of_mem_toLowercase
    (fun d hd => Text.isAlphanum_of_mem_splitWords hs hw hd) hc
  simp [isIdentPart, halnum]

theorem isIdentPart_of_mem_pascalCase {s : String} (hs : ∀ c ∈ s.toList, isIdentPart c = true) :
    ∀ c ∈ (Text.pascalCase s).toList, isIdentPart c = true := by
  intro c hc
  simp [isIdentPart, Text.isAlphanum_of_mem_pascalCase hs hc]

theorem isIdentPart_of_mem_suffixKeyword (kw : List String) {n : String}
    (hn : ∀ c ∈ n.toList, isIdentPart c = true) :
    ∀ c ∈ (suffixKeyword kw n).toList, isIdentPart c = true := by
  unfold suffixKeyword
  split
  · intro c hc
    rw [String.toList_append, List.mem_append] at hc
    rcases hc with hc | hc
    · exact hn c hc
    · simp at hc
      simp [hc, isIdentPart]
  · exact hn

theorem wellSpelled_verbatimName {n : String} (hn : isIdentifier n = true) :
    WellSpelled .csharp (verbatimName n) := by
  show isIdentifier (verbatimName n) = true ∨ _
  unfold verbatimName
  split
  · exact .inr ⟨n, rfl, hn⟩
  · exact .inl hn

/-- From an identifier every language writes a well-spelled member name. -/
theorem wellSpelled_memberName (l : Language) {n : String} (hn : isIdentifier n = true) :
    WellSpelled l (l.memberName n) := by
  have hparts : ∀ c ∈ n.toList, isIdentPart c = true := fun _ hc => isIdentPart_of_mem hn hc
  cases l with
  | cpp => exact isIdentifier_memberPrefix hn
  | csharp =>
    exact wellSpelled_verbatimName hn
  | java => exact isIdentifier_suffixKeyword _ hn
  | rust => exact isIdentPart_of_mem_suffixKeyword _ (isIdentPart_of_mem_snakeCase hparts)

theorem wellSpelled_enumeratorName (l : Language) {n : String} (hn : isIdentifier n = true) :
    WellSpelled l (l.enumeratorName n) := by
  have hparts : ∀ c ∈ n.toList, isIdentPart c = true := fun _ hc => isIdentPart_of_mem hn hc
  cases l with
  | cpp => exact isIdentifier_suffixKeyword _ hn
  | csharp =>
    exact wellSpelled_verbatimName hn
  | java => exact isIdentifier_suffixKeyword _ hn
  | rust => exact isIdentPart_of_mem_suffixKeyword _ (isIdentPart_of_mem_pascalCase hparts)

/-- A Rust module name is never a Rust keyword, and it is made of identifier characters. -/
theorem rustModuleName_written (n : String) (hn : isIdentifier n = true) :
    rustModuleName n ∉ rustKeywords ∧ WellSpelled .rust (rustModuleName n) :=
  ⟨suffixKeyword_not_mem (append_underscore_not_mem keywords_getLast?.2.2) _,
    isIdentPart_of_mem_suffixKeyword _
      (isIdentPart_of_mem_snakeCase fun _ hc => isIdentPart_of_mem hn hc)⟩

end Target

namespace Emit

theorem renderCpp_declares_struct (e : ResolvedEntity) (m : Model) (o : EmitOptions)
    (date fp : Option String) (he : e.isEnum = false) :
    ("\tstruct " ++ e.name ++ " ").toList <:+: (renderCpp e m o date fp).toList := by
  unfold renderCpp
  simp only [he, Bool.false_eq_true, if_false, String.toList_append]
  iterate 4 apply List.infix_append_of_infix_left
  apply List.infix_append_of_infix_right
  iterate 2 apply List.infix_append_of_infix_left
  apply List.IsPrefix.isInfix
  cases e.parent? <;> simp [String.toList_append]

end Emit

/-! ### Names written for a resolved model -/

namespace Registry

variable {o : ResolveOptions} {r : Registry} {m : Model} {e : ResolvedEntity}

/-- In a model resolved from declarations named by identifiers, every member and enumerator name
a language writes is outside its keyword table and well spelled, the entity name is an
identifier, and its Rust module name is no Rust keyword. The entity name itself is not checked
against any keyword table. -/
theorem resolve_writtenNames (hr : r.Frozen) (hnamed : ∀ d ∈ r.decls, d.NamedByIdentifiers)
    (hnames : ∀ d ∈ r.decls, isIdentifier d.name = true) (h : r.resolve o = .ok m)
    (he : e ∈ m.entities) (l : Language) :
    (∀ f ∈ e.fields, l.memberName f.name ∉ l.keywords ∧ WellSpelled l (l.memberName f.name)) ∧
      (∀ v ∈ e.enumValues, l.enumeratorName v ∉ l.keywords ∧
        WellSpelled l (l.enumeratorName v)) ∧
      isIdentifier e.name = true ∧ rustModuleName e.name ∉ rustKeywords ∧
      WellSpelled .rust (rustModuleName e.name) := by
  have hname : isIdentifier e.name = true := Emit.isIdentifier_of_mem_entities hr hnames h he
  refine ⟨fun f hf => ?_, fun v hv => ?_, hname, rustModuleName_written _ hname⟩
  · exact ⟨memberName_not_mem_keywords l f.name,
      wellSpelled_memberName l (isIdentifier_of_mem_fields hr hnamed h he hf)⟩
  · exact ⟨enumeratorName_not_mem_keywords l v,
      wellSpelled_enumeratorName l ((enumValues_of_mem_entities hr hnamed h he).1 v hv)⟩

/-- Fields named by C++, Java and Rust keywords, and an enumerator `_1` that Rust writes as `1`. -/
def keywordMembers : Registry :=
  ⟨[{ name := "Switch",
      fields := [⟨"class", .primitive .boolean, none⟩, ⟨"type", .primitive .boolean, none⟩] },
    { name := "Mode", kind := .enumeration ["new", "_1"] }]⟩

theorem keywordMembers_written : keywordMembers.Frozen ∧
    (∀ d ∈ keywordMembers.decls, d.NamedByIdentifiers) ∧
    (∀ d ∈ keywordMembers.decls, isIdentifier d.name = true) ∧
    ∃ m, keywordMembers.resolve {} = .ok m ∧ ∀ e ∈ m.entities, ∀ l : Language,
      (∀ f ∈ e.fields, l.memberName f.name ∉ l.keywords ∧ WellSpelled l (l.memberName f.name)) ∧
        (∀ v ∈ e.enumValues, l.enumeratorName v ∉ l.keywords ∧
          WellSpelled l (l.enumeratorName v)) ∧
        isIdentifier e.name = true ∧ rustModuleName e.name ∉ rustKeywords ∧
        WellSpelled .rust (rustModuleName e.name) := by
  obtain ⟨m, hm⟩ : ∃ m, keywordMembers.resolve {} = .ok m := ⟨_, rfl⟩
  have hr : keywordMembers.Frozen := by decide
  have hnamed : ∀ d ∈ keywordMembers.decls, d.NamedByIdentifiers := by decide
  have hnames : ∀ d ∈ keywordMembers.decls, isIdentifier d.name = true := by decide
  exact ⟨hr, hnamed, hnames, m, hm, fun e he l => resolve_writtenNames hr hnamed hnames hm he l⟩

def classEntity : Registry := ⟨[{ name := "class", fields := [⟨"x", .primitive .boolean, none⟩] }]⟩

/-- The entity `class` resolves, and its C++ file declares `struct class`. -/
theorem classEntity_declared_raw : classEntity.Frozen ∧
    (∀ d ∈ classEntity.decls, d.NamedByIdentifiers) ∧
    ∃ m, classEntity.resolve {} = .ok m ∧ ∃ e ∈ m.entities, e.name ∈ Language.cpp.keywords ∧
      ("\tstruct " ++ e.name ++ " ").toList <:+: (Emit.renderCpp e m {} none none).toList := by
  refine ⟨by decide, by decide, _, rfl, ?_⟩
  refine ⟨_, List.mem_cons_self, ?_⟩
  exact ⟨by decide, Emit.renderCpp_declares_struct _ _ _ _ _ rfl⟩

end Registry

end EntitySchema
