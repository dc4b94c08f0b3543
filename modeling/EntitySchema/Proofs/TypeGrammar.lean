import EntitySchema.Proofs.CrossReferences

/-! # The grammar of type expressions

Once its blanks are dropped, a type expression is read by the grammar

    T ::= collection<T> | list<T> | a | x

where `a` is a spelling of the table that is not empty and starts with neither opener (one that
starts with an opener is read as a collection), and `x` is an identifier that is no spelling.
`Spellings.Derives` states the grammar together with the type each derivation builds: a
collection per opener, the kind a spelling stands for, an entity reference.

The reader accepts exactly what the grammar derives, with the type of the derivation, and a field
type is read back from its text when each canonical schema name stands for its own kind and its
entity names are identifiers that are no spellings (`readType_grammar`). An empty spelling is
never read: an empty expression is refused as a missing type before the table is consulted
(`emptySpelling_missing`).
-/

namespace EntitySchema

namespace Spellings

variable {s : Spellings}

/-- A compact type expression and the type it derives by the grammar of type expressions. -/
inductive Derives (s : Spellings) : String → FieldType → Prop
  | collection {e : String} {t : FieldType} :
      s.Derives e t → s.Derives ("collection<" ++ e ++ ">") (.collection t)
  | list {e : String} {t : FieldType} :
      s.Derives e t → s.Derives ("list<" ++ e ++ ">") (.collection t)
  | primitive {a : String} {k : PrimitiveKind} : s.lookup? a = some k → a ≠ "" →
      (∀ o ∈ collectionOpeners, a.startsWith o = false) → s.Derives a (.primitive k)
  | reference {x : String} : isIdentifier x = true → s.lookup? x = none →
      s.Derives x (.reference x)

/-! ## Openers -/

theorem mem_collectionOpeners {o : String} :
    o ∈ collectionOpeners ↔ o = "collection<" ∨ o = "list<" := by
  simp [collectionOpeners]

theorem startsWith_opener_append (o inner : String) : (o ++ inner ++ ">").startsWith o = true := by
  rw [String.startsWith_string_iff, String.toList_append, String.toList_append, List.append_assoc]
  exact List.prefix_append _ _

theorem opener_unique {o o' e : String} (ho : o ∈ collectionOpeners)
    (ho' : o' ∈ collectionOpeners) (h : e.startsWith o = true) (h' : e.startsWith o' = true) :
    o = o' := by
  have hpre := List.prefix_or_prefix_of_prefix (String.startsWith_string_iff.1 h)
    (String.startsWith_string_iff.1 h')
  rcases mem_collectionOpeners.1 ho with rfl | rfl <;>
    rcases mem_collectionOpeners.1 ho' with rfl | rfl
  · rfl
  · exact absurd hpre (by decide)
  · exact absurd hpre (by decide)
  · rfl

theorem isIdentifier_eq_false_of_startsWith {o e : String} (ho : o ∈ collectionOpeners)
    (he : e.startsWith o = true) : isIdentifier e = false := by
  have hlt : '<' ∈ e.toList := by
    refine (String.startsWith_string_iff.1 he).subset ?_
    rcases mem_collectionOpeners.1 ho with rfl | rfl <;> decide
  cases hid : isIdentifier e
  · rfl
  · exact absurd (isIdentPart_of_mem hid hlt) (by decide)

/-! ## What follows an opener -/

theorem copy_drop_opener (o inner : String) :
    ((o ++ inner ++ ">").drop o.length).copy = inner ++ ">" := by
  rw [← String.toList_inj, String.toList_copy_drop, String.toList_append, String.toList_append,
    String.toList_append, List.append_assoc, ← String.length_toList, List.drop_left]

theorem endsWith_drop_opener (o inner : String) :
    ((o ++ inner ++ ">").drop o.length).endsWith ">" = true := by
  rw [String.Slice.endsWith_string_iff, copy_drop_opener, String.toList_append]
  exact List.suffix_append _ _

theorem dropEnd_drop_opener (o inner : String) :
    (((o ++ inner ++ ">").drop o.length).dropEnd 1).toString = inner := by
  rw [String.Slice.toString_eq, ← String.toList_inj, String.Slice.toList_copy_dropEnd,
    copy_drop_opener, String.toList_append]
  have hclose : (">" : String).toList = ['>'] := by decide
  rw [hclose, List.length_append, List.length_singleton, Nat.add_sub_cancel,
    List.take_left' rfl]

/-- After an opener an expression starts with, a closing `>` is there exactly when the
expression is the opener, something, and `>`. -/
theorem endsWith_drop_iff {o e : String} (he : e.startsWith o = true) :
    (e.drop o.length).endsWith ">" = true ↔ ∃ inner, e = o ++ inner ++ ">" := by
  constructor
  · intro hend
    obtain ⟨rest, hrest⟩ := String.startsWith_string_iff.1 he
    obtain ⟨inner, hinner⟩ := String.Slice.endsWith_string_iff.1 hend
    refine ⟨String.ofList inner, ?_⟩
    rw [← String.toList_inj, String.toList_append, String.toList_append, String.toList_ofList]
    rw [String.toList_copy_drop, ← hrest, ← String.length_toList, List.drop_left] at hinner
    rw [← hrest, ← hinner, List.append_assoc]
  · rintro ⟨inner, rfl⟩
    exact endsWith_drop_opener o inner

theorem append_opener_inj {o inner inner' : String} (h : o ++ inner ++ ">" = o ++ inner' ++ ">") :
    inner = inner' := by
  have hl := congrArg String.toList h
  simp only [String.toList_append, List.append_cancel_left_eq, List.append_cancel_right_eq] at hl
  exact String.toList_inj.1 hl

/-! ## Inverting the grammar -/

theorem ne_empty_of_derives {e : String} {t : FieldType} (h : s.Derives e t) : e ≠ "" := by
  cases h with
  | collection => simp [← String.toList_inj]
  | list => simp [← String.toList_inj]
  | primitive _ hne _ => exact hne
  | reference hid _ =>
    rintro rfl
    cases hid

/-- An expression that starts with an opener derives only a collection of what stands between
the opener and a closing `>`. -/
theorem derives_iff_of_startsWith {o e : String} {t : FieldType} (ho : o ∈ collectionOpeners)
    (he : e.startsWith o = true) :
    s.Derives e t ↔ ∃ inner u, e = o ++ inner ++ ">" ∧ t = .collection u ∧ s.Derives inner u := by
  constructor
  · intro h
    cases h with
    | @collection inner u h =>
      have hco := opener_unique ho (mem_collectionOpeners.2 (.inl rfl)) he
        (startsWith_opener_append _ inner)
      exact ⟨inner, u, by rw [hco], rfl, h⟩
    | @list inner u h =>
      have hlo := opener_unique ho (mem_collectionOpeners.2 (.inr rfl)) he
        (startsWith_opener_append _ inner)
      exact ⟨inner, u, by rw [hlo], rfl, h⟩
    | primitive _ _ hopen =>
      rw [hopen o ho] at he
      cases he
    | reference hid _ =>
      rw [isIdentifier_eq_false_of_startsWith ho he] at hid
      cases hid
  · rintro ⟨inner, u, rfl, rfl, h⟩
    rcases mem_collectionOpeners.1 ho with rfl | rfl
    · exact .collection h
    · exact .list h

/-- An expression that starts with no opener derives the kind it spells, or else, if it is an
identifier, a reference to it. -/
theorem derives_iff_of_not_startsWith {e : String} {t : FieldType} (he : e ≠ "")
    (hopen : ∀ o ∈ collectionOpeners, e.startsWith o = false) :
    s.Derives e t ↔ (∃ k, s.lookup? e = some k ∧ t = .primitive k) ∨
      (s.lookup? e = none ∧ isIdentifier e = true ∧ t = .reference e) := by
  constructor
  · intro h
    cases h with
    | @collection inner u _ =>
      have := hopen _ (mem_collectionOpeners.2 (.inl rfl))
      rw [startsWith_opener_append] at this
      cases this
    | @list inner u _ =>
      have := hopen _ (mem_collectionOpeners.2 (.inr rfl))
      rw [startsWith_opener_append] at this
      cases this
    | primitive hk _ _ => exact .inl ⟨_, hk, rfl⟩
    | reference hid hnone => exact .inr ⟨hnone, hid, rfl⟩
  · rintro (⟨k, hk, rfl⟩ | ⟨hnone, hid, rfl⟩)
    · exact .primitive hk he hopen
    · exact .reference hid hnone

/-! ## The reader follows the grammar -/

theorem map_collection_eq_ok {x : Except String FieldType} {t : FieldType} :
    FieldType.collection <$> x = .ok t ↔ ∃ u, x = .ok u ∧ t = .collection u := by
  cases x with
  | error m => exact ⟨(fun h => nomatch h), (fun ⟨_, h, _⟩ => nomatch h)⟩
  | ok u =>
    constructor
    · intro h
      exact ⟨u, rfl, (Except.ok.inj h).symm⟩
    · rintro ⟨u', hu, rfl⟩
      cases hu
      rfl

/-- With more fuel than the expression has characters, the compact reader accepts exactly what
the grammar derives. Each opener read shortens the expression, which carries the induction. -/
theorem readCompactType_eq_ok_iff :
    ∀ (fuel : Nat) (e : String) (t : FieldType), e.length < fuel →
      (readCompactType s e fuel = .ok t ↔ s.Derives e t)
  | 0, _, _, hlen => absurd hlen (Nat.not_lt_zero _)
  | fuel + 1, e, t, hlen => by
    by_cases hempty : e = ""
    · subst hempty
      exact ⟨(fun h => nomatch h), fun h => absurd rfl (ne_empty_of_derives h)⟩
    rw [readCompactType, if_neg (by simpa using hempty)]
    cases hfind : collectionOpeners.find? (e.startsWith ·) with
    | some o =>
      have ho : o ∈ collectionOpeners := List.mem_of_find?_eq_some hfind
      have he : e.startsWith o = true := by
        have hsome := List.find?_some hfind
        exact hsome
      simp only
      rw [derives_iff_of_startsWith ho he]
      by_cases hclose : ∃ inner, e = o ++ inner ++ ">"
      · obtain ⟨inner, rfl⟩ := hclose
        rw [if_pos (endsWith_drop_opener o inner), dropEnd_drop_opener, map_collection_eq_ok]
        have hinner : inner.length < fuel := by
          have hclose : (">" : String).length = 1 := by decide
          simp only [String.length_append, hclose] at hlen
          omega
        constructor
        · rintro ⟨u, hu, rfl⟩
          exact ⟨inner, u, rfl, rfl, (readCompactType_eq_ok_iff fuel inner u hinner).1 hu⟩
        · rintro ⟨inner', u, heq, rfl, hu⟩
          rw [← append_opener_inj heq] at hu
          exact ⟨u, (readCompactType_eq_ok_iff fuel inner u hinner).2 hu, rfl⟩
      · have hopen : (e.drop o.length).endsWith ">" = false := by
          cases hend : (e.drop o.length).endsWith ">"
          · rfl
          · exact absurd ((endsWith_drop_iff he).1 hend) hclose
        rw [if_neg (by simp [hopen])]
        exact ⟨(fun h => nomatch h), fun ⟨inner, _, heq, _⟩ => (hclose ⟨inner, heq⟩).elim⟩
    | none =>
      have hopen : ∀ o ∈ collectionOpeners, e.startsWith o = false := by
        simpa using List.find?_eq_none.1 hfind
      simp only
      rw [derives_iff_of_not_startsWith hempty hopen]
      cases hk : s.lookup? e with
      | some k =>
        constructor
        · intro h
          cases h
          exact .inl ⟨k, rfl, rfl⟩
        · rintro (⟨k', hk', rfl⟩ | ⟨hnone, -⟩)
          · cases hk'
            rfl
          · cases hnone
      | none =>
        cases hid : isIdentifier e
        · refine ⟨(fun h => nomatch h), ?_⟩
          rintro (⟨_, hk', -⟩ | ⟨-, hid', -⟩)
          · cases hk'
          · cases hid'
        · constructor
          · intro h
            cases h
            exact .inr ⟨rfl, rfl, rfl⟩
          · rintro (⟨_, hk', -⟩ | ⟨-, -, rfl⟩)
            · cases hk'
            · rfl

/-- A type expression is read exactly when, without its blanks, the grammar derives it, and
then as the type of the derivation. -/
theorem readType_eq_ok_iff (s : Spellings) (expr : String) (t : FieldType) :
    s.readType expr = .ok t ↔ s.Derives (Text.dropBlanks expr) t := by
  rw [← readCompactType_eq_ok_iff (Text.dropBlanks expr).length.succ _ t (Nat.lt_succ_self _)]
  unfold readType
  simp only
  split
  · next u hu => rw [hu]
  · next m hm =>
    rw [hm]
    exact ⟨(fun h => nomatch h), (fun h => nomatch h)⟩

/-! ## Reading a type back from its text -/

theorem isBlank_eq_false_of_isIdentPart {c : Char} (hc : isIdentPart c = true) :
    Text.isBlank c = false := by
  delta isIdentPart Char.isAlphanum Char.isAlpha Char.isUpper Char.isLower Char.isDigit at hc
  simp only [Bool.or_eq_true, Bool.and_eq_true, decide_eq_true_eq, beq_iff_eq,
    UInt32.le_iff_toNat_le, ge_iff_le] at hc
  have hA : 'A'.val.toNat = 65 := rfl
  have hZ : 'Z'.val.toNat = 90 := rfl
  have ha : 'a'.val.toNat = 97 := rfl
  have hz : 'z'.val.toNat = 122 := rfl
  have h0 : '0'.val.toNat = 48 := rfl
  have h9 : '9'.val.toNat = 57 := rfl
  have hval : c.toNat = c.val.toNat := rfl
  rcases hc with h | rfl
  · simp only [Text.isBlank, decide_eq_false_iff_not]
    omega
  · decide

theorem dropBlanks_of_forall {x : String} (h : ∀ c ∈ x.toList, Text.isBlank c = false) :
    Text.dropBlanks x = x := by
  rw [Text.dropBlanks, List.filter_eq_self.2 (by simpa using h), String.ofList_toList]

theorem forall_not_isBlank_of_all {l : List Char} (h : l.all (fun c => !Text.isBlank c) = true) :
    ∀ c ∈ l, Text.isBlank c = false := by
  intro c hc
  simpa using List.all_eq_true.1 h c hc

theorem isBlank_of_mem_display {t : FieldType}
    (hnames : ∀ n, t.referencedName? = some n → isIdentifier n = true) :
    ∀ c ∈ t.display.toList, Text.isBlank c = false := by
  induction t with
  | primitive k => cases k <;> exact forall_not_isBlank_of_all (by decide)
  | reference n =>
    intro c hc
    exact isBlank_eq_false_of_isIdentPart (isIdentPart_of_mem (hnames n rfl) hc)
  | collection inner ih =>
    intro c hc
    simp only [FieldType.display, String.toList_append, List.mem_append] at hc
    rcases hc with (hc | hc) | hc
    · exact forall_not_isBlank_of_all (by decide) c hc
    · exact ih hnames c hc
    · exact forall_not_isBlank_of_all (by decide) c hc

theorem schemaName_readable (k : PrimitiveKind) :
    k.schemaName ≠ "" ∧ ∀ o ∈ collectionOpeners, k.schemaName.startsWith o = false := by
  refine ⟨by cases k <;> decide, fun o ho => ?_⟩
  rw [String.startsWith_string_eq_false_iff]
  rcases mem_collectionOpeners.1 ho with rfl | rfl <;> cases k <;> decide

/-- The text of a type derives that type, when each canonical schema name stands for its own
kind and the entity names are identifiers that are no spellings. -/
theorem derives_display (hkinds : ∀ k, s.lookup? k.schemaName = some k) {t : FieldType}
    (hnames : ∀ n, t.referencedName? = some n → isIdentifier n = true ∧ s.lookup? n = none) :
    s.Derives t.display t := by
  induction t with
  | primitive k =>
    obtain ⟨hne, hopen⟩ := schemaName_readable k
    exact .primitive (hkinds k) hne hopen
  | reference n =>
    obtain ⟨hid, hnone⟩ := hnames n rfl
    exact .reference hid hnone
  | collection inner ih => exact .collection (ih hnames)

/-- A field type is read back from its text, when each canonical schema name stands for its own
kind and its entity names are identifiers that are no spellings. -/
theorem readType_display (s : Spellings) (hkinds : ∀ k, s.lookup? k.schemaName = some k)
    (t : FieldType)
    (hnames : ∀ n, t.referencedName? = some n → isIdentifier n = true ∧ s.lookup? n = none) :
    s.readType t.display = .ok t := by
  rw [readType_eq_ok_iff, dropBlanks_of_forall (isBlank_of_mem_display fun n hn => (hnames n hn).1)]
  exact derives_display hkinds hnames

/-- The reader and the grammar of type expressions: an expression is read exactly when, without
its blanks, the grammar derives it, and as the derivation's type; and when each canonical schema
name stands for its own kind, every field type whose entity names are identifiers that are no
spellings is read back from its text. -/
theorem readType_grammar (s : Spellings) :
    (∀ expr t, s.readType expr = .ok t ↔ s.Derives (Text.dropBlanks expr) t) ∧
      ((∀ k, s.lookup? k.schemaName = some k) → ∀ t : FieldType,
        (∀ n, t.referencedName? = some n → isIdentifier n = true ∧ s.lookup? n = none) →
        s.readType t.display = .ok t) :=
  ⟨readType_eq_ok_iff s, fun hkinds t hnames => readType_display s hkinds t hnames⟩

/-- The built-in spellings give each canonical name its own kind, so the text of a collection of
collections of `Hat` reads back. -/
theorem standard_nestedHat_readsBack :
    (∀ k, standard.lookup? k.schemaName = some k) ∧
      standard.readType (FieldType.collection (.collection (.reference "Hat"))).display =
        .ok (.collection (.collection (.reference "Hat"))) := by
  have hkinds : ∀ k, standard.lookup? k.schemaName = some k := by
    intro k
    cases k <;> rfl
  refine ⟨hkinds, (readType_grammar standard).2 hkinds _ fun n hn => ?_⟩
  obtain rfl : "Hat" = n := Option.some.inj hn
  exact ⟨by decide, rfl⟩

/-- The empty spelling stands for a kind, and no expression is read as it: an empty expression
is a missing type. -/
theorem emptySpelling_missing :
    (Spellings.standard.register "" .u32).lookup? "" = some .u32 ∧
      (∀ o ∈ collectionOpeners, "".startsWith o = false) ∧
      (Spellings.standard.register "" .u32).readType "" =
        .error "missing type in type expression ''" :=
  ⟨rfl, fun o ho => by
    rw [String.startsWith_string_eq_false_iff]
    rcases mem_collectionOpeners.1 ho with rfl | rfl <;> decide, rfl⟩

end Spellings

end EntitySchema
