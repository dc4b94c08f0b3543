import EntitySchema.Proofs.OutputsBelow
import EntitySchema.Proofs.TypeGrammar

/-! # What a schema document must satisfy

A document's layout is turned into a declaration by a sequence of checks, each of which stops
the document with its own message. Taken together they accept a layout exactly when
`Layout.Accepted` holds of it (`Layout.toDecl_exists_ok_iff`): the entity is named by an
identifier, the declaration type is a class or an enumeration, each pair of alternative keys is
given once at most, the base, package, interface and subdirectory are well formed, the fields
have identifier names, readable types and readable defaults and no name twice, and an
enumeration has no base, no fields, no interface and at least one value, all identifiers and
none twice. A class takes no values. The order of the checks only decides which message a
rejected document gets.
-/

namespace EntitySchema

open Json

/-- A JSON default the reader takes: a string (under `members`, source text that reads as a
literal), a boolean, or a number other than an integer past the signed 64-bit range. -/
def DefaultReadable (sourceText : Bool) : Value → Prop
  | .string text => sourceText = true → ∃ l, decodeSourceLiteral text = .ok l
  | .bool _ => True
  | .number (.natural n) => n < Nat.pow 2 63
  | .number (.negative _) => True
  | .number (.float _) => True
  | .null | .array _ | .object _ => False

/-- A field entry the reader takes: an identifier name, a type expression that reads, and a
readable default if any. -/
structure FieldLayout.Accepted (s : Spellings) (sourceText : Bool) (f : FieldLayout) : Prop where
  name : ∃ n, f.name = some n ∧ isIdentifier n = true
  type : ∃ e t, f.type = some e ∧ s.readType e = .ok t
  default : ∀ v, f.default = some v → DefaultReadable sourceText v

/-- The field entries of a layout, under whichever of `fields` and `members` is given. -/
def Layout.entries (raw : Layout) : List FieldLayout := (raw.fields <|> raw.members).getD []

/-- A layout the reader turns into a declaration. -/
structure Layout.Accepted (s : Spellings) (document : String) (raw : Layout) : Prop where
  name : ∃ n, (raw.name <|> Path.fileStem? document) = some n ∧ isIdentifier n = true
  kind : raw.kind = none ∨ raw.kind = some "class" ∨ raw.kind = some "enum"
  one_base : raw.base = none ∨ raw.parent = none
  one_field_list : raw.fields = none ∨ raw.members = none
  base : ∀ b, (raw.base <|> raw.parent) = some b → isIdentifier b = true
  package : ∀ p, raw.package = some p → ∀ part ∈ p.splitOn ".", isIdentifier part = true
  implements : ∀ i, raw.implements = some i → ∀ part ∈ i.splitOn ".", isIdentifier part = true
  subdir : ∀ sd, raw.subdir = some sd → sd ≠ "" ∧ ∀ c ∈ Path.components sd, c.isNormal = true
  fields : ∀ f ∈ raw.entries, f.Accepted s raw.members.isSome
  distinct : (raw.entries.map (·.name)).Nodup
  enum : raw.kind = some "enum" → (raw.base <|> raw.parent) = none ∧ raw.entries = [] ∧
    raw.implements = none ∧ raw.values.getD [] ≠ [] ∧
    (∀ v ∈ raw.values.getD [], isIdentifier v = true) ∧ (raw.values.getD []).Nodup
  values : raw.kind ≠ some "enum" → raw.values = none

/-! ## The single checks -/

theorem Except.exists_bind_eq_ok {ε α β : Type} {x : Except ε α} {f : α → Except ε β} :
    (∃ b, x >>= f = .ok b) ↔ ∃ a, x = .ok a ∧ ∃ b, f a = .ok b := by
  constructor
  · rintro ⟨b, h⟩
    obtain ⟨a, hx, hf⟩ := Except.bind_eq_ok.1 h
    exact ⟨a, hx, b, hf⟩
  · rintro ⟨a, hx, b, hf⟩
    exact ⟨b, Except.bind_eq_ok.2 ⟨a, hx, hf⟩⟩

theorem require_eq_ok_iff {document message : String} {ok : Bool} {u : Unit} :
    require document ok message = .ok u ↔ ok = true := by
  cases ok
  · exact ⟨(fun h => nomatch h), (fun h => nomatch h)⟩
  · exact ⟨fun _ => rfl, fun _ => rfl⟩

theorem requireIfSome_eq_ok_iff {document : String} {value : Option String} {ok : String → Bool}
    {message : String → String} {u : Unit} :
    requireIfSome document value ok message = .ok u ↔ ∀ v, value = some v → ok v = true := by
  cases value with
  | none => exact ⟨(fun _ v h => nomatch h), fun _ => rfl⟩
  | some v =>
    rw [requireIfSome, require_eq_ok_iff]
    exact ⟨fun h _ hv => Option.some.inj hv ▸ h, fun h => h v rfl⟩

theorem pickOne_eq_ok_iff {document : String} {α : Type} {first second : String × Option α}
    {c : Option α} :
    pickOne document first second = .ok c ↔
      (first.2 = none ∨ second.2 = none) ∧ c = (first.2 <|> second.2) := by
  obtain ⟨n₁, a⟩ := first
  obtain ⟨n₂, b⟩ := second
  cases a <;> cases b <;> simp [pickOne, eq_comm]

theorem pure_eq_ok_iff {ε α : Type} {a b : α} : (pure b : Except ε α) = .ok a ↔ a = b :=
  ⟨fun h => (Except.ok.inj h).symm, fun h => h ▸ rfl⟩

theorem declKind_eq_ok_iff {raw : Layout} {document : String} {k : DeclKind} :
    raw.declKind document = .ok k ↔
      (raw.kind = none ∧ k = .record) ∨ (raw.kind = some "class" ∧ k = .record) ∨
        (raw.kind = some "enum" ∧ k = .enumeration (raw.values.getD [])) := by
  unfold Layout.declKind
  split <;> simp_all [pure_eq_ok_iff]

theorem isQualifiedName_iff (p : String) :
    isQualifiedName p = true ↔ ∀ part ∈ p.splitOn ".", isIdentifier part = true := by
  simp [isQualifiedName]

theorem isPlainRelativePath_iff (p : String) :
    isPlainRelativePath p = true ↔ p ≠ "" ∧ ∀ c ∈ Path.components p, c.isNormal = true := by
  simp [isPlainRelativePath]

/-! ## Defaults and fields -/

theorem decodeDefault_exists_ok_iff (sourceText : Bool) (v : Value) :
    (∃ l, decodeDefault sourceText v = .ok l) ↔ DefaultReadable sourceText v := by
  cases v with
  | string text =>
    cases sourceText
    · exact ⟨(fun _ h => nomatch h), fun _ => ⟨_, rfl⟩⟩
    · simp only [decodeDefault, if_true, DefaultReadable, forall_const]
  | number n =>
    cases n with
    | natural n =>
      have hread : decodeDefault sourceText (.number (.natural n)) =
          if n < Nat.pow 2 63 then .ok (.integer n)
          else .error ("integer default " ++ toString n ++ " is out of range") := rfl
      rw [hread]
      by_cases hn : n < Nat.pow 2 63
      · rw [if_pos hn]
        exact ⟨fun _ => hn, fun _ => ⟨_, rfl⟩⟩
      · rw [if_neg hn]
        exact ⟨(fun ⟨_, h⟩ => nomatch h), fun h => absurd h hn⟩
    | negative n => exact ⟨fun _ => trivial, fun _ => ⟨_, rfl⟩⟩
    | float x => exact ⟨fun _ => trivial, fun _ => ⟨_, rfl⟩⟩
  | bool b => exact ⟨fun _ => trivial, fun _ => ⟨_, rfl⟩⟩
  | null => exact ⟨(fun ⟨_, h⟩ => nomatch h), False.elim⟩
  | array items => exact ⟨(fun ⟨_, h⟩ => nomatch h), False.elim⟩
  | object members => exact ⟨(fun ⟨_, h⟩ => nomatch h), False.elim⟩

section Fields

variable {s : Spellings} {document : String} {sourceText : Bool} {index : Nat}

theorem FieldLayout.accepted_of_toDecl {f : FieldLayout} {d : FieldDecl}
    (h : f.toDecl s document sourceText index = .ok d) :
    f.Accepted s sourceText ∧ f.name = some d.name := by
  obtain ⟨_ | n, _ | e, default?⟩ := f
  all_goals simp only [FieldLayout.toDecl, bind, Except.bind, pure, Except.pure] at h
  · nomatch h
  · nomatch h
  · split at h <;> nomatch h
  cases hid : isIdentifier n
  · simp [hid] at h
  cases ht : s.readType e with
  | error m => simp [hid, ht] at h
  | ok t =>
    have hdefault : ∀ v, default? = some v → DefaultReadable sourceText v := by
      rintro v rfl
      cases hv : decodeDefault sourceText v with
      | error m => simp [hid, ht, hv] at h
      | ok l => exact (decodeDefault_exists_ok_iff sourceText v).1 ⟨l, hv⟩
    refine ⟨⟨⟨n, rfl, hid⟩, ⟨e, t, rfl, ht⟩, hdefault⟩, ?_⟩
    cases default? with
    | none =>
      simp [hid, ht] at h
      simp [← h]
    | some v =>
      cases hv : decodeDefault sourceText v with
      | error m => simp [hid, ht, hv] at h
      | ok l =>
        simp [hid, ht, hv] at h
        simp [← h]

theorem FieldLayout.exists_toDecl {f : FieldLayout} (h : f.Accepted s sourceText) :
    ∃ d, f.toDecl s document sourceText index = .ok d := by
  obtain ⟨⟨n, hn, hid⟩, ⟨e, t, he, ht⟩, hdefault⟩ := h
  obtain ⟨name, type, default?⟩ := f
  cases hn
  cases he
  cases default? with
  | none =>
    exact ⟨⟨n, t, none⟩, by simp [FieldLayout.toDecl, bind, Except.bind, pure, Except.pure, hid, ht]⟩
  | some v =>
    obtain ⟨l, hl⟩ := (decodeDefault_exists_ok_iff sourceText v).2 (hdefault v rfl)
    exact ⟨⟨n, t, some l⟩,
      by simp [FieldLayout.toDecl, bind, Except.bind, pure, Except.pure, hid, ht, hl]⟩

/-- The field conversion passes exactly the lists of accepted entries with distinct names none
of which is among the names already seen, and keeps the names in order. -/
theorem fieldsToDecls_sound {seen : List String} {fs : List FieldLayout} {ds : List FieldDecl}
    (h : fieldsToDecls s document sourceText index seen fs = .ok ds) :
    (∀ f ∈ fs, f.Accepted s sourceText) ∧ (fs.map (·.name)).Nodup ∧
      (∀ n ∈ seen, some n ∉ fs.map (·.name)) ∧ ds.map (fun d => some d.name) = fs.map (·.name) := by
  induction fs generalizing index seen ds with
  | nil =>
    cases h
    simp
  | cons f rest ih =>
    simp only [fieldsToDecls, bind, Except.bind, pure, Except.pure] at h
    cases hf : f.toDecl s document sourceText index with
    | error e => simp [hf] at h
    | ok d =>
      obtain ⟨hacc, hname⟩ := FieldLayout.accepted_of_toDecl hf
      by_cases hseen : d.name ∈ seen
      · simp [hf, hseen] at h
      cases hr : fieldsToDecls s document sourceText (index + 1) (d.name :: seen) rest with
      | error e => simp [hf, hseen, hr] at h
      | ok ds' =>
        simp only [hf, hr, List.contains_iff_mem, hseen, if_false, Except.ok.injEq] at h
        subst h
        obtain ⟨hall, hnodup, hfresh, hnames⟩ := ih hr
        refine ⟨List.forall_mem_cons.2 ⟨hacc, hall⟩, ?_, fun n hn hmem => ?_, ?_⟩
        · rw [List.map_cons, List.nodup_cons, hname]
          exact ⟨hfresh d.name List.mem_cons_self, hnodup⟩
        · rw [List.map_cons, hname] at hmem
          rcases List.mem_cons.1 hmem with heq | hmem
          · exact hseen (Option.some.inj heq ▸ hn)
          · exact hfresh n (List.mem_cons_of_mem _ hn) hmem
        · rw [List.map_cons, List.map_cons, hname, hnames]

theorem fieldsToDecls_complete {seen : List String} {fs : List FieldLayout}
    (hall : ∀ f ∈ fs, f.Accepted s sourceText) (hnodup : (fs.map (·.name)).Nodup)
    (hfresh : ∀ n ∈ seen, some n ∉ fs.map (·.name)) :
    ∃ ds, fieldsToDecls s document sourceText index seen fs = .ok ds := by
  induction fs generalizing index seen with
  | nil => exact ⟨[], rfl⟩
  | cons f rest ih =>
    obtain ⟨d, hd⟩ : ∃ d, f.toDecl s document sourceText index = .ok d :=
      FieldLayout.exists_toDecl (hall f List.mem_cons_self)
    have hname := (FieldLayout.accepted_of_toDecl hd).2
    rw [List.map_cons, hname, List.nodup_cons] at hnodup
    have hseen : d.name ∉ seen := fun h =>
      hfresh d.name h (by rw [List.map_cons, hname]; exact List.mem_cons_self)
    have hfresh' : ∀ n ∈ d.name :: seen, some n ∉ rest.map (·.name) := by
      intro n hn
      rcases List.mem_cons.1 hn with rfl | hn
      · exact hnodup.1
      · exact fun hmem => hfresh n hn (List.mem_cons_of_mem _ hmem)
    obtain ⟨ds, hds⟩ := @ih (index + 1) (d.name :: seen)
      (fun f hf => hall f (List.mem_cons_of_mem _ hf)) hnodup.2 hfresh'
    exact ⟨d :: ds, by
      simp [fieldsToDecls, bind, Except.bind, pure, Except.pure, hd, hseen, hds]⟩

end Fields

/-! ## Enumerations -/

theorem firstRepeat_eq_none_iff (seen values : List String) :
    firstRepeat seen values = none ↔ values.Nodup ∧ ∀ v ∈ values, v ∉ seen := by
  induction values generalizing seen with
  | nil => simp [firstRepeat]
  | cons v rest ih =>
    by_cases hv : v ∈ seen
    · simp [firstRepeat, hv]
    · simp only [firstRepeat, List.contains_iff_mem, hv, if_false, ih, List.nodup_cons,
        List.forall_mem_cons, not_false_eq_true, true_and]
      constructor
      · rintro ⟨hnodup, hrest⟩
        exact ⟨⟨fun h => hrest v h List.mem_cons_self, hnodup⟩,
          fun w hw h => hrest w hw (List.mem_cons_of_mem v h)⟩
      · rintro ⟨⟨hnotin, hnodup⟩, hrest⟩
        refine ⟨hnodup, fun w hw h => ?_⟩
        rcases List.mem_cons.1 h with rfl | h
        · exact hnotin hw
        · exact hrest w hw h

theorem checkEnum_eq_ok_iff {document : String} {d : EntityDecl} {values : List String} {u : Unit} :
    checkEnum document d values = .ok u ↔ d.base = none ∧ d.fields = [] ∧ d.implements = none ∧
      values ≠ [] ∧ (∀ v ∈ values, isIdentifier v = true) ∧ values.Nodup := by
  simp only [checkEnum, bind, Except.bind, pure, Except.pure]
  cases hbase : d.base with
  | some b => simp
  | none =>
  cases hfields : d.fields with
  | cons f fs => simp
  | nil =>
  cases himpl : d.implements with
  | some i => simp
  | none =>
  cases hfind : values.find? (fun v => !isIdentifier v) with
  | some w =>
    have hw : isIdentifier w = false := by simpa using List.find?_some hfind
    have hmem : w ∈ values := List.mem_of_find?_eq_some hfind
    have hfail : ¬ ∀ v ∈ values, isIdentifier v = true := fun h => by simp [h w hmem] at hw
    simp only [Option.isSome_none, Bool.false_eq_true, if_false, List.head?_nil]
    exact ⟨(fun h => by split at h <;> cases h), fun h => absurd h.2.2.2.2.1 hfail⟩
  | none =>
    have hids : ∀ v ∈ values, isIdentifier v = true := by simpa using List.find?_eq_none.1 hfind
    cases hrep : firstRepeat [] values with
    | some w =>
      have hdup : ¬ values.Nodup := fun h => by
        simp [(firstRepeat_eq_none_iff [] values).2 ⟨h, by simp⟩] at hrep
      simp only [Option.isSome_none, Bool.false_eq_true, if_false, List.head?_nil]
      exact ⟨(fun h => by split at h <;> cases h), fun h => absurd h.2.2.2.2.2 hdup⟩
    | none =>
      have hnodup := ((firstRepeat_eq_none_iff [] values).1 hrep).1
      cases values with
      | nil => simp
      | cons v rest =>
        simp only [List.isEmpty_cons, Bool.false_eq_true, if_false]
        exact ⟨fun _ => ⟨trivial, trivial, trivial, List.cons_ne_nil v rest, hids, hnodup⟩,
          fun _ => rfl⟩

theorem checkKind_eq_ok_iff {document : String} {raw : Layout} {k : DeclKind} {decl : EntityDecl}
    {u : Unit} (hk : raw.declKind document = .ok k) :
    checkKind document decl raw.values k = .ok u ↔
      (raw.kind = some "enum" → decl.base = none ∧ decl.fields = [] ∧ decl.implements = none ∧
        raw.values.getD [] ≠ [] ∧ (∀ v ∈ raw.values.getD [], isIdentifier v = true) ∧
        (raw.values.getD []).Nodup) ∧
      (raw.kind ≠ some "enum" → raw.values = none) := by
  rcases declKind_eq_ok_iff.1 hk with ⟨hkind, rfl⟩ | ⟨hkind, rfl⟩ | ⟨hkind, rfl⟩
  · simp [checkKind, require_eq_ok_iff, hkind]
  · simp [checkKind, require_eq_ok_iff, hkind]
  · simp [checkKind, checkEnum_eq_ok_iff, hkind]

/-! ## Whole documents -/

section Documents

variable {s : Spellings} {document : String}

theorem Layout.accepted_of_toDecl {raw : Layout} {d : EntityDecl}
    (h : raw.toDecl s document = .ok d) : raw.Accepted s document := by
  unfold Layout.toDecl at h
  cases hn : (raw.name <|> Path.fileStem? document) with
  | none => simp [hn] at h
  | some name =>
    simp only [hn] at h
    obtain ⟨_, hid, h⟩ := Except.bind_eq_ok.1 h
    obtain ⟨k, hk, h⟩ := Except.bind_eq_ok.1 h
    obtain ⟨base, hbase, h⟩ := Except.bind_eq_ok.1 h
    obtain ⟨fields, hfields, h⟩ := Except.bind_eq_ok.1 h
    obtain ⟨_, hb, h⟩ := Except.bind_eq_ok.1 h
    obtain ⟨_, hpackage, h⟩ := Except.bind_eq_ok.1 h
    obtain ⟨_, himplements, h⟩ := Except.bind_eq_ok.1 h
    obtain ⟨_, hsubdir, h⟩ := Except.bind_eq_ok.1 h
    obtain ⟨ds, hds, h⟩ := Except.bind_eq_ok.1 h
    obtain ⟨_, hkind, -⟩ := Except.bind_eq_ok.1 h
    obtain ⟨hone_base, rfl⟩ := pickOne_eq_ok_iff.1 hbase
    obtain ⟨hone_field_list, rfl⟩ := pickOne_eq_ok_iff.1 hfields
    obtain ⟨hall, hnodup, -, hnames⟩ := fieldsToDecls_sound hds
    obtain ⟨henum, hvalues⟩ := (checkKind_eq_ok_iff hk).1 hkind
    refine
      { name := ⟨name, hn, require_eq_ok_iff.1 hid⟩
        kind := ?_
        one_base := hone_base
        one_field_list := hone_field_list
        base := requireIfSome_eq_ok_iff.1 hb
        package := fun p hp => (isQualifiedName_iff p).1 (requireIfSome_eq_ok_iff.1 hpackage p hp)
        implements := fun i hi =>
          (isQualifiedName_iff i).1 (requireIfSome_eq_ok_iff.1 himplements i hi)
        subdir := fun sd hsd =>
          (isPlainRelativePath_iff sd).1 (requireIfSome_eq_ok_iff.1 hsubdir sd hsd)
        fields := hall
        distinct := hnodup
        enum := fun he => ?_
        values := hvalues }
    · rcases declKind_eq_ok_iff.1 hk with ⟨hkind, -⟩ | ⟨hkind, -⟩ | ⟨hkind, -⟩ <;> simp [hkind]
    · obtain ⟨hb, hf, hi, hvs⟩ := henum he
      refine ⟨hb, ?_, hi, hvs⟩
      have hds : ds = [] := hf
      rw [hds, List.map_nil] at hnames
      exact List.map_eq_nil_iff.1 hnames.symm

theorem Layout.exists_toDecl {raw : Layout} (h : raw.Accepted s document) :
    ∃ d, raw.toDecl s document = .ok d := by
  obtain ⟨name, hn, hid⟩ := h.name
  obtain ⟨k, hk⟩ : ∃ k, raw.declKind document = .ok k := by
    rcases h.kind with hkind | hkind | hkind
    · exact ⟨_, declKind_eq_ok_iff.2 (.inl ⟨hkind, rfl⟩)⟩
    · exact ⟨_, declKind_eq_ok_iff.2 (.inr (.inl ⟨hkind, rfl⟩))⟩
    · exact ⟨_, declKind_eq_ok_iff.2 (.inr (.inr ⟨hkind, rfl⟩))⟩
  obtain ⟨ds, hds⟩ : ∃ ds, fieldsToDecls s document raw.members.isSome 0 [] raw.entries = .ok ds :=
    fieldsToDecls_complete h.fields h.distinct (fun _ hn => nomatch hn)
  unfold Layout.toDecl
  simp only [hn]
  rw [Except.exists_bind_eq_ok]
  refine ⟨(), require_eq_ok_iff.2 hid, ?_⟩
  rw [Except.exists_bind_eq_ok]
  refine ⟨k, hk, ?_⟩
  rw [Except.exists_bind_eq_ok]
  refine ⟨_, pickOne_eq_ok_iff.2 ⟨h.one_base, rfl⟩, ?_⟩
  rw [Except.exists_bind_eq_ok]
  refine ⟨_, pickOne_eq_ok_iff.2 ⟨h.one_field_list, rfl⟩, ?_⟩
  rw [Except.exists_bind_eq_ok]
  refine ⟨(), requireIfSome_eq_ok_iff.2 h.base, ?_⟩
  rw [Except.exists_bind_eq_ok]
  refine ⟨(), requireIfSome_eq_ok_iff.2 fun p hp => (isQualifiedName_iff p).2 (h.package p hp), ?_⟩
  rw [Except.exists_bind_eq_ok]
  refine ⟨(), requireIfSome_eq_ok_iff.2 fun i hi =>
    (isQualifiedName_iff i).2 (h.implements i hi), ?_⟩
  rw [Except.exists_bind_eq_ok]
  refine ⟨(), requireIfSome_eq_ok_iff.2 fun sd hsd =>
    (isPlainRelativePath_iff sd).2 (h.subdir sd hsd), ?_⟩
  rw [Except.exists_bind_eq_ok]
  refine ⟨ds, hds, ?_⟩
  rw [Except.exists_bind_eq_ok]
  refine ⟨(), (checkKind_eq_ok_iff hk).2 ⟨fun he => ?_, h.values⟩, _, rfl⟩
  obtain ⟨hb, hentries, hi, hvs⟩ := h.enum he
  rw [hentries] at hds
  exact ⟨hb, (Except.ok.inj hds).symm, hi, hvs⟩

theorem Layout.toDecl_exists_ok_iff (raw : Layout) :
    (∃ d, raw.toDecl s document = .ok d) ↔ raw.Accepted s document :=
  ⟨fun ⟨_, h⟩ => Layout.accepted_of_toDecl h, Layout.exists_toDecl⟩

/-- Whatever a failed layout read reports, a document reads exactly when its layout reads and is
accepted. -/
theorem exists_ok_of_layout_iff (x : Except String Layout) (e : String → SchemaError) :
    (∃ d : EntityDecl, (match x with
        | .ok raw => raw.toDecl s document
        | .error m => .error (e m) : Except SchemaError EntityDecl) = .ok d) ↔
      ∃ raw, x = .ok raw ∧ raw.Accepted s document := by
  cases x with
  | error m => exact ⟨(fun ⟨_, h⟩ => nomatch h), (fun ⟨_, h, _⟩ => nomatch h)⟩
  | ok raw =>
    rw [Layout.toDecl_exists_ok_iff]
    exact ⟨fun h => ⟨raw, rfl, h⟩, fun ⟨_, hraw, h⟩ => Except.ok.inj hraw ▸ h⟩

end Documents

/-- A document, given as a JSON value or as text, reads into a declaration exactly when its
layout reads and is accepted. -/
theorem readDocument_ok_iff_accepted (s : Spellings) (document : String) :
    (∀ v, (∃ d, s.readDocumentValue document v = .ok d) ↔
      ∃ raw, Layout.ofValue v = .ok raw ∧ raw.Accepted s document) ∧
    ∀ content, (∃ d, s.readDocument document content = .ok d) ↔
      ∃ raw, Layout.read content = .ok raw ∧ raw.Accepted s document :=
  ⟨fun v => exists_ok_of_layout_iff (Layout.ofValue v) _,
    fun content => exists_ok_of_layout_iff (Layout.read content) _⟩

end EntitySchema
