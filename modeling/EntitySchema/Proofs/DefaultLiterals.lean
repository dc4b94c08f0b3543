import EntitySchema.Proofs.NumberLiterals
import EntitySchema.Proofs.StringLiterals
import EntitySchema.Proofs.MemberNames
import EntitySchema.Emit.CFamily

/-!
# The meaning of written defaults

A generated type initializes each defaulted field with a spelling of its default:
`Emit.initializer` in the C family, the `Default` implementation in Rust. `DenotesDefault` says
what that text has to be for the field's type: a one-line string literal reading back as the
string, an integer literal of the value, `true` or `false`, a floating literal reading back as
the double, or the enumeration's name, the separator and the identifier its own file declares
for the value.

In a resolved model every default fits its field, so the C family writes each one, and the
spelling denotes it exactly when `DefaultWritable` holds (`resolve_defaultLiterals`): a string
holds no character that slips out of the language's literal, which only the Unicode line ends do
in C#, and a double to be written is finite, which an out-of-range source text such as `1e400`
is not. Both can happen: `separatorNote_breaks_csharp` is a string default that C# cannot hold.
-/

namespace EntitySchema

open Decimal Target Emit

/-! ### What a written default means -/

namespace Target

/-- The separator between an enumeration's name and an enumerator: `::` in C++ and Rust, `.` in
C# and Java. -/
def Language.enumSeparator : Language → String
  | .cpp | .rust => "::"
  | .csharp | .java => "."

theorem Language.enumValueSpelling_eq (l : Language) (name value : String) :
    l.enumValueSpelling name value = name ++ l.enumSeparator ++ l.enumeratorName value := by
  cases l <;> rfl

/-- A double that is neither an infinity nor NaN. -/
def FiniteDouble (x : Float) : Prop := ∃ neg m q, Binary64.ofFloat x = .finite neg m q

/-- What the text of a default means in `l` for a field of type `t` in the model `m`: a string
literal of the string, an integer literal of the value, `true` or `false`, a floating literal
reading back as the double (for an integer on a floating field, the double nearest to it), and
for a reference to an enumeration, its name, the separator and the enumerator identifier the
enumeration's own file declares for the value. -/
def DenotesDefault (l : Language) (m : Model) : FieldType → Literal → String → Prop
  | .primitive .string, .string s, text => StringLiteralOf l s text
  | .primitive .boolean, .boolean b, text => text = if b then "true" else "false"
  | .primitive .u32, .integer n, text => IntegerLiteralOf l .u32 n text
  | .primitive .i32, .integer n, text => IntegerLiteralOf l .i32 n text
  | .primitive .f32, .integer n, text => FloatLiteralOf l .f32 (ofInt n) text
  | .primitive .f64, .integer n, text => FloatLiteralOf l .f64 (ofInt n) text
  | .primitive .f32, .float x, text => FloatLiteralOf l .f32 x text
  | .primitive .f64, .float x, text => FloatLiteralOf l .f64 x text
  | .reference name, .string v, text =>
    ∃ t, m.get? name = some t ∧ t.isEnum = true ∧ v ∈ t.enumValues ∧
      text = name ++ l.enumSeparator ++ l.enumeratorName v
  | _, _, _ => False

/-- When the spelling of a default can denote it: a string holds no character that slips in the
language's literal, and a double to be written is finite. -/
def DefaultWritable (l : Language) : FieldType → Literal → Prop
  | .primitive .string, .string s => ∀ c ∈ s.toList, l.slipsInString c = false
  | .primitive .f32, .integer n => FiniteDouble (ofInt n)
  | .primitive .f64, .integer n => FiniteDouble (ofInt n)
  | .primitive .f32, .float x => FiniteDouble x
  | .primitive .f64, .float x => FiniteDouble x
  | _, _ => True

end Target

/-- The compatibility table read in a model: a primitive kind takes the literals it accepts,
and a reference to an enumeration a string naming one of its values. -/
def Model.DefaultFits (m : Model) : FieldType → Literal → Prop
  | .primitive k, l => k.accepts l = true
  | .reference n, l =>
    ∃ t, m.get? n = some t ∧ t.isEnum = true ∧ ∃ v, l = .string v ∧ v ∈ t.enumValues
  | .collection _, _ => False

namespace Target

variable {l : Language} {m : Model}

/-- A default that fits its field is written, since its field is a primitive or a reference to
an enumeration. -/
theorem defaultApplies_of_fits {f : ResolvedField} {lit : Literal} (h : m.DefaultFits f.type lit) :
    defaultApplies m f = true := by
  unfold defaultApplies
  split
  · rfl
  next n hn =>
    rw [hn] at h
    obtain ⟨t, ht, hte, -⟩ := h
    simp [Model.isEnum, ht, hte]
  next hn =>
    rw [hn] at h
    exact h.elim

/-- A default that fits its field is spelled so that it denotes it exactly when it is writable. -/
theorem denotesDefault_iff {t : FieldType} {lit : Literal} (h : m.DefaultFits t lit) (l : Language) :
    DenotesDefault l m t lit (l.defaultSpelling t lit) ↔ DefaultWritable l t lit := by
  cases t with
  | primitive k =>
    cases k <;> cases lit <;> simp [Model.DefaultFits, PrimitiveKind.accepts] at h
    case string.string s => exact stringLiteralOf_iff l s
    case boolean.boolean b => exact iff_of_true rfl trivial
    case u32.integer n => exact iff_of_true (integerLiteralOf_integerLiteral l .u32 n) trivial
    case i32.integer n => exact iff_of_true (integerLiteralOf_integerLiteral l .i32 n) trivial
    case f32.integer n => exact floatLiteralOf_iff l .f32 (ofInt n)
    case f64.integer n => exact floatLiteralOf_iff l .f64 (ofInt n)
    case f32.float x => exact floatLiteralOf_iff l .f32 x
    case f64.float x => exact floatLiteralOf_iff l .f64 x
  | reference n =>
    obtain ⟨e, he, hee, v, rfl, hv⟩ := h
    exact iff_of_true ⟨e, he, hee, hv, Language.enumValueSpelling_eq l n v⟩ trivial
  | collection _ => exact h.elim

end Target

/-! ### Defaults of a resolved model -/

namespace Registry

variable {o : ResolveOptions} {r : Registry} {m : Model}

/-- The entity a resolved model holds under a registered name is of the declaration's kind, so
an enumeration with the declaration's values. -/
theorem get?_kind_of_lookup? (hr : r.Frozen) (h : r.resolve o = .ok m) {n : String}
    {d : EntityDecl} (hd : r.lookup? n = some d) :
    ∃ t, m.get? n = some t ∧ t.isEnum = d.isEnum ∧ t.enumValues = d.enumValues := by
  have hget := get?_of_resolve_ok hr h n
  rw [hd, Option.map_some] at hget
  obtain ⟨t, ht, heq⟩ := Option.map_eq_some_iff.1 hget
  have hkind : t.kind = d.kind := congrArg ResolvedEntity.kind heq
  refine ⟨t, ht, ?_⟩
  cases hk : d.kind <;>
    simp [ResolvedEntity.isEnum, EntityDecl.isEnum, ResolvedEntity.enumValues,
      EntityDecl.enumValues, hkind, hk]

theorem defaultFits_of_mem_fields (hr : r.Frozen) (h : r.resolve o = .ok m) {e : ResolvedEntity}
    (he : e ∈ m.entities) {f : ResolvedField} (hf : f ∈ e.fields) {lit : Literal}
    (hd : f.default = some lit) : m.DefaultFits f.type lit := by
  obtain ⟨p, hp, g, hg, rfl⟩ := exists_declared_of_mem_fields hr h he hf
  have hfit := (wellFormed_of_resolve_ok hr h).defaults_fit p hp g hg lit hd
  change r.DefaultFits g.type lit at hfit
  change m.DefaultFits g.type lit
  cases ht : g.type with
  | primitive k =>
    rw [ht] at hfit
    exact hfit
  | reference n =>
    rw [ht] at hfit
    obtain ⟨t, hlook, hte, v, rfl, hv⟩ := hfit
    obtain ⟨t', hget, hisEnum, hvalues⟩ := get?_kind_of_lookup? hr h hlook
    exact ⟨t', hget, hisEnum.trans hte, v, rfl, hvalues ▸ hv⟩
  | collection _ =>
    rw [ht] at hfit
    exact hfit.elim

/-- In a resolved model, the C family writes the default of every defaulted field as an
initializer, Rust writes it in the `Default` implementation, and the written spelling denotes
the default in the language exactly when it is writable: a string holds no character that slips
out of the language's literal, and a double to be written is finite. -/
theorem resolve_defaultLiterals (hr : r.Frozen) (h : r.resolve o = .ok m) (l : Language)
    {e : ResolvedEntity} (he : e ∈ m.entities) {f : ResolvedField} (hf : f ∈ e.fields)
    {lit : Literal} (hd : f.default = some lit) :
    initializer l m f = " = " ++ l.defaultSpelling f.type lit ∧
      (DenotesDefault l m f.type lit (l.defaultSpelling f.type lit) ↔ DefaultWritable l f.type lit) := by
  have hfit := defaultFits_of_mem_fields hr h he hf hd
  refine ⟨?_, denotesDefault_iff hfit l⟩
  simp [initializer, hd, defaultApplies_of_fits hfit]

/-- An enumeration `Shade` and a class `Lamp` with a string, an integer and an enumeration
default. -/
def lampDefaults : Registry :=
  ⟨[{ name := "Shade", kind := .enumeration ["dark", "light"] },
    { name := "Lamp",
      fields := [⟨"label", .primitive .string, some (.string "on")⟩,
        ⟨"watts", .primitive .u32, some (.integer 60)⟩,
        ⟨"shade", .reference "Shade", some (.string "light")⟩] }]⟩

theorem lampDefaults_denote : lampDefaults.Frozen ∧ ∃ m, lampDefaults.resolve {} = .ok m ∧
    (∃ e ∈ m.entities, ∃ f ∈ e.fields, f.default.isSome = true) ∧
    ∀ (l : Language), ∀ e ∈ m.entities, ∀ f ∈ e.fields, ∀ lit, f.default = some lit →
      initializer l m f = " = " ++ l.defaultSpelling f.type lit ∧
        (DenotesDefault l m f.type lit (l.defaultSpelling f.type lit) ↔
          DefaultWritable l f.type lit) := by
  have hr : lampDefaults.Frozen := by decide
  obtain ⟨m, hm, hsome⟩ : ∃ m, lampDefaults.resolve {} = .ok m ∧
      ∃ e ∈ m.entities, ∃ f ∈ e.fields, f.default.isSome = true := by
    refine ⟨_, rfl, ?_⟩
    decide +kernel
  exact ⟨hr, m, hm, hsome, fun l e he f hf lit hd => resolve_defaultLiterals hr hm l he hf hd⟩

/-- A class `Note` whose string field `text` defaults to `a`, a line separator (U+2028) and
`b`. -/
def separatorNote : Registry :=
  ⟨[{ name := "Note", fields := [⟨"text", .primitive .string, some (.string "a\u2028b")⟩] }]⟩

/-- C# writes the default of `Note.text` with the line separator bare, and a line ends there in
C#: the initializer holds no string literal of C#, so it does not denote the default. -/
theorem separatorNote_breaks_csharp : ∃ m, separatorNote.resolve {} = .ok m ∧
    ∃ e ∈ m.entities, ∃ f ∈ e.ownFields, f.default = some (.string "a\u2028b") ∧
      initializer .csharp m f = " = \"a\u2028b\"" ∧
      ¬ DenotesDefault .csharp m f.type (.string "a\u2028b")
        (Language.csharp.defaultSpelling f.type (.string "a\u2028b")) := by
  refine ⟨_, rfl, _, List.mem_cons_self, _, List.mem_cons_self, rfl, by decide +kernel, ?_⟩
  intro hden
  have hslip := (stringLiteralOf_iff .csharp "a\u2028b").1 hden '\u2028' (by simp)
  simp [Language.slipsInString, isUnicodeLineEnd] at hslip

end Registry

end EntitySchema
