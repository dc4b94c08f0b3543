import EntitySchema.Command.Generate

/-!
# The settings a generate run uses

Three sources give the settings of a run, each overriding the one before: the project's file,
the environment (whether fields may be redeclared, and the namespace), and the command line
(paths, output directories, the two switches and the namespace). The run uses the settings of
all three together (`settings_eq_ok_iff`).

It checks twice, though: once the file and the environment are combined, and again after the
command line's overrides. So the run also stops on a value that the command line replaces: an
unreadable shadowing value in the environment, or an invalid namespace from the file or the
environment, stops it even when the command line gives its own (`overriddenShadowing_refused`).
-/

namespace EntitySchema

open Workspace Project Command

namespace Project.ProjectConfig

/-- The settings with the environment's overrides, unchecked: a shadowing value that spells no
truth value leaves the setting as it was. -/
def overriddenBy (c : ProjectConfig) (lookup : String → Option String) : ProjectConfig :=
  { c with
    allowShadowing := ((lookup shadowingVariable).bind parseFlag).getD c.allowShadowing
    namespaceName := (lookup namespaceVariable).or c.namespaceName }

/-- The environment's shadowing value, if it has one, spells a truth value. -/
def ShadowingReadable (lookup : String → Option String) : Prop :=
  ∀ v, lookup shadowingVariable = some v → (parseFlag v).isSome

variable {c c' : ProjectConfig} {lookup : String → Option String}

theorem withEnvironment_of_readable (h : ShadowingReadable lookup) :
    c.withEnvironment lookup = match (c.overriddenBy lookup).problem? with
      | some problem => .error problem
      | none => .ok (c.overriddenBy lookup) := by
  cases hs : lookup shadowingVariable with
  | none =>
    simp only [withEnvironment, hs]
    cases hn : lookup namespaceVariable <;>
      simp only [overriddenBy, hs, hn, Option.bind_none, Option.getD_none] <;> rfl
  | some v =>
    obtain ⟨b, hf⟩ := Option.isSome_iff_exists.1 (h v hs)
    simp only [withEnvironment, hs, hf]
    cases hn : lookup namespaceVariable <;>
      simp only [overriddenBy, hs, hf, hn, Option.bind_some, Option.getD_some] <;> rfl

theorem withEnvironment_of_unreadable {v : String} (hs : lookup shadowingVariable = some v)
    (hf : parseFlag v = none) :
    c.withEnvironment lookup = .error ("Invalid " ++ shadowingVariable ++ " value: '" ++ v ++ "'") := by
  simp only [withEnvironment, hs, hf]
  rfl

theorem withEnvironment_eq_ok_iff :
    c.withEnvironment lookup = .ok c' ↔
      ShadowingReadable lookup ∧ (c.overriddenBy lookup).problem? = none ∧
        c' = c.overriddenBy lookup := by
  by_cases hread : ShadowingReadable lookup
  · rw [withEnvironment_of_readable hread]
    cases hp : (c.overriddenBy lookup).problem? <;> simp [hread, eq_comm]
  · obtain ⟨v, hs, hf⟩ : ∃ v, lookup shadowingVariable = some v ∧ parseFlag v = none := by
      simpa [ShadowingReadable] using hread
    rw [withEnvironment_of_unreadable hs hf]
    simp [hread]

end Project.ProjectConfig

namespace Command.GenerateCommand

open ProjectConfig

variable {g : GenerateCommand} {p : Project} {lookup : String → Option String}

theorem effective_eq_ok_iff {c : ProjectConfig} :
    p.effective lookup = .ok c ↔
      ShadowingReadable lookup ∧ ((p.config.getD {}).overriddenBy lookup).problem? = none ∧
        c = (p.config.getD {}).overriddenBy lookup := by
  rw [← withEnvironment_eq_ok_iff]
  unfold effective
  cases (p.config.getD {}).withEnvironment lookup with
  | error e => exact ⟨fun h => (nomatch h), fun h => (nomatch h)⟩
  | ok c' =>
    constructor
    · intro h
      cases h
      rfl
    · intro h
      cases h
      rfl

/-- A run gets past its settings exactly when the environment's shadowing value is readable, the
settings of the file and the environment are valid, and so are those with the command line's
overrides on top; it then uses the latter, the command line over the environment over the
file. -/
theorem settings_eq_ok_iff (g : GenerateCommand) (p : Project) (lookup : String → Option String)
    (c : ProjectConfig) :
    g.settings p lookup = .ok c ↔
      ShadowingReadable lookup ∧ ((p.config.getD {}).overriddenBy lookup).problem? = none ∧
        (g.applyFlags ((p.config.getD {}).overriddenBy lookup)).problem? = none ∧
        c = g.applyFlags ((p.config.getD {}).overriddenBy lookup) := by
  unfold settings
  cases he : p.effective lookup with
  | error f =>
    have hbefore : ¬ (ShadowingReadable lookup ∧
        ((p.config.getD {}).overriddenBy lookup).problem? = none) := fun ⟨hs, hp⟩ => by
      have := effective_eq_ok_iff.2 ⟨hs, hp, rfl⟩
      rw [he] at this
      cases this
    simp only [bind, Except.bind]
    constructor
    · intro h
      cases h
    · rintro ⟨hs, hp, -⟩
      exact absurd ⟨hs, hp⟩ hbefore
  | ok c₀ =>
    obtain ⟨hs, hp, rfl⟩ := effective_eq_ok_iff.1 he
    cases hq : (g.applyFlags ((p.config.getD {}).overriddenBy lookup)).problem? <;>
      simp [bind, Except.bind, hq, hs, hp, pure, Except.pure, throw, throwThe,
        MonadExceptOf.throw, eq_comm]

/-- The command line turns shadowing on, and the environment holds a value that spells no truth
value: the settings with every override are valid, yet the run stops at its settings. -/
theorem overriddenShadowing_refused :
    (({ allowShadowing := true } : GenerateCommand).applyFlags
        (({} : ProjectConfig).overriddenBy
          fun k => if k = shadowingVariable then some "maybe" else none)).problem? = none ∧
      (({ allowShadowing := true } : GenerateCommand).settings { path := "/project" }
        fun k => if k = shadowingVariable then some "maybe" else none).toBool = false := by
  decide +kernel

end Command.GenerateCommand

end EntitySchema
