import EntitySchema.Workspace.Host

/-!
# A file system as a map from paths to contents

The plainest machine a command can write files on: each path holds the bytes of a file or
nothing, and a path that holds no file counts as a directory, so creating a directory succeeds
wherever no file stands. Paths are compared as written (`a/b` and `a/./b` are two paths), and
the clock is fixed. Nothing is printed and no environment variable is set.
-/

namespace EntitySchema.Workspace

/-- Files by path, and the time written into file headers. -/
structure FileMap where
  files : String → Option ByteArray
  clock : String

namespace FileMap

def empty (clock : String) : FileMap := ⟨fun _ => none, clock⟩

def write (fs : FileMap) (p : String) (bytes : ByteArray) : FileMap :=
  { fs with files := fun q => if q = p then some bytes else fs.files q }

/-- The text of the file at `p`, when there is one and it is UTF-8. -/
def text? (fs : FileMap) (p : String) : Option String := (fs.files p).bind String.fromUTF8?

@[simp] theorem write_files_self (fs : FileMap) (p : String) (bytes : ByteArray) :
    (fs.write p bytes).files p = some bytes := by
  simp [write]

theorem write_files_of_ne (fs : FileMap) {p q : String} (bytes : ByteArray) (h : q ≠ p) :
    (fs.write p bytes).files q = fs.files q := by
  simp [write, h]

@[simp] theorem write_clock (fs : FileMap) (p : String) (bytes : ByteArray) :
    (fs.write p bytes).clock = fs.clock := rfl

theorem text?_of_files {fs : FileMap} {p t : String} (h : fs.files p = some t.toUTF8) :
    fs.text? p = some t := by
  simp only [text?, h, Option.bind_some, String.fromUTF8?, String.toUTF8_eq_toByteArray,
    dif_pos t.isValidUTF8]
  rfl

@[simp] theorem text?_write_self (fs : FileMap) (p t : String) : (fs.write p t.toUTF8).text? p = some t :=
  text?_of_files (write_files_self fs p _)

/-- Whether a file stands at `p`, where no directory can then be made. The empty path is the
working directory. -/
def blocked (fs : FileMap) (p : String) : Bool := !p.isEmpty && (fs.files p).isSome

end FileMap

abbrev FileSim := StateM FileMap

instance : Host FileSim where
  kindOf p := return if ((← get).files p).isSome then .ok .file else .ok .directory
  readBytes p := return match (← get).files p with
    | some bytes => .ok bytes
    | none => .error .notFound
  listDir _ := return .ok []
  makeDir p := return if ((← get).files p).isSome then .error .alreadyExists else .ok ()
  writeBytes p bytes := do
    modify (·.write p bytes)
    return .ok ()
  workingDir := return "/"
  lookupEnv _ := return none
  putOut _ := return ()
  putErr _ := return ()
  now := return (← get).clock

/-! ### Commands on a file map

Each derived operation of a host, run on a file map inside a command that may give up: what
it answers and what it leaves. -/

section Run

variable {ε : Type}

/-- A command of two steps either gave up in the first, where the map stays as the first step
left it, or ran the second on what the first left. -/
theorem FileSim.bind_cases {α β : Type} {x : ExceptT ε FileSim α} {f : α → ExceptT ε FileSim β}
    {fs fs' : FileMap} {r : Except ε β} (h : (x >>= f).run.run fs = pure (r, fs')) :
    (∃ err, x.run.run fs = pure (.error err, fs') ∧ r = .error err) ∨
      ∃ a fs₁, x.run.run fs = pure (.ok a, fs₁) ∧ (f a).run.run fs₁ = pure (r, fs') := by
  rw [ExceptT.run_bind, StateT.run_bind] at h
  rcases hx : x.run.run fs with ⟨_ | a, fs₁⟩
  · rw [hx] at h
    cases h
    exact .inl ⟨_, rfl, rfl⟩
  · rw [hx] at h
    exact .inr ⟨a, fs₁, rfl, h⟩

theorem FileSim.bind_ok {α β : Type} {x : ExceptT ε FileSim α} {f : α → ExceptT ε FileSim β}
    {fs fs' : FileMap} {b : β} (h : (x >>= f).run.run fs = pure (.ok b, fs')) :
    ∃ a fs₁, x.run.run fs = pure (.ok a, fs₁) ∧ (f a).run.run fs₁ = pure (.ok b, fs') := by
  rcases FileSim.bind_cases h with ⟨_, -, hr⟩ | hok
  · cases hr
  · exact hok

theorem pathExists_run (p : String) (fs : FileMap) :
    (pathExists p : ExceptT ε FileSim Bool).run.run fs = pure (.ok true, fs) := by
  cases h : (fs.files p).isSome <;> simp [pathExists, Host.kindOf, h] <;> rfl

/-- Making the directories of a path fails exactly where a file stands at the path. -/
theorem createDirAll_run (p : String) (fs : FileMap) :
    (createDirAll p : ExceptT ε FileSim _).run.run fs =
      pure (.ok (if fs.blocked p then .error .alreadyExists else .ok ()), fs) := by
  unfold createDirAll
  generalize (Path.components p).length = n
  cases hp : p.isEmpty <;> cases hf : fs.files p <;>
    simp [createDirAllWithin, hp, hf, FileMap.blocked, Host.makeDir, isDir, Host.kindOf]

theorem readText_run (p : String) (fs : FileMap) :
    ∃ r, (readText p : ExceptT ε FileSim _).run.run fs = pure (.ok r, fs) ∧
      r.toOption = fs.text? p := by
  simp only [readText, FileMap.text?]
  cases h : fs.files p with
  | none => exact ⟨.error .notFound, by simp [Host.readBytes, h], rfl⟩
  | some b =>
    cases hb : String.fromUTF8? b with
    | none => exact ⟨.error .invalidUtf8, by simp [Host.readBytes, h, hb], by simp [hb]; rfl⟩
    | some t => exact ⟨.ok t, by simp [Host.readBytes, h, hb], by simp [hb]; rfl⟩

theorem writeText_run (p t : String) (fs : FileMap) :
    (writeText p t : ExceptT ε FileSim _).run.run fs = pure (.ok (.ok ()), fs.write p t.toUTF8) :=
  rfl

theorem now_run (fs : FileMap) : (Host.now : ExceptT ε FileSim String).run.run fs = pure (.ok fs.clock, fs) :=
  rfl

end Run

end EntitySchema.Workspace
