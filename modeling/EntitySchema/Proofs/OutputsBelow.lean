import EntitySchema.Proofs.Regeneration
import EntitySchema.Proofs.Registration
import EntitySchema.Proofs.OutputNames

/-!
# Generated files stay below their destination

A path is read as components: the root, the current directory, the parent, or a plain name.
Joining a path of plain names to a directory appends its components to the directory's, and a
file name without separators that is neither `.` nor `..` is one plain name.

A schema document names its entity by an identifier and gives its subdirectory, if any, as a
nonempty relative path of plain names; the registry loaded from documents keeps both, and so
does every entity resolved from it. So every file a generator reports for such a model, each
entity's file and the module file, lies strictly below the destination: its components are the
destination's followed by one or more plain names (`writeModel_paths_below`). No written path
is absolute outside the destination, none passes through `..`, and none is the destination
itself.
-/

namespace EntitySchema

open Workspace Emit Target

/-! ### Components of joined paths -/

namespace Path

/-- `p` lies strictly below `dst`: its components are those of `dst` followed by one or more
plain names. -/
def IsBelow (dst p : String) : Prop :=
  ∃ rest : List Component, rest ≠ [] ∧ rest.all Component.isNormal ∧
    components p = components dst ++ rest

theorem pieces_append_slash (a b : String) : pieces (a ++ "/" ++ b) = pieces a ++ pieces b := by
  have h : (a ++ "/" ++ b).toList = a.toList ++ '/' :: b.toList := by simp
  rw [pieces, h, List.splitOn_append_cons_self, List.map_append]
  rfl

theorem pieces_ne_nil (p : String) : pieces p ≠ [] := by simp [pieces]

@[simp] theorem pieces_empty : pieces "" = [""] := by simp [pieces]

theorem pieces_append_slash_empty (a : String) : pieces (a ++ "/") = pieces a ++ [""] := by
  simpa using pieces_append_slash a ""

theorem startsWith_slash_iff (p : String) : p.startsWith "/" = true ↔ p.toList.head? = some '/' := by
  rw [String.startsWith_string_iff]
  cases p.toList <;> simp [eq_comm]

@[simp] theorem pieceComponent_empty : pieceComponent "" = none := rfl

theorem leading_append_slash (a b : String) : leading (a ++ "/" ++ b) = leading (a ++ "/") := by
  have hstart : (a ++ "/" ++ b).startsWith "/" = (a ++ "/").startsWith "/" := by
    rw [Bool.eq_iff_iff, startsWith_slash_iff, startsWith_slash_iff]
    cases a.toList <;> simp
  obtain ⟨x, xs, hx⟩ := List.exists_cons_of_ne_nil (pieces_ne_nil a)
  unfold leading
  rw [hstart, pieces_append_slash, pieces_append_slash_empty, hx]
  by_cases hdot : x = "." <;> simp [hdot]

theorem leading_append_slash_of_ne {a : String} (ha : a ≠ "") : leading (a ++ "/") = leading a := by
  have hne : a.toList ≠ [] := by simpa using ha
  have hstart : (a ++ "/").startsWith "/" = a.startsWith "/" := by
    rw [Bool.eq_iff_iff, startsWith_slash_iff, startsWith_slash_iff]
    obtain ⟨c, cs, hc⟩ := List.exists_cons_of_ne_nil hne
    simp [hc]
  obtain ⟨x, xs, hx⟩ := List.exists_cons_of_ne_nil (pieces_ne_nil a)
  unfold leading
  rw [hstart, pieces_append_slash_empty, hx]
  by_cases hdot : x = "." <;> simp [hdot]

theorem components_append_slash (a b : String) :
    components (a ++ "/" ++ b) = components (a ++ "/") ++ (pieces b).filterMap pieceComponent := by
  rw [components, components, leading_append_slash, pieces_append_slash,
    pieces_append_slash_empty, List.filterMap_append, List.filterMap_append, List.append_assoc]
  simp

theorem components_append_slash_of_ne {a : String} (ha : a ≠ "") :
    components (a ++ "/") = components a := by
  rw [components, components, leading_append_slash_of_ne ha, pieces_append_slash_empty,
    List.filterMap_append]
  simp

theorem components_empty : components "" = [] := by
  have hstart : "".startsWith "/" = false := by
    cases h : "".startsWith "/"
    · rfl
    · simp at h
  simp [components, leading, hstart]

theorem leading_eq_nil {b : String} (hb : (components b).all Component.isNormal) :
    leading b = [] := by
  have hlead : (leading b).all Component.isNormal := by
    simp only [components, List.all_append, Bool.and_eq_true] at hb
    exact hb.1
  revert hlead
  unfold leading
  split
  · simp [Component.isNormal]
  · split <;> simp [Component.isNormal]

theorem isAbsolute_eq_false_of_normal {b : String} (hb : (components b).all Component.isNormal) :
    isAbsolute b = false := by
  have hlead := leading_eq_nil hb
  unfold leading at hlead
  cases h : b.startsWith "/"
  · exact h
  · simp [h] at hlead

theorem components_join (a : String) {b : String} (hb : (components b).all Component.isNormal) :
    components (join a b) = components a ++ components b := by
  have hbody : components b = (pieces b).filterMap pieceComponent := by
    rw [components, leading_eq_nil hb, List.nil_append]
  unfold join
  rw [isAbsolute_eq_false_of_normal hb]
  simp only [Bool.false_eq_true, ↓reduceIte]
  split
  · rename_i hempty
    rw [String.isEmpty_iff.1 hempty, components_empty, List.nil_append]
  · split
    · rename_i _ hend
      have hsuf : ['/'] <:+ a.toList := by
        have hslice : a.toSlice.endsWith "/" = true := hend
        simpa using String.Slice.endsWith_string_iff.1 hslice
      obtain ⟨t, ht⟩ := hsuf
      have ha : a = String.ofList t ++ "/" := by
        apply String.toList_inj.1
        simp [← ht]
      rw [ha, components_append_slash, hbody]
    · rename_i hempty _
      have ha : a ≠ "" := fun h => by simp [h] at hempty
      rw [components_append_slash, components_append_slash_of_ne ha, hbody]

theorem components_of_name {n : String} (hslash : '/' ∉ n.toList) (hne : n ≠ "") (hdot : n ≠ ".")
    (hdots : n ≠ "..") : components n = [.normal n] := by
  have hpieces : pieces n = [n] := by
    rw [pieces, List.splitOn_eq_singleton hslash]
    simp
  have hstart : n.startsWith "/" = false := by
    cases h : n.startsWith "/"
    · rfl
    · rw [startsWith_slash_iff] at h
      exact absurd (List.mem_of_head? h) hslash
  simp [components, leading, hstart, hpieces, pieceComponent, hne, hdot, hdots]

theorem all_normal_of_isPlainRelativePath {sd : String} (h : isPlainRelativePath sd = true) :
    (components sd).all Component.isNormal := by
  simp only [isPlainRelativePath, Bool.and_eq_true] at h
  exact h.2

end Path

/-! ### What parsing guarantees -/

/-- The name of a declaration is an identifier, and its subdirectory, if any, a nonempty
relative path of plain names. -/
def EntityDecl.Placeable (d : EntityDecl) : Prop :=
  isIdentifier d.name = true ∧ ∀ sd, d.subdir = some sd → isPlainRelativePath sd = true

theorem Except.bind_eq_ok {ε α β : Type} {x : Except ε α} {f : α → Except ε β} {b : β} :
    x >>= f = .ok b ↔ ∃ a, x = .ok a ∧ f a = .ok b := by
  cases x <;> simp [bind, Except.bind]

theorem require_eq_ok {document message : String} {ok : Bool} {u : Unit}
    (h : require document ok message = .ok u) : ok = true := by
  cases ok
  · cases h
  · rfl

theorem requireIfSome_eq_ok {document : String} {value : Option String} {ok : String → Bool}
    {message : String → String} {u : Unit} (h : requireIfSome document value ok message = .ok u) :
    ∀ v, value = some v → ok v = true := by
  rintro v rfl
  exact require_eq_ok h

/-- A declaration that a layout passes is placeable: the name and subdirectory checks ran on
the very values the declaration keeps. -/
theorem Layout.toDecl_placeable {s : Spellings} {document : String} {raw : Layout} {d : EntityDecl}
    (h : raw.toDecl s document = .ok d) : d.Placeable := by
  unfold Layout.toDecl at h
  cases hn : (raw.name <|> Path.fileStem? document) with
  | none => simp [hn] at h
  | some name =>
    simp only [hn] at h
    obtain ⟨_, hid, h⟩ := Except.bind_eq_ok.1 h
    obtain ⟨_, -, h⟩ := Except.bind_eq_ok.1 h
    obtain ⟨_, -, h⟩ := Except.bind_eq_ok.1 h
    obtain ⟨_, -, h⟩ := Except.bind_eq_ok.1 h
    obtain ⟨_, -, h⟩ := Except.bind_eq_ok.1 h
    obtain ⟨_, -, h⟩ := Except.bind_eq_ok.1 h
    obtain ⟨_, -, h⟩ := Except.bind_eq_ok.1 h
    obtain ⟨_, hsub, h⟩ := Except.bind_eq_ok.1 h
    obtain ⟨_, -, h⟩ := Except.bind_eq_ok.1 h
    obtain ⟨_, -, h⟩ := Except.bind_eq_ok.1 h
    cases h
    exact ⟨require_eq_ok hid, requireIfSome_eq_ok hsub⟩

theorem readDocument_placeable {s : Spellings} {document content : String} {d : EntityDecl}
    (h : s.readDocument document content = .ok d) : d.Placeable := by
  unfold Spellings.readDocument at h
  split at h
  · exact Layout.toDecl_placeable h
  · cases h

namespace Registry

variable {s : Spellings}

theorem load_placeable {docs : List (String × String)} {r : Registry} (h : load s docs = .ok r) :
    ∀ d ∈ r.decls, d.Placeable := by
  intro d hd
  obtain ⟨doc, -, hread⟩ := exists_read_of_mem_load h hd
  exact readDocument_placeable hread

theorem exists_decl_of_mem_entities {o : ResolveOptions} {r : Registry} {m : Model}
    (h : r.resolve o = .ok m) {e : ResolvedEntity} (he : e ∈ m.entities) :
    ∃ d ∈ r.decls, e.name = d.name ∧ e.subdir = d.subdir := by
  obtain ⟨k, hk⟩ := List.getElem?_of_mem he
  obtain ⟨d, hd, -, rfl⟩ := entity_of_getElem? h hk
  exact ⟨d, hd, rfl, rfl⟩

end Registry

/-! ### Output paths -/

namespace Emit

variable {g : Generator} {e : ResolvedEntity}

theorem getLast?_fileName (g : Generator) (e : ResolvedEntity) :
    ∃ c, (g.fileName e).toList.getLast? = some c ∧ c ≠ '.' := by
  cases hl : g.language <;> simp [Generator.fileName, hl, Language.extension, List.getLast?_append]

theorem components_fileName (g : Generator) (he : isIdentifier e.name = true) :
    Path.components (g.fileName e) = [.normal (g.fileName e)] := by
  obtain ⟨c, hc, hdot⟩ := getLast?_fileName g e
  have hslash : '/' ∉ (g.fileName e).toList := by
    by_cases hg : g.language = .rust
    · have hfile : g.fileName e = rustModuleName e.name ++ ".rs" := by
        simp [Generator.fileName, hg]
      rw [hfile]
      exact slash_not_mem_rustFile he
    · exact slash_not_mem_fileName hg he
  refine Path.components_of_name hslash ?_ ?_ ?_ <;> intro h <;> rw [h] at hc
  · cases hc
  · exact hdot (Option.some.inj hc).symm
  · exact hdot (Option.some.inj hc).symm

theorem components_outputDir (g : Generator) (dst : String)
    (hsub : ∀ sd, e.subdir = some sd → isPlainRelativePath sd = true) :
    ∃ rest : List Path.Component, rest.all Path.Component.isNormal ∧
      Path.components (g.outputDir e dst) = Path.components dst ++ rest := by
  have hjoin : ∀ sd, e.subdir = some sd → ∃ rest : List Path.Component,
      rest.all Path.Component.isNormal ∧
        Path.components (Path.join dst sd) = Path.components dst ++ rest := fun sd hsd =>
    have hnormal := Path.all_normal_of_isPlainRelativePath (hsub sd hsd)
    ⟨_, hnormal, Path.components_join dst hnormal⟩
  unfold Generator.outputDir
  split
  all_goals first
    | exact ⟨[], rfl, (List.append_nil _).symm⟩
    | rename_i sd hsd _
      exact hjoin sd hsd

/-- The file of an entity named by an identifier, in a subdirectory of plain names if any, lies
strictly below the destination. -/
theorem outputPath_isBelow (he : isIdentifier e.name = true)
    (hsub : ∀ sd, e.subdir = some sd → isPlainRelativePath sd = true) (dst : String) :
    Path.IsBelow dst (g.outputPath e dst) := by
  obtain ⟨rest, hrest, hdir⟩ := components_outputDir g dst hsub
  have hfile := components_fileName g he
  refine ⟨rest ++ [.normal (g.fileName e)], by simp, ?_, ?_⟩
  · simp [hrest, Path.Component.isNormal]
  · rw [Generator.outputPath, Path.components_join _ (by simp [hfile, Path.Component.isNormal]),
      hdir, hfile, List.append_assoc]

theorem moduleFile_isBelow (dst : String) : Path.IsBelow dst (Path.join dst "mod.rs") := by
  have hmod : Path.components "mod.rs" = [.normal "mod.rs"] :=
    Path.components_of_name (by decide) (by decide) (by decide) (by decide)
  exact ⟨[.normal "mod.rs"], by simp, rfl,
    by rw [Path.components_join _ (by simp [hmod, Path.Component.isNormal]), hmod]⟩

namespace Generator

variable (g : Generator) (m : Model) (dst : String)

theorem foldlM_writeEntity_files_of_not_mem {q : String} :
    ∀ (es : List ResolvedEntity) {files : WrittenFiles} {r : Except Failure WrittenFiles}
      {fs fs' : FileMap},
      q ∉ es.map (g.outputPath · dst) →
      (es.foldlM (g.writeEntity m dst) files : ExceptT Failure FileSim _).run.run fs =
        pure (r, fs') →
      fs'.files q = fs.files q
  | [], _, _, _, _, _, h => by
    cases h
    rfl
  | e :: es, files, r, fs, fs', hq, h => by
    simp only [List.map_cons, List.mem_cons, not_or] at hq
    rw [List.foldlM_cons] at h
    rcases FileSim.bind_cases h with ⟨_, h₁, -⟩ | ⟨files₁, fs₁, h₁, hrest⟩
    · exact writeEntity_files_of_ne g m dst h₁ hq.1
    · rw [foldlM_writeEntity_files_of_not_mem es hq.2 hrest]
      exact writeEntity_files_of_ne g m dst h₁ hq.1

/-- A run writes only the files it reports, whether it succeeds or fails at a directory where a
file stands. -/
theorem writeModel_files_of_not_mem {fs fs' : FileMap} {r : Except Failure WrittenFiles}
    (h : (g.writeModel m dst : ExceptT Failure FileSim _).run.run fs = pure (r, fs'))
    {q : String} (hq : q ∉ g.reportedPaths m dst) : fs'.files q = fs.files q := by
  rw [writeModel_run] at h
  simp only [reportedPaths, List.mem_append, not_or] at hq
  rcases FileSim.bind_cases h with ⟨_, hloop, -⟩ | ⟨files₁, fs₁, hloop, hmod⟩
  · exact foldlM_writeEntity_files_of_not_mem g m dst _ hq.1 hloop
  · obtain ⟨w, u, fs₂, hrun, -, hkeep, -⟩ := writeModuleFile_ok g m dst files₁ fs₁
    rw [hrun] at hmod
    cases hmod
    rw [hkeep q hq.2, foldlM_writeEntity_files_of_not_mem g m dst _ hq.1 hloop]

end Generator

section Loaded

variable {s : Spellings} {docs : List (String × String)} {o : ResolveOptions} {r : Registry}
  {m : Model}

theorem reportedPaths_isBelow (hload : Registry.load s docs = .ok r) (hres : r.resolve o = .ok m)
    (g : Generator) (dst : String) : ∀ p ∈ g.reportedPaths m dst, Path.IsBelow dst p := by
  intro p hp
  simp only [Generator.reportedPaths, List.mem_append, List.mem_map] at hp
  rcases hp with ⟨e, he, rfl⟩ | ⟨_, -, rfl⟩
  · obtain ⟨d, hd, hname, hsub⟩ := Registry.exists_decl_of_mem_entities hres he
    obtain ⟨hid, hplain⟩ := Registry.load_placeable hload d hd
    exact outputPath_isBelow (hname ▸ hid) (hsub ▸ hplain) dst
  · exact moduleFile_isBelow dst

/-- For a model resolved from schema documents, every file a run changes lies strictly below the
destination, also when the run fails at a directory where a file stands. -/
theorem writeModel_changes_isBelow (hload : Registry.load s docs = .ok r)
    (hres : r.resolve o = .ok m) (g : Generator) (dst : String) {fs fs' : FileMap}
    {res : Except Failure WrittenFiles}
    (hrun : (g.writeModel m dst : ExceptT Failure FileSim _).run.run fs = pure (res, fs'))
    (q : String) (hq : fs'.files q ≠ fs.files q) : Path.IsBelow dst q := by
  by_contra hbelow
  exact hq (g.writeModel_files_of_not_mem m dst hrun fun hmem =>
    hbelow (reportedPaths_isBelow hload hres g dst q hmem))

end Loaded

/-- Every file a generator reports or writes for a model resolved from schema documents lies
strictly below the destination: each entity's file and the module file are the destination
followed by one or more plain names. -/
theorem writeModel_paths_below (s : Spellings) (docs : List (String × String))
    (o : ResolveOptions) {r : Registry} {m : Model} (hload : Registry.load s docs = .ok r)
    (hres : r.resolve o = .ok m) (g : Generator) (dst : String) :
    (∀ p ∈ g.reportedPaths m dst, Path.IsBelow dst p) ∧
      ∀ (fs fs' : FileMap) (files : WrittenFiles),
        (g.writeModel m dst : ExceptT Failure FileSim _).run.run fs = pure (.ok files, fs') →
        (∀ p ∈ files.written ++ files.unchanged, Path.IsBelow dst p) ∧
          ∀ q, fs'.files q ≠ fs.files q → Path.IsBelow dst q := by
  have hreported := reportedPaths_isBelow hload hres g dst
  refine ⟨hreported, fun fs fs' files hrun => ⟨fun p hp => ?_, ?_⟩⟩
  · exact hreported p ((g.writeModel_reports m dst hrun).1.subset hp)
  · exact writeModel_changes_isBelow hload hres g dst hrun

/-- A leaf in its own subdirectory loads and resolves, so its files lie below the destination. -/
theorem leafDocument_paths_below :
    ∃ r m, Registry.load Spellings.standard
        [("Leaf.json", "\x7b\"name\": \"Leaf\", \"subdir\": \"sub\"\x7d")] = .ok r ∧
      r.resolve {} = .ok m ∧
      ∀ p ∈ ({ language := .cpp } : Generator).reportedPaths m "out", Path.IsBelow "out" p := by
  have hload := Registry.load_eq (s := Spellings.standard)
    [("Leaf.json", "\x7b\"name\": \"Leaf\", \"subdir\": \"sub\"\x7d")]
  rw [if_pos (by decide +kernel)] at hload
  have hruns : ((⟨Registry.readable Spellings.standard
      [("Leaf.json", "\x7b\"name\": \"Leaf\", \"subdir\": \"sub\"\x7d")]⟩ : Registry).resolve
        {}).toOption.isSome := by
    decide +kernel
  cases hm : (⟨Registry.readable Spellings.standard
      [("Leaf.json", "\x7b\"name\": \"Leaf\", \"subdir\": \"sub\"\x7d")]⟩ : Registry).resolve {} with
  | error _ => simp [hm, Except.toOption] at hruns
  | ok m => exact ⟨_, m, hload, hm, (writeModel_paths_below _ _ _ hload hm _ _).1⟩

end Emit

end EntitySchema
