import Mathlib.Data.List.Nodup
import EntitySchema.Proofs.FingerprintLine
import EntitySchema.Workspace.FileMap

/-!
# Writing a model twice

On a file system held as a map from paths to contents, writing a model reports each entity's
file once, in emission order, and the module file last. An entity's file is left alone exactly
when it carries the entity's fingerprint already; otherwise it receives the entity's rendering,
which carries the fingerprint. As long as no two reported files share a path, every file then
carries its fingerprint and the module file has its text, so writing the model again, at any
time, writes nothing, reports every file unchanged and leaves the file system as it is.

Two entities whose files share a path break this: both are reported, and every run writes the
shared file twice.
-/

namespace EntitySchema.Emit

open EntitySchema.Workspace

namespace Generator

/-- The files a run reports, in order: each entity's file, then the module file if the
language has one. -/
def reportedPaths (g : Generator) (m : Model) (dst : String) : List String :=
  m.entities.map (g.outputPath · dst) ++ (g.moduleFile m).toList.map fun _ => Path.join dst "mod.rs"

/-- Whether the file of `e` carries the entity's fingerprint, so that a run leaves it alone. -/
def isCurrent (g : Generator) (m : Model) (dst : String) (fs : FileMap) (e : ResolvedEntity) :
    Bool :=
  (fs.text? (g.outputPath e dst)).any (occursIn (fingerprintLabel ++ g.fingerprint e m))

/-- The file map after the files of `es` are written in order, rendered at time `clock`. -/
def writeFiles (g : Generator) (m : Model) (dst clock : String) (es : List ResolvedEntity)
    (fs : FileMap) : FileMap :=
  es.foldl (fun fs e => fs.write (g.outputPath e dst) (g.generateEntity e m clock).toUTF8) fs

variable (g : Generator) (m : Model) (dst : String)

theorem writeFiles_cons (clock : String) (e : ResolvedEntity) (es : List ResolvedEntity)
    (fs : FileMap) :
    g.writeFiles m dst clock (e :: es) fs =
      g.writeFiles m dst clock es (fs.write (g.outputPath e dst) (g.generateEntity e m clock).toUTF8) :=
  rfl

theorem isCurrent_congr {fs fs' : FileMap} {e : ResolvedEntity}
    (h : fs'.files (g.outputPath e dst) = fs.files (g.outputPath e dst)) :
    g.isCurrent m dst fs' e = g.isCurrent m dst fs e := by
  simp only [isCurrent, FileMap.text?, h]

theorem isCurrent_write_generate (fs : FileMap) (e : ResolvedEntity) (clock : String) :
    g.isCurrent m dst (fs.write (g.outputPath e dst) (g.generateEntity e m clock).toUTF8) e = true := by
  simp only [isCurrent, FileMap.text?_write_self, Option.any_some]
  exact occursIn_generateEntity g e m clock

@[simp] theorem writeFiles_clock (clock : String) :
    ∀ (es : List ResolvedEntity) (fs : FileMap), (g.writeFiles m dst clock es fs).clock = fs.clock
  | [], _ => rfl
  | e :: es, fs => by
    rw [writeFiles_cons, writeFiles_clock clock es, FileMap.write_clock]

theorem writeFiles_files_of_not_mem (clock : String) {q : String} :
    ∀ (es : List ResolvedEntity) (fs : FileMap), q ∉ es.map (g.outputPath · dst) →
      (g.writeFiles m dst clock es fs).files q = fs.files q
  | [], _, _ => rfl
  | e :: es, fs, hq => by
    simp only [List.map_cons, List.mem_cons, not_or] at hq
    rw [writeFiles_cons, writeFiles_files_of_not_mem clock es _ hq.2, FileMap.write_files_of_ne _ _ hq.1]

theorem writeFiles_files_of_mem (clock : String) :
    ∀ (es : List ResolvedEntity) (fs : FileMap), (es.map (g.outputPath · dst)).Nodup →
      ∀ e ∈ es, (g.writeFiles m dst clock es fs).files (g.outputPath e dst) =
        some (g.generateEntity e m clock).toUTF8
  | e' :: es, fs, hnodup, e, he => by
    simp only [List.map_cons, List.nodup_cons] at hnodup
    rw [writeFiles_cons]
    rcases List.mem_cons.1 he with rfl | he
    · rw [writeFiles_files_of_not_mem g m dst clock es _ hnodup.1, FileMap.write_files_self]
    · exact writeFiles_files_of_mem clock es _ hnodup.2 e he

theorem mem_filter_of_outputPath_mem {es : List ResolvedEntity} {p : ResolvedEntity → Bool}
    (hnodup : (es.map (g.outputPath · dst)).Nodup) {e : ResolvedEntity} (he : e ∈ es)
    (h : g.outputPath e dst ∈ (es.filter p).map (g.outputPath · dst)) : p e = true := by
  obtain ⟨e', he', heq⟩ := List.mem_map.1 h
  have hmem := List.mem_filter.1 he'
  rw [List.inj_on_of_nodup_map hnodup he hmem.1 heq.symm]
  exact hmem.2

/-! ### One entity -/

theorem carriesFingerprint_run (p fp : String) (fs : FileMap) :
    (carriesFingerprint p fp : ExceptT Failure FileSim Bool).run.run fs =
      pure (.ok ((fs.text? p).any (occursIn (fingerprintLabel ++ fp))), fs) := by
  obtain ⟨r, hr, hopt⟩ := @readText_run Failure p fs
  simp only [carriesFingerprint, ExceptT.run_bind, StateT.run_bind, hr, ← hopt]
  cases r <;> rfl

/-- An entity's file is left alone when current, refused when a file stands where its directory
goes, and written otherwise. -/
theorem writeEntity_run (files : WrittenFiles) (e : ResolvedEntity) (fs : FileMap) :
    (g.writeEntity m dst files e : ExceptT Failure FileSim _).run.run fs =
      pure (if g.isCurrent m dst fs e then
          (.ok { files with unchanged := files.unchanged ++ [g.outputPath e dst] }, fs)
        else if (Path.parent? (g.outputPath e dst)).any fs.blocked then
          (.error ((Failure.ofIo .alreadyExists).context
            ("Failed to create output directory: " ++ (Path.parent? (g.outputPath e dst)).getD "")), fs)
        else
          (.ok { files with written := files.written ++ [g.outputPath e dst] },
            fs.write (g.outputPath e dst) (g.generateEntity e m fs.clock).toUTF8)) := by
  have hcarries : (carriesFingerprint (g.outputPath e dst) (g.fingerprint e m) :
      ExceptT Failure FileSim Bool).run.run fs = pure (.ok (g.isCurrent m dst fs e), fs) :=
    carriesFingerprint_run _ _ fs
  unfold writeEntity
  rw [ExceptT.run_bind, StateT.run_bind, hcarries]
  cases hc : g.isCurrent m dst fs e
  · cases hp : Path.parent? (g.outputPath e dst) with
    | none => rfl
    | some dir =>
      simp only [pure_bind]
      rw [if_neg Bool.false_ne_true, if_neg Bool.false_ne_true, ExceptT.run_bind, StateT.run_bind,
        createDirAll_run, Option.any_some]
      cases fs.blocked dir <;> rfl
  · rfl

theorem writeEntity_ok {files files' : WrittenFiles} {e : ResolvedEntity} {fs fs' : FileMap}
    (h : (g.writeEntity m dst files e : ExceptT Failure FileSim _).run.run fs = pure (.ok files', fs')) :
    (g.isCurrent m dst fs e = true ∧
        files' = { files with unchanged := files.unchanged ++ [g.outputPath e dst] } ∧ fs' = fs) ∨
      (g.isCurrent m dst fs e = false ∧
        files' = { files with written := files.written ++ [g.outputPath e dst] } ∧
        fs' = fs.write (g.outputPath e dst) (g.generateEntity e m fs.clock).toUTF8) := by
  rw [writeEntity_run] at h
  by_cases hc : g.isCurrent m dst fs e = true
  · rw [if_pos hc] at h
    cases h
    exact .inl ⟨hc, rfl, rfl⟩
  · rw [if_neg hc] at h
    split at h
    · cases h
    · cases h
      exact .inr ⟨by simpa using hc, rfl, rfl⟩

/-- A step fails only where a file stands at the directory of the entity's file, and then
leaves the map as it was. -/
theorem writeEntity_error {files : WrittenFiles} {e : ResolvedEntity} {fs fs' : FileMap}
    {f : Failure}
    (h : (g.writeEntity m dst files e : ExceptT Failure FileSim _).run.run fs = pure (.error f, fs')) :
    fs' = fs ∧ ∃ dir, Path.parent? (g.outputPath e dst) = some dir ∧ fs.blocked dir = true ∧
      f = (Failure.ofIo .alreadyExists).context ("Failed to create output directory: " ++ dir) := by
  rw [writeEntity_run] at h
  split at h
  · cases h
  · split at h
    · next hblocked =>
      cases h
      obtain ⟨dir, hdir, hb⟩ := (Option.any_eq_true _ _).1 hblocked
      exact ⟨rfl, dir, hdir, hb, by rw [hdir]; rfl⟩
    · cases h

theorem writeEntity_files_of_ne {files : WrittenFiles} {e : ResolvedEntity} {fs fs' : FileMap}
    {r : Except Failure WrittenFiles}
    (h : (g.writeEntity m dst files e : ExceptT Failure FileSim _).run.run fs = pure (r, fs'))
    {q : String} (hq : q ≠ g.outputPath e dst) : fs'.files q = fs.files q := by
  rw [writeEntity_run] at h
  split at h
  · cases h
    rfl
  · split at h
    · cases h
      rfl
    · cases h
      exact FileMap.write_files_of_ne _ _ hq

/-! ### The entity loop -/

/-- Each entity is reported once, as written or as unchanged, in order, collisions or not. -/
theorem foldlM_writeEntity_reports :
    ∀ (es : List ResolvedEntity) {files files' : WrittenFiles} {fs fs' : FileMap},
      (es.foldlM (g.writeEntity m dst) files : ExceptT Failure FileSim _).run.run fs =
        pure (.ok files', fs') →
      ∃ ws us, files'.written = files.written ++ ws ∧ files'.unchanged = files.unchanged ++ us ∧
        (ws ++ us).Perm (es.map (g.outputPath · dst)) ∧
        ws.Sublist (es.map (g.outputPath · dst)) ∧ us.Sublist (es.map (g.outputPath · dst))
  | [], files, files', fs, fs', h => by
    cases h
    exact ⟨[], [], by simp, by simp, by simp, by simp, by simp⟩
  | e :: es, files, files', fs, fs', h => by
    rw [List.foldlM_cons] at h
    obtain ⟨files₁, fs₁, h₁, hrest⟩ := FileSim.bind_ok h
    obtain ⟨ws, us, hw, hu, hperm, hws, hus⟩ := foldlM_writeEntity_reports es hrest
    rcases writeEntity_ok g m dst h₁ with ⟨-, rfl, -⟩ | ⟨-, rfl, -⟩
    · refine ⟨ws, g.outputPath e dst :: us, hw, by simp [hu], ?_, hws.cons _, hus.cons_cons _⟩
      exact List.perm_middle.trans (hperm.cons _)
    · refine ⟨g.outputPath e dst :: ws, us, by simp [hw], hu, hperm.cons _, hws.cons_cons _, hus.cons _⟩

/-- Where the entities' paths are distinct, a run writes exactly the stale files, rendered at
the time it started, and reports the current ones unchanged. -/
theorem foldlM_writeEntity_eq :
    ∀ (es : List ResolvedEntity) {files files' : WrittenFiles} {fs fs' : FileMap},
      (es.map (g.outputPath · dst)).Nodup →
      (es.foldlM (g.writeEntity m dst) files : ExceptT Failure FileSim _).run.run fs =
        pure (.ok files', fs') →
      files'.written = files.written ++
          (es.filter (!g.isCurrent m dst fs ·)).map (g.outputPath · dst) ∧
        fs' = g.writeFiles m dst fs.clock (es.filter (!g.isCurrent m dst fs ·)) fs
  | [], files, files', fs, fs', _, h => by
    cases h
    exact ⟨by simp, rfl⟩
  | e :: es, files, files', fs, fs', hnodup, h => by
    simp only [List.map_cons, List.nodup_cons] at hnodup
    rw [List.foldlM_cons] at h
    obtain ⟨files₁, fs₁, h₁, hrest⟩ := FileSim.bind_ok h
    obtain ⟨hw, hfs⟩ := foldlM_writeEntity_eq es hnodup.2 hrest
    have hsame : ∀ e' ∈ es, fs₁.files (g.outputPath e' dst) = fs.files (g.outputPath e' dst) →
        g.isCurrent m dst fs₁ e' = g.isCurrent m dst fs e' := fun e' _ h => isCurrent_congr g m dst h
    rcases writeEntity_ok g m dst h₁ with ⟨hc, rfl, rfl⟩ | ⟨hc, rfl, rfl⟩
    · simp only [List.filter_cons, hc, Bool.not_true, Bool.false_eq_true, if_false]
      exact ⟨by simpa using hw, hfs⟩
    · have hfilter : es.filter (!g.isCurrent m dst (fs.write (g.outputPath e dst)
          (g.generateEntity e m fs.clock).toUTF8) ·) = es.filter (!g.isCurrent m dst fs ·) := by
        refine List.filter_congr fun e' he' => ?_
        rw [hsame e' he' (FileMap.write_files_of_ne _ _ fun h => hnodup.1 (h ▸ List.mem_map_of_mem he'))]
      simp only [List.filter_cons, hc, Bool.not_false, if_true, List.map_cons]
      rw [hfilter] at hw hfs
      rw [FileMap.write_clock] at hfs
      exact ⟨by simpa using hw, hfs⟩

theorem foldlM_writeEntity_of_current :
    ∀ (es : List ResolvedEntity) (files : WrittenFiles) (fs : FileMap),
      (∀ e ∈ es, g.isCurrent m dst fs e = true) →
      (es.foldlM (g.writeEntity m dst) files : ExceptT Failure FileSim _).run.run fs =
        pure (.ok { files with unchanged := files.unchanged ++ es.map (g.outputPath · dst) }, fs)
  | [], files, fs, _ => by simp
  | e :: es, files, fs, hcur => by
    rw [List.foldlM_cons, ExceptT.run_bind, StateT.run_bind, writeEntity_run,
      if_pos (hcur e List.mem_cons_self)]
    simp only [pure_bind]
    rw [foldlM_writeEntity_of_current es _ fs fun e' he' => hcur e' (List.mem_cons_of_mem e he')]
    simp

theorem foldlM_writeEntity_ok :
    ∀ (es : List ResolvedEntity) (files : WrittenFiles) (fs : FileMap),
      (∀ e ∈ es, ∀ dir ∈ Path.parent? (g.outputPath e dst),
        fs.files dir = none ∧ dir ∉ es.map (g.outputPath · dst)) →
      ∃ files' fs', (es.foldlM (g.writeEntity m dst) files : ExceptT Failure FileSim _).run.run fs =
        pure (.ok files', fs')
  | [], files, fs, _ => ⟨files, fs, rfl⟩
  | e :: es, files, fs, hdirs => by
    have hfree : ((Path.parent? (g.outputPath e dst)).any fs.blocked) = false := by
      cases hp : Path.parent? (g.outputPath e dst) with
      | none => rfl
      | some dir =>
        simp [FileMap.blocked, (hdirs e List.mem_cons_self dir hp).1]
    obtain ⟨files₁, fs₁, h₁⟩ : ∃ files₁ fs₁,
        (g.writeEntity m dst files e : ExceptT Failure FileSim _).run.run fs = pure (.ok files₁, fs₁) := by
      rw [writeEntity_run, hfree]
      split <;> exact ⟨_, _, rfl⟩
    have hdirs' : ∀ e' ∈ es, ∀ dir ∈ Path.parent? (g.outputPath e' dst),
        fs₁.files dir = none ∧ dir ∉ es.map (g.outputPath · dst) := by
      intro e' he' dir hdir
      obtain ⟨hnone, hnot⟩ := hdirs e' (List.mem_cons_of_mem e he') dir hdir
      simp only [List.map_cons, List.mem_cons, not_or] at hnot
      exact ⟨(writeEntity_files_of_ne g m dst h₁ hnot.1).trans hnone, hnot.2⟩
    obtain ⟨files', fs', hrest⟩ := foldlM_writeEntity_ok es files₁ fs₁ hdirs'
    refine ⟨files', fs', ?_⟩
    rw [List.foldlM_cons, ExceptT.run_bind, StateT.run_bind, h₁]
    exact hrest

theorem foldlM_writeEntity_error :
    ∀ (es : List ResolvedEntity) {files : WrittenFiles} {fs fs' : FileMap} {f : Failure},
      (es.foldlM (g.writeEntity m dst) files : ExceptT Failure FileSim _).run.run fs =
        pure (.error f, fs') →
      ∃ e ∈ es, ∃ dir, Path.parent? (g.outputPath e dst) = some dir ∧ fs'.blocked dir = true ∧
        f = (Failure.ofIo .alreadyExists).context ("Failed to create output directory: " ++ dir)
  | [], _, _, _, _, h => by cases h
  | e :: es, files, fs, fs', f, h => by
    rw [List.foldlM_cons] at h
    rcases FileSim.bind_cases h with ⟨err, h₁, hf⟩ | ⟨files₁, fs₁, -, hrest⟩
    · cases hf
      obtain ⟨rfl, dir, hdir, hb, hf⟩ := writeEntity_error g m dst h₁
      exact ⟨e, List.mem_cons_self, dir, hdir, hb, hf⟩
    · obtain ⟨e', he', hfail⟩ := foldlM_writeEntity_error es hrest
      exact ⟨e', List.mem_cons_of_mem e he', hfail⟩

/-! ### The module file -/

theorem writeModuleFile_run (files : WrittenFiles) (fs : FileMap) :
    (g.writeModuleFile m dst files : ExceptT Failure FileSim _).run.run fs =
      pure (match g.moduleFile m with
        | none => (.ok files, fs)
        | some text =>
          if fs.text? (Path.join dst "mod.rs") = some text then
            (.ok { files with unchanged := files.unchanged ++ [Path.join dst "mod.rs"] }, fs)
          else
            (.ok { files with written := files.written ++ [Path.join dst "mod.rs"] },
              fs.write (Path.join dst "mod.rs") text.toUTF8)) := by
  unfold writeModuleFile
  cases g.moduleFile m with
  | none => rfl
  | some text =>
    obtain ⟨r, hr, hopt⟩ := @readText_run Failure (Path.join dst "mod.rs") fs
    simp only [ExceptT.run_bind, StateT.run_bind, hr, pure_bind, hopt, beq_iff_eq]
    split
    · rfl
    · simp [ExceptT.run_bind, StateT.run_bind, writeText_run, orFail, Except.map]

/-- What writing the module file reports and leaves: it adds the module path when the language
has a module file, touches no other path, and leaves the module file with its text. -/
theorem writeModuleFile_ok (files : WrittenFiles) (fs : FileMap) :
    ∃ w u fs', (g.writeModuleFile m dst files : ExceptT Failure FileSim _).run.run fs =
        pure (.ok { written := files.written ++ w, unchanged := files.unchanged ++ u }, fs') ∧
      w ++ u = (g.moduleFile m).toList.map (fun _ => Path.join dst "mod.rs") ∧
      (∀ q ∉ (g.moduleFile m).toList.map (fun _ => Path.join dst "mod.rs"), fs'.files q = fs.files q) ∧
      ∀ text, g.moduleFile m = some text → fs'.text? (Path.join dst "mod.rs") = some text := by
  rw [writeModuleFile_run]
  cases g.moduleFile m with
  | none => exact ⟨[], [], fs, by simp, rfl, fun _ _ => rfl, by simp⟩
  | some text =>
    simp only
    split
    · exact ⟨[], [Path.join dst "mod.rs"], fs, by simp, rfl, fun _ _ => rfl,
        by simpa using ‹fs.text? _ = some text›⟩
    · exact ⟨[Path.join dst "mod.rs"], [], fs.write (Path.join dst "mod.rs") text.toUTF8, by simp, rfl,
        fun q hq => FileMap.write_files_of_ne _ _ (by simpa using hq),
        fun t ht => by cases ht; exact FileMap.text?_write_self _ _ _⟩

theorem writeModuleFile_of_current (files : WrittenFiles) (fs : FileMap)
    (h : ∀ text, g.moduleFile m = some text → fs.text? (Path.join dst "mod.rs") = some text) :
    (g.writeModuleFile m dst files : ExceptT Failure FileSim _).run.run fs =
      pure (.ok { files with unchanged := files.unchanged ++
        (g.moduleFile m).toList.map (fun _ => Path.join dst "mod.rs") }, fs) := by
  rw [writeModuleFile_run]
  cases hm : g.moduleFile m with
  | none => simp
  | some text => simp [h text hm]

/-! ### The whole model -/

/-- On a file map the destination always exists, so a run is the entity loop and the module
file. -/
theorem writeModel_run (fs : FileMap) :
    (g.writeModel m dst : ExceptT Failure FileSim _).run.run fs =
      (m.entities.foldlM (g.writeEntity m dst) {} >>= g.writeModuleFile m dst :
        ExceptT Failure FileSim _).run.run fs := by
  simp only [writeModel, ExceptT.run_bind, StateT.run_bind, pathExists_run, pure_bind]
  rfl

/-- A run succeeds when no directory it makes is a file, before the run or after one of its
writes. -/
theorem writeModel_ok (fs : FileMap)
    (hdirs : ∀ e ∈ m.entities, ∀ dir ∈ Path.parent? (g.outputPath e dst),
      fs.files dir = none ∧ dir ∉ m.entities.map (g.outputPath · dst)) :
    ∃ files fs', (g.writeModel m dst : ExceptT Failure FileSim _).run.run fs = pure (.ok files, fs') := by
  obtain ⟨files₁, fs₁, hloop⟩ := foldlM_writeEntity_ok g m dst m.entities {} fs hdirs
  obtain ⟨w, u, fs₂, hmod, -⟩ := writeModuleFile_ok g m dst files₁ fs₁
  refine ⟨{ written := files₁.written ++ w, unchanged := files₁.unchanged ++ u }, fs₂, ?_⟩
  rw [writeModel_run, ExceptT.run_bind, StateT.run_bind, hloop]
  exact hmod

/-- A run fails only where a file stands at the directory of an entity's file. -/
theorem writeModel_error {fs fs' : FileMap} {f : Failure}
    (h : (g.writeModel m dst : ExceptT Failure FileSim _).run.run fs = pure (.error f, fs')) :
    ∃ e ∈ m.entities, ∃ dir, Path.parent? (g.outputPath e dst) = some dir ∧
      fs'.blocked dir = true ∧
      f = (Failure.ofIo .alreadyExists).context ("Failed to create output directory: " ++ dir) := by
  rw [writeModel_run] at h
  rcases FileSim.bind_cases h with ⟨err, hloop, hf⟩ | ⟨files₁, fs₁, -, hmod⟩
  · cases hf
    exact foldlM_writeEntity_error g m dst _ hloop
  · obtain ⟨w, u, fs₂, hrun, -⟩ := writeModuleFile_ok g m dst files₁ fs₁
    rw [hrun] at hmod
    cases hmod

/-- Every run that succeeds reports each entity's file once and then the module file, as written
or as unchanged, each list in that order. Two entities with one path make it reported twice. -/
theorem writeModel_reports {fs fs' : FileMap} {files : WrittenFiles}
    (h : (g.writeModel m dst : ExceptT Failure FileSim _).run.run fs = pure (.ok files, fs')) :
    (files.written ++ files.unchanged).Perm (g.reportedPaths m dst) ∧
      files.written.Sublist (g.reportedPaths m dst) ∧
      files.unchanged.Sublist (g.reportedPaths m dst) := by
  rw [writeModel_run] at h
  obtain ⟨files₁, fs₁, hloop, hmod⟩ := FileSim.bind_ok h
  obtain ⟨ws, us, hw, hu, hperm, hws, hus⟩ := foldlM_writeEntity_reports g m dst _ hloop
  obtain ⟨w, u, fs₂, hrun, hwu, -⟩ := writeModuleFile_ok g m dst files₁ fs₁
  rw [hrun] at hmod
  cases hmod
  simp only [List.nil_append] at hw hu
  simp only [hw, hu, reportedPaths, ← hwu]
  refine ⟨?_, hws.append (List.sublist_append_left w u), hus.append (List.sublist_append_right w u)⟩
  have hswap : (ws ++ w ++ (us ++ u)).Perm (ws ++ us ++ (w ++ u)) := by
    simpa only [List.append_assoc] using (List.perm_append_comm_assoc w us u).append_left ws
  exact hswap.trans (hperm.append_right _)

/-- Where the reported paths are distinct, a run that succeeds leaves each entity's file as it
was if it was current, and with the entity's rendering at the run's time otherwise; the module
file is left with its text. -/
theorem writeModel_leaves {fs fs' : FileMap} {files : WrittenFiles}
    (hpaths : (g.reportedPaths m dst).Nodup)
    (h : (g.writeModel m dst : ExceptT Failure FileSim _).run.run fs = pure (.ok files, fs')) :
    (∀ e ∈ m.entities, (g.outputPath e dst ∈ files.written ↔ g.isCurrent m dst fs e = false) ∧
      fs'.files (g.outputPath e dst) = if g.isCurrent m dst fs e then fs.files (g.outputPath e dst)
        else some (g.generateEntity e m fs.clock).toUTF8) ∧
    ∀ text, g.moduleFile m = some text → fs'.text? (Path.join dst "mod.rs") = some text := by
  obtain ⟨hnodup, -, hdisj⟩ := List.nodup_append.1 hpaths
  rw [writeModel_run] at h
  obtain ⟨files₁, fs₁, hloop, hmod⟩ := FileSim.bind_ok h
  obtain ⟨hw, hfs⟩ := foldlM_writeEntity_eq g m dst _ hnodup hloop
  obtain ⟨w, u, fs₂, hrun, hwu, hframe, htext⟩ := writeModuleFile_ok g m dst files₁ fs₁
  rw [hrun] at hmod
  cases hmod
  refine ⟨fun e he => ?_, htext⟩
  have hmods : g.outputPath e dst ∉ (g.moduleFile m).toList.map (fun _ => Path.join dst "mod.rs") :=
    fun hin => hdisj _ (List.mem_map_of_mem he) _ hin rfl
  have hw' : g.outputPath e dst ∉ w := fun hin =>
    hmods (hwu ▸ List.mem_append_left u hin)
  have hstale : (((m.entities.filter (!g.isCurrent m dst fs ·)).map (g.outputPath · dst))).Nodup :=
    hnodup.sublist ((List.filter_sublist).map _)
  simp only [hframe _ hmods, hfs, hw, List.nil_append, List.mem_append, hw', or_false]
  cases hc : g.isCurrent m dst fs e
  · have hin : e ∈ m.entities.filter (!g.isCurrent m dst fs ·) := List.mem_filter.2 ⟨he, by simp [hc]⟩
    exact ⟨by simpa using List.mem_map_of_mem hin,
      writeFiles_files_of_mem g m dst fs.clock _ fs hstale e hin⟩
  · have hout : g.outputPath e dst ∉ (m.entities.filter (!g.isCurrent m dst fs ·)).map (g.outputPath · dst) :=
      fun hin => by simpa [hc] using mem_filter_of_outputPath_mem g dst hnodup he hin
    exact ⟨by simpa using hout, writeFiles_files_of_not_mem g m dst fs.clock _ fs hout⟩

/-- A file map on which every entity's file is current and the module file has its text is left
as it is, and every file is reported unchanged. -/
theorem writeModel_of_current {fs : FileMap}
    (hcur : ∀ e ∈ m.entities, g.isCurrent m dst fs e = true)
    (hmod : ∀ text, g.moduleFile m = some text → fs.text? (Path.join dst "mod.rs") = some text) :
    (g.writeModel m dst : ExceptT Failure FileSim _).run.run fs =
      pure (.ok { unchanged := g.reportedPaths m dst }, fs) := by
  rw [writeModel_run, ExceptT.run_bind, StateT.run_bind,
    foldlM_writeEntity_of_current g m dst _ _ _ hcur]
  simp only [pure_bind]
  rw [writeModuleFile_of_current g m dst _ _ hmod]
  simp [reportedPaths]

/-- A run that succeeds on a file map whose reported paths are distinct reports each path once,
in order; leaves every entity's file carrying its fingerprint, and holding the entity's
rendering at the run's time wherever it was written; and a second run, at any time, writes
nothing, reports every path unchanged and leaves the file map as it is. -/
theorem writeModel_settles {fs₀ fs₁ : FileMap} {files : WrittenFiles}
    (hpaths : (g.reportedPaths m dst).Nodup)
    (hrun : (g.writeModel m dst : ExceptT Failure FileSim _).run.run fs₀ = (.ok files, fs₁)) :
    (files.written ++ files.unchanged).Perm (g.reportedPaths m dst) ∧
      files.written.Sublist (g.reportedPaths m dst) ∧
      files.unchanged.Sublist (g.reportedPaths m dst) ∧
      (∀ e ∈ m.entities, g.isCurrent m dst fs₁ e = true ∧
        (g.outputPath e dst ∈ files.written →
          fs₁.text? (g.outputPath e dst) = some (g.generateEntity e m fs₀.clock))) ∧
      ∀ clock, (g.writeModel m dst : ExceptT Failure FileSim _).run.run { fs₁ with clock } =
        (.ok { unchanged := g.reportedPaths m dst }, { fs₁ with clock }) := by
  obtain ⟨hperm, hw, hu⟩ := writeModel_reports g m dst hrun
  obtain ⟨hfiles, hmod⟩ := writeModel_leaves g m dst hpaths hrun
  have hcur : ∀ e ∈ m.entities, g.isCurrent m dst fs₁ e = true := by
    intro e he
    obtain ⟨-, hfile⟩ := hfiles e he
    cases hc : g.isCurrent m dst fs₀ e
    · rw [if_neg (by simp [hc])] at hfile
      rw [isCurrent_congr g m dst (hfile.trans (FileMap.write_files_self fs₀ _ _).symm)]
      exact isCurrent_write_generate g m dst fs₀ e fs₀.clock
    · rw [if_pos hc] at hfile
      rw [isCurrent_congr g m dst hfile, hc]
  refine ⟨hperm, hw, hu, fun e he => ⟨hcur e he, fun hin => ?_⟩, fun clock => ?_⟩
  · obtain ⟨hiff, hfile⟩ := hfiles e he
    rw [if_neg (by simp [hiff.1 hin])] at hfile
    exact FileMap.text?_of_files hfile
  · exact writeModel_of_current g m dst (fun e he => (isCurrent_congr g m dst rfl).trans (hcur e he))
      hmod

end Generator

def hatStyles : Registry := ⟨[{ name := "HatStyle" }, { name := "Hat_Style" }]⟩

def dogAndHat : Registry := ⟨[{ name := "Dog" }, { name := "Hat" }]⟩

def dogAndHatModel : Model := ((dogAndHat.resolve {}).toOption).getD ⟨[]⟩

def javaFiles : Generator := { language := .java }

theorem dogAndHat_settles : dogAndHat.resolve {} = .ok dogAndHatModel ∧
    (javaFiles.reportedPaths dogAndHatModel "out").Nodup ∧
    ∃ files fs₁, (javaFiles.writeModel dogAndHatModel "out" : ExceptT Failure FileSim _).run.run
        (FileMap.empty "now") = (.ok files, fs₁) ∧
      (files.written ++ files.unchanged).Perm (javaFiles.reportedPaths dogAndHatModel "out") ∧
      files.written.Sublist (javaFiles.reportedPaths dogAndHatModel "out") ∧
      files.unchanged.Sublist (javaFiles.reportedPaths dogAndHatModel "out") ∧
      (∀ e ∈ dogAndHatModel.entities, javaFiles.isCurrent dogAndHatModel "out" fs₁ e = true ∧
        (javaFiles.outputPath e "out" ∈ files.written →
          fs₁.text? (javaFiles.outputPath e "out") =
            some (javaFiles.generateEntity e dogAndHatModel (FileMap.empty "now").clock))) ∧
      ∀ clock, (javaFiles.writeModel dogAndHatModel "out" : ExceptT Failure FileSim _).run.run
          { fs₁ with clock } =
        (.ok { unchanged := javaFiles.reportedPaths dogAndHatModel "out" }, { fs₁ with clock }) := by
  have hpaths : (javaFiles.reportedPaths dogAndHatModel "out").Nodup := by decide +kernel
  obtain ⟨files, fs₁, hrun⟩ :=
    Generator.writeModel_ok javaFiles dogAndHatModel "out" (FileMap.empty "now") (by decide +kernel)
  exact ⟨rfl, hpaths, files, fs₁, hrun,
    Generator.writeModel_settles javaFiles dogAndHatModel "out" hpaths hrun⟩

/-- The modules of `HatStyle` and `Hat_Style` are both `hat_style.rs`: a run reports that file
twice, so no run reports each entity's file exactly once. -/
theorem hatStyles_reported_twice : ∃ model, hatStyles.resolve {} = .ok model ∧
    ∃ files fs₁, (({ language := .rust } : Generator).writeModel model "out" :
        ExceptT Failure FileSim _).run.run (FileMap.empty "now") = (.ok files, fs₁) ∧
      (files.written ++ files.unchanged).count "out/hat_style.rs" = 2 := by
  refine ⟨_, rfl, ?_⟩
  apply Exists.elim (Generator.writeModel_ok _ _ "out" (FileMap.empty "now") ?_)
  · rintro files ⟨fs₁, hrun⟩
    refine ⟨files, fs₁, hrun, ?_⟩
    rw [(Generator.writeModel_reports _ _ "out" hrun).1.count_eq]
    decide +kernel
  · decide +kernel

end EntitySchema.Emit
