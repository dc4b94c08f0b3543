import EntitySchema.Proofs.DocumentChecks
import EntitySchema.Proofs.Registration

/-! # What loading a batch of documents reports

`Registry.load` reads the documents in order and registers each declaration that reads, and it
goes on after a failure so that one run reports every problem of the batch. Loading succeeds
exactly when no document fails (`loadErrors_eq_nil_iff`), and then holds the declarations in
document order; otherwise it reports one error per failing document, in document order: the
document's own syntax error, or the repeated name (`load_reports`). Every error that reading a
document gives is a syntax error about that document (`refuses_readDocument`), and a failed
load stops resolution with the load's own errors.
-/

namespace EntitySchema

/-! ## Every refusal of a document is a syntax error about it -/

/-- Every error `x` can end in is a syntax error about `document`. -/
def RefusesAsSyntax (document : String) {α : Type} (x : Except SchemaError α) : Prop :=
  ∀ e, x = .error e → ∃ field message, e = .malformed document field message

namespace RefusesAsSyntax

variable {document : String} {α β : Type}

theorem ok (a : α) : RefusesAsSyntax document (.ok a : Except SchemaError α) :=
  fun _ h => nomatch h

theorem bind {x : Except SchemaError α} {f : α → Except SchemaError β}
    (hx : RefusesAsSyntax document x) (hf : ∀ a, RefusesAsSyntax document (f a)) :
    RefusesAsSyntax document (x >>= f) := by
  intro e h
  cases x with
  | error e' =>
    cases h
    exact hx e rfl
  | ok a => exact hf a e h

end RefusesAsSyntax

section Refusals

open RefusesAsSyntax

variable {s : Spellings} {document : String}

theorem refuses_pickOne {α : Type} (first second : String × Option α) :
    RefusesAsSyntax document (pickOne document first second) := by
  intro e h
  unfold pickOne at h
  split at h
  · cases h
    exact ⟨_, _, rfl⟩
  · cases h
  · cases h

theorem refuses_require (ok : Bool) (message : String) :
    RefusesAsSyntax document (require document ok message) := by
  intro e h
  unfold require at h
  split at h
  · cases h
  · cases h
    exact ⟨_, _, rfl⟩

theorem refuses_requireIfSome (value : Option String) (ok : String → Bool)
    (message : String → String) :
    RefusesAsSyntax document (requireIfSome document value ok message) := by
  cases value with
  | none => exact RefusesAsSyntax.ok ()
  | some v => exact refuses_require _ _

theorem refuses_declKind (raw : Layout) : RefusesAsSyntax document (raw.declKind document) := by
  intro e h
  unfold Layout.declKind at h
  split at h <;> cases h
  exact ⟨_, _, rfl⟩

theorem refuses_fieldToDecl (sourceText : Bool) (index : Nat) (f : FieldLayout) :
    RefusesAsSyntax document (f.toDecl s document sourceText index) := by
  intro e h
  obtain ⟨_ | n, _ | t, _ | v⟩ := f
  all_goals simp only [FieldLayout.toDecl, pure, Except.pure] at h
  all_goals (repeat' split at h) <;> cases h <;> exact ⟨_, _, rfl⟩

theorem refuses_fieldsToDecls (sourceText : Bool) (index : Nat) (seen : List String)
    (fs : List FieldLayout) :
    RefusesAsSyntax document (fieldsToDecls s document sourceText index seen fs) := by
  induction fs generalizing index seen with
  | nil => exact RefusesAsSyntax.ok []
  | cons f rest ih =>
    rw [fieldsToDecls]
    refine bind (refuses_fieldToDecl sourceText index f) fun d => ?_
    have hrest : RefusesAsSyntax document
        (fieldsToDecls s document sourceText (index + 1) (d.name :: seen) rest >>= fun ds =>
          pure (d :: ds)) :=
      bind (ih _ _) fun _ => RefusesAsSyntax.ok _
    intro e h
    split at h
    · cases h
      exact ⟨_, _, rfl⟩
    · exact hrest e h

theorem refuses_checkEnum (d : EntityDecl) (values : List String) :
    RefusesAsSyntax document (checkEnum document d values) := by
  intro e h
  simp only [checkEnum, pure, Except.pure] at h
  (repeat' split at h) <;> cases h <;> exact ⟨_, _, rfl⟩

theorem refuses_checkKind (decl : EntityDecl) (values? : Option (List String)) (k : DeclKind) :
    RefusesAsSyntax document (checkKind document decl values? k) := by
  cases k with
  | enumeration values => exact refuses_checkEnum decl values
  | record => exact refuses_require _ _

theorem refuses_toDecl (raw : Layout) : RefusesAsSyntax document (raw.toDecl s document) := by
  unfold Layout.toDecl
  split
  · refine bind (refuses_require _ _) fun _ => ?_
    refine bind (refuses_declKind raw) fun _ => ?_
    refine bind (refuses_pickOne _ _) fun _ => ?_
    refine bind (refuses_pickOne _ _) fun _ => ?_
    refine bind (refuses_requireIfSome _ _ _) fun _ => ?_
    refine bind (refuses_requireIfSome _ _ _) fun _ => ?_
    refine bind (refuses_requireIfSome _ _ _) fun _ => ?_
    refine bind (refuses_requireIfSome _ _ _) fun _ => ?_
    refine bind (refuses_fieldsToDecls _ _ _ _) fun _ => ?_
    exact bind (refuses_checkKind _ _ _) fun _ => RefusesAsSyntax.ok _
  · intro e h
    cases h
    exact ⟨_, _, rfl⟩

theorem refuses_readDocument (content : String) :
    RefusesAsSyntax document (s.readDocument document content) := by
  unfold Spellings.readDocument
  split
  · exact refuses_toDecl _
  · intro e h
    cases h
    exact ⟨_, _, rfl⟩

end Refusals

namespace Registry

variable {s : Spellings}

/-! ## What a load reports -/

/-- Loading a batch of documents either holds the declarations of all of them, in document
order, when every document reads and no name repeats, or reports one error per failing
document in document order: the document's own error, a syntax error about it, when it does
not read, and the repeated name when an earlier document read to it. A failed load stops
resolution with these errors. -/
theorem load_reports (docs : List (String × String)) (o : ResolveOptions) :
    (∀ r, load s docs = .ok r ↔
      ((∀ doc ∈ docs, ∃ d, s.readDocument doc.1 doc.2 = .ok d) ∧
        ((readable s docs).map (·.name)).Nodup) ∧ r = ⟨readable s docs⟩) ∧
    (∀ errors, load s docs = .error errors ↔ errors ≠ [] ∧ errors = loadErrors s docs) ∧
    (∀ doc ∈ docs, RefusesAsSyntax doc.1 (s.readDocument doc.1 doc.2)) ∧
    (∀ errors, load s docs = .error errors → (load s docs >>= resolve o) = .error errors) := by
  have hload := load_eq (s := s) docs
  refine ⟨fun r => ?_, fun errors => ?_, fun doc _ => refuses_readDocument doc.2,
    fun errors h => by rw [h]; rfl⟩
  · rw [hload, ← loadErrors_eq_nil_iff]
    split
    · next hnil => simp [hnil, eq_comm]
    · next hnil => simp [hnil]
  · rw [hload]
    split
    · next hnil => simp [hnil]
    · next hnil =>
      rw [Except.error.injEq]
      exact ⟨fun h => ⟨h ▸ hnil, h.symm⟩, fun h => h.2.symm⟩

end Registry

end EntitySchema
