import LinkedData.Proofs.Record.Failing

/-!
# LinkedData.Proofs.Record.Unasked -- records that need no engine

There are two ways to have nothing to ask about. Without an entity no path is followed at all, at
any depth. A literal is an entity, but nothing leads on from it, so every walk from it is over
before its first query. Both come to the same record, field by field, except that a literal has a
value to show as its identifier; what the engine is like makes no difference, and it is not asked.

The paths of a literal are still resolved, so those of the shape itself have to be ones that can be
followed. The shapes inside it are only filled in from no entity, and their paths do not matter.
-/

namespace LinkedData.Record

open LinkedData.Query LinkedData.Rdf

/-- The record with given values of its fields; a field without a value is left out. -/
def recordOf (value : Field → Option Value) (shape : Shape) : Record :=
  shape.foldr (fun entry r => consField entry.1 (value entry.2) r) []

/-- A literal shows its value as identifier, and every other field as no entity does. -/
def literalField (l : Literal) : Field → Option Value
  | .identifier => some (.scalar l.value)
  | field => blankField field

/-- Every engine leaves an entity with the same record, and is not asked for it. -/
def Unasked (v : Vocabulary) (entity : Option Term) (shape : Shape) (r : Record) : Prop :=
  ∀ (m : Type → Type) [Monad m] [LawfulMonad m] (e : Engine m),
    project e v entity shape = pure r ∧
      ∀ log, (project e.recorded v entity shape).run.run log = pure (.ok r, log)

section Projecting

variable {m : Type → Type} [Monad m] [LawfulMonad m] {e : Engine m} {v : Vocabulary}

/-- Fields that each have a value have them together. -/
theorem project_eq_recordOf {entity : Option Term} {value : Field → Option Value} {shape : Shape}
    (h : ∀ entry ∈ shape, projectField e v entity entry.2 = pure (value entry.2)) :
    project e v entity shape = pure (recordOf value shape) := by
  induction shape with
  | nil => rw [project, recordOf, List.foldr_nil]
  | cons entry rest ih =>
    obtain ⟨hentry, hrest⟩ := List.forall_mem_cons.mp h
    rw [project, hentry, ih hrest, pure_bind, pure_bind, recordOf, recordOf, List.foldr_cons]

/-- A walk that has a step to take from a literal ends before it asks anything. -/
theorem evaluate_literal (l : Literal) {path : Path} (h : path.Followable v) :
    path.evaluate e v (.literal l) = pure [] := by
  have hpredicates := h.predicates_eq
  obtain ⟨name, names, hnames⟩ := List.exists_cons_of_ne_nil h.1
  obtain ⟨p, hp⟩ := Option.isSome_iff_exists.mp (h.2 name (by simp [hnames]))
  rw [hnames, List.filterMap_cons_some hp] at hpredicates
  have hstep : Path.step e path.scope p [.literal l] = pure [] := by
    simp [Path.step, Term.isLiteral]
  rw [Path.evaluate, hpredicates]
  simp only [Path.walk, hstep, pure_bind, List.isEmpty_nil, if_true]

/-- The induction over shapes is that for records of no entity: one step away from a literal there
is no entity any more. -/
theorem projectField_literal (l : Literal) {field : Field}
    (h : ∀ path, field.path? = some path → path.Followable v) :
    projectField e v (some (.literal l)) field = pure (literalField l field) := by
  cases field with
  | identifier => rfl
  | scalar path =>
    simp only [projectField, reachOne, Path.evaluateOne, evaluate_literal l (h path rfl), pure_bind]
    rfl
  | all path =>
    simp only [projectField, reachAll, evaluate_literal l (h path rfl), pure_bind]
    rfl
  | nested path shape =>
    simp only [projectField, reachOne, Path.evaluateOne, evaluate_literal l (h path rfl), pure_bind,
      List.head?_nil, project_none]
    rfl
  | repeated path shape =>
    simp only [projectField, reachAll, evaluate_literal l (h path rfl), pure_bind, List.mapM_nil]
    rfl
  | gated path shape =>
    simp only [projectField, reachOne, Path.evaluateOne, evaluate_literal l (h path rfl), pure_bind,
      List.head?_nil]
    rfl

end Projecting

/-- What holds over every engine holds over one that keeps a record of its queries. -/
theorem unasked_of_forall {v : Vocabulary} {entity : Option Term} {shape : Shape} {r : Record}
    (h : ∀ (m : Type → Type) [Monad m] [LawfulMonad m] (e : Engine m),
      project e v entity shape = pure r) : Unasked v entity shape r := by
  intro m _ _ e
  refine ⟨h m e, fun log => ?_⟩
  rw [h _ e.recorded]
  rfl

/-- **Absent entities and literals are not asked about.** Over every engine, also over one that
fails every query, the record of no entity is that of the shape alone, and takes no query. If the
paths of the shape itself can be followed, then the record of a literal is the same but for its
identifiers, which hold the value of the literal, and takes no query either. -/
theorem unasked_of_absent_or_literal (v : Vocabulary) (shape : Shape) :
    Unasked v none shape (recordOf blankField shape) ∧
      ∀ l : Literal, (∀ path ∈ ownPaths shape, path.Followable v) →
        Unasked v (some (.literal l)) shape (recordOf (literalField l) shape) := by
  refine ⟨unasked_of_forall fun m _ _ e => ?_, fun l h => unasked_of_forall fun m _ _ e => ?_⟩
  · exact project_eq_recordOf fun entry _ => projectField_none e v entry.2
  · refine project_eq_recordOf fun entry hentry => projectField_literal l fun path hpath => ?_
    exact h path (List.mem_filterMap.mpr ⟨entry, hentry, hpath⟩)

/-- An engine whose source is gone. -/
def unreachable : Engine Id where
  answer _ := throw (.query "no such source")

/-- The identifier and the name of someone, and the nickname of someone whom they know. -/
def profileShape : Shape :=
  [("id", .identifier), ("name", .scalar { segments := ["name"] }),
   ("friend", .nested { segments := ["knows"] } [("id", .identifier),
     ("nickname", .scalar { segments := ["nickname"] })])]

/-- The nickname has no predicate, but it is the friend of a literal whose nickname it is. -/
theorem unasked_of_literal_name :
    let v : Vocabulary := ⟨[("knows", "e:knows"), ("name", "e:name")]⟩
    (∀ path ∈ ownPaths profileShape, path.Followable v) ∧
      (project unreachable v (some (.literal (.string "Ada"))) profileShape =
          pure [("id", .scalar "Ada"), ("name", .null),
            ("friend", .record [("id", .null), ("nickname", .null)])] ∧
        ∀ log, (project unreachable.recorded v (some (.literal (.string "Ada")))
            profileShape).run.run log =
          pure (.ok (recordOf (literalField (.string "Ada")) profileShape), log)) := by
  intro v
  have hpaths : ∀ path ∈ ownPaths profileShape, path.Followable v := by decide
  exact ⟨hpaths, (unasked_of_absent_or_literal v profileShape).2 (.string "Ada") hpaths Id
    unreachable⟩

end LinkedData.Record
