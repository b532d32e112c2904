import LinkedData.Proofs.Engine.Success
import LinkedData.Proofs.Path.DepthFirst
import LinkedData.Record.Projection

/-!
# LinkedData.Proofs.Record.Conformance -- records have the shape that was asked for

`Conforms` says of a shape and a record what the record holds, level by level, and mentions
no engine and no order of questions: the fields of the shape in order, each once, except that
a gated field stands there only if its path leads somewhere. What a path leads to is the walk
through the graph.

Projecting over a graph succeeds with a record exactly when the record conforms. Without an
entity it always succeeds, with the `blank` record of the shape, which is also what stands
for a nested record whose path leads nowhere.
-/

namespace LinkedData.Record

open LinkedData.Rdf

/-! ## Records of no entity -/

mutual

/-- The record of no entity. -/
def blank : List (String × Field) → Record
  | [] => []
  | (name, field) :: rest => consField name (blankField field) (blank rest)

/-- The value of a field of no entity; `none` when the field is left out. -/
def blankField : Field → Option Value
  | .identifier => some .null
  | .scalar _ => some .null
  | .all _ => some (.list [])
  | .nested _ shape => some (.record (blank shape))
  | .repeated _ _ => some (.list [])
  | .gated _ _ => none

end

section NoEntity

variable {m : Type → Type} [Monad m] [LawfulMonad m] (e : Engine m) (v : Vocabulary)

mutual

/-- No entity has the blank record, whatever the engine is. -/
theorem project_none : ∀ shape : Shape, project e v none shape = pure (blank shape)
  | [] => by rw [project, blank]
  | (name, field) :: rest => by
    rw [project, projectField_none field, project_none rest, pure_bind, pure_bind, blank]

theorem projectField_none :
    ∀ field : Field, projectField e v none field = pure (blankField field)
  | .identifier => rfl
  | .scalar _ => by simp only [projectField, reachOne, pure_bind, blankField, Value.ofTerm,
      Option.map_none, Value.ofOption]
  | .all _ => by simp only [projectField, reachAll, pure_bind, List.map_nil, blankField]
  | .nested _ shape => by
    simp only [projectField, reachOne, pure_bind, project_none shape, blankField]
  | .repeated _ _ => by
    simp only [projectField, reachAll, pure_bind, List.mapM_nil, List.map_nil, blankField]
  | .gated _ _ => by simp only [projectField, reachOne, pure_bind, blankField]

end

end NoEntity

/-! ## Conforming records -/

/-- What a path leads to from the entity of a record, in order. No entity leads nowhere,
whatever the path is; from an entity the names of the path must have predicates. -/
inductive Reached (g : Graph) (v : Vocabulary) (path : Path) : Option Term → List Term → Prop
  | absent : Reached g v path none []
  | present {t : Term} {predicates : List Iri} :
      path.predicates v = .ok predicates →
      Reached g v path (some t) (Path.reach g path.scope predicates t)

mutual

/-- A record conforms to a shape: the declared fields in order, each once, except that a gated
field is missing when its path leads nowhere. -/
inductive Conforms (g : Graph) (v : Vocabulary) : Option Term → Shape → Record → Prop
  | nil {entity : Option Term} : Conforms g v entity [] []
  | shown {entity : Option Term} {name : String} {field : Field} {rest : Shape} {value : Value}
      {r : Record} :
      Shows g v entity field value → Conforms g v entity rest r →
      Conforms g v entity ((name, field) :: rest) ((name, value) :: r)
  | leftOut {entity : Option Term} {name : String} {path : Path} {shape rest : Shape}
      {r : Record} :
      Reached g v path entity [] → Conforms g v entity rest r →
      Conforms g v entity ((name, .gated path shape) :: rest) r

/-- A value is what a field shows of an entity. -/
inductive Shows (g : Graph) (v : Vocabulary) : Option Term → Field → Value → Prop
  | noIdentifier : Shows g v none .identifier .null
  | identifier {t : Term} : Shows g v (some t) .identifier (.scalar t.value)
  | noScalar {entity : Option Term} {path : Path} :
      Reached g v path entity [] → Shows g v entity (.scalar path) .null
  | scalar {entity : Option Term} {path : Path} {t : Term} {ts : List Term} :
      Reached g v path entity (t :: ts) → Shows g v entity (.scalar path) (.scalar t.value)
  | all {entity : Option Term} {path : Path} {ts : List Term} :
      Reached g v path entity ts →
      Shows g v entity (.all path) (.list (ts.map fun t => .scalar t.value))
  | noNested {entity : Option Term} {path : Path} {shape : Shape} :
      Reached g v path entity [] → Conforms g v none shape (blank shape) →
      Shows g v entity (.nested path shape) (.record (blank shape))
  | nested {entity : Option Term} {path : Path} {shape : Shape} {t : Term} {ts : List Term}
      {r : Record} :
      Reached g v path entity (t :: ts) → Conforms g v (some t) shape r →
      Shows g v entity (.nested path shape) (.record r)
  | repeated {entity : Option Term} {path : Path} {shape : Shape} {ts : List Term}
      {rs : List Record} :
      Reached g v path entity ts → ConformEach g v ts shape rs →
      Shows g v entity (.repeated path shape) (.list (rs.map .record))
  | gated {entity : Option Term} {path : Path} {shape : Shape} {t : Term} {ts : List Term}
      {r : Record} :
      Reached g v path entity (t :: ts) → Conforms g v (some t) shape r →
      Shows g v entity (.gated path shape) (.record r)

/-- Records conform to one shape, one record for each entity in order. -/
inductive ConformEach (g : Graph) (v : Vocabulary) : List Term → Shape → List Record → Prop
  | nil {shape : Shape} : ConformEach g v [] shape []
  | cons {t : Term} {ts : List Term} {shape : Shape} {r : Record} {rs : List Record} :
      Conforms g v (some t) shape r → ConformEach g v ts shape rs →
      ConformEach g v (t :: ts) shape (r :: rs)

end

variable {g : Graph} {v : Vocabulary}

theorem conformEach_iff_forall₂ {ts : List Term} {shape : Shape} {rs : List Record} :
    ConformEach g v ts shape rs ↔
      List.Forall₂ (fun t r => Conforms g v (some t) shape r) ts rs := by
  constructor
  · intro h
    induction ts generalizing rs with
    | nil => cases h; exact .nil
    | cons t ts ih =>
      cases h with
      | cons hr hrs => exact .cons hr (ih hrs)
  · intro h
    induction h with
    | nil => exact .nil
    | cons hr _ ih => exact .cons hr ih

/-! ## Following a path -/

theorem reachAll_eq_pure_iff {entity : Option Term} {path : Path} {ts : List Term} :
    reachAll (Engine.ofGraph g : Engine Id) v entity path = pure ts ↔
      Reached g v path entity ts := by
  cases entity with
  | none =>
    rw [reachAll, Ask.pure_inj]
    constructor
    · rintro rfl
      exact .absent
    · rintro ⟨⟩
      rfl
  | some t =>
    rw [reachAll, Path.evaluate]
    cases hpredicates : path.predicates v with
    | error failure =>
      constructor
      · intro h
        cases h
      · rintro ⟨⟩
        simp_all
    | ok predicates =>
      show Path.walk _ path.scope predicates [t] = _ ↔ _
      rw [Path.walk_ofGraph, List.flatMap_singleton, Ask.pure_inj]
      constructor
      · rintro rfl
        exact .present hpredicates
      · rintro ⟨⟩
        simp_all

/-- The first term that a path leads to. -/
theorem reachOne_eq_pure_iff {entity : Option Term} {path : Path} {first : Option Term} :
    reachOne (Engine.ofGraph g : Engine Id) v entity path = pure first ↔
      ∃ ts, Reached g v path entity ts ∧ ts.head? = first := by
  have hone : reachOne (Engine.ofGraph g : Engine Id) v entity path =
      reachAll (Engine.ofGraph g : Engine Id) v entity path >>= fun ts => pure ts.head? := by
    cases entity with
    | none => rfl
    | some t => rfl
  simp only [hone, Ask.bind_eq_pure, reachAll_eq_pure_iff, Ask.pure_inj]

/-! ## Projecting is conforming -/

/-- Only a gated field whose path leads nowhere is left out. -/
theorem projectField_eq_pure_none_iff {entity : Option Term} {field : Field} :
    projectField (Engine.ofGraph g : Engine Id) v entity field = pure none ↔
      ∃ path shape, field = .gated path shape ∧ Reached g v path entity [] := by
  cases field with
  | gated path shape =>
    simp only [projectField, Ask.bind_eq_pure, reachOne_eq_pure_iff]
    constructor
    · rintro ⟨first, ⟨ts, hts, rfl⟩, h⟩
      cases ts with
      | nil => exact ⟨path, shape, rfl, hts⟩
      | cons t ts =>
        obtain ⟨r, -, h⟩ := Ask.bind_eq_pure.mp h
        cases Ask.pure_inj.mp h
    · rintro ⟨path', shape', heq, hts⟩
      cases heq
      exact ⟨none, ⟨[], hts, rfl⟩, rfl⟩
  | _ =>
    simp only [projectField, Ask.bind_eq_pure, Ask.pure_inj]
    simp

mutual

/-- A record is projected exactly when it conforms. The induction is on the shape and its
fields; the entity changes from a record to the records in it. -/
theorem project_eq_pure_iff :
    ∀ (shape : Shape) {entity : Option Term} {r : Record},
      project (Engine.ofGraph g : Engine Id) v entity shape = pure r ↔ Conforms g v entity shape r
  | [], entity, r => by
    rw [project, Ask.pure_inj]
    constructor
    · rintro rfl
      exact .nil
    · rintro ⟨⟩
      rfl
  | (name, field) :: rest, entity, r => by
    rw [project, Ask.bind_eq_pure]
    constructor
    · rintro ⟨value, hvalue, h⟩
      obtain ⟨others, hothers, h⟩ := Ask.bind_eq_pure.mp h
      obtain rfl := Ask.pure_inj.mp h
      have hrest := (project_eq_pure_iff rest).mp hothers
      cases value with
      | none =>
        obtain ⟨path, shape, rfl, hnothing⟩ := projectField_eq_pure_none_iff.mp hvalue
        exact .leftOut hnothing hrest
      | some x => exact .shown ((projectField_eq_pure_some_iff field).mp hvalue) hrest
    · intro h
      cases h with
      | @shown _ _ _ _ x others hx hrest =>
        exact ⟨some x, (projectField_eq_pure_some_iff field).mpr hx,
          Ask.bind_eq_pure.mpr ⟨others, (project_eq_pure_iff rest).mpr hrest, rfl⟩⟩
      | leftOut hnothing hrest =>
        exact ⟨none, projectField_eq_pure_none_iff.mpr ⟨_, _, rfl, hnothing⟩,
          Ask.bind_eq_pure.mpr ⟨r, (project_eq_pure_iff rest).mpr hrest, rfl⟩⟩

theorem projectField_eq_pure_some_iff :
    ∀ (field : Field) {entity : Option Term} {value : Value},
      projectField (Engine.ofGraph g : Engine Id) v entity field = pure (some value) ↔
        Shows g v entity field value
  | .identifier, entity, value => by
    rw [projectField, Ask.pure_inj, Option.some_inj]
    cases entity with
    | none =>
      constructor
      · rintro rfl
        exact .noIdentifier
      · rintro ⟨⟩
        rfl
    | some t =>
      constructor
      · rintro rfl
        exact .identifier
      · rintro ⟨⟩
        rfl
  | .scalar path, entity, value => by
    simp only [projectField, Ask.bind_eq_pure, reachOne_eq_pure_iff, Ask.pure_inj, Option.some_inj]
    constructor
    · rintro ⟨first, ⟨ts, hts, rfl⟩, rfl⟩
      cases ts with
      | nil => exact .noScalar hts
      | cons t ts => exact .scalar hts
    · intro h
      cases h with
      | noScalar hts => exact ⟨none, ⟨[], hts, rfl⟩, rfl⟩
      | @scalar _ _ t ts hts => exact ⟨some t, ⟨t :: ts, hts, rfl⟩, rfl⟩
  | .all path, entity, value => by
    simp only [projectField, Ask.bind_eq_pure, reachAll_eq_pure_iff, Ask.pure_inj, Option.some_inj]
    constructor
    · rintro ⟨ts, hts, rfl⟩
      exact .all hts
    · intro h
      cases h with
      | all hts => exact ⟨_, hts, rfl⟩
  | .nested path shape, entity, value => by
    simp only [projectField, Ask.bind_eq_pure, reachOne_eq_pure_iff, Ask.pure_inj, Option.some_inj]
    constructor
    · rintro ⟨first, ⟨ts, hts, rfl⟩, r, hr, rfl⟩
      cases ts with
      | nil =>
        obtain rfl := Ask.pure_inj.mp (hr.symm.trans (project_none _ v shape))
        exact .noNested hts ((project_eq_pure_iff shape).mp hr)
      | cons t ts => exact .nested hts ((project_eq_pure_iff shape).mp hr)
    · intro h
      cases h with
      | noNested hts hr =>
        exact ⟨none, ⟨[], hts, rfl⟩, blank shape, (project_eq_pure_iff shape).mpr hr, rfl⟩
      | @nested _ _ _ t ts _ hts hr =>
        exact ⟨some t, ⟨t :: ts, hts, rfl⟩, _, (project_eq_pure_iff shape).mpr hr, rfl⟩
  | .repeated path shape, entity, value => by
    have heach : ∀ ts rs, List.Forall₂
        (fun t r => project (Engine.ofGraph g : Engine Id) v (some t) shape = pure r) ts rs ↔
          ConformEach g v ts shape rs := by
      intro ts rs
      rw [conformEach_iff_forall₂]
      simp only [project_eq_pure_iff shape]
    simp only [projectField, Ask.bind_eq_pure, reachAll_eq_pure_iff, Ask.mapM_eq_pure, heach,
      Ask.pure_inj, Option.some_inj]
    constructor
    · rintro ⟨ts, hts, rs, hrs, rfl⟩
      exact .repeated hts hrs
    · intro h
      cases h with
      | repeated hts hrs => exact ⟨_, hts, _, hrs, rfl⟩
  | .gated path shape, entity, value => by
    simp only [projectField, Ask.bind_eq_pure, reachOne_eq_pure_iff]
    constructor
    · rintro ⟨first, ⟨ts, hts, rfl⟩, h⟩
      cases ts with
      | nil => cases Ask.pure_inj.mp h
      | cons t ts =>
        obtain ⟨r, hr, h⟩ := Ask.bind_eq_pure.mp h
        cases Ask.pure_inj.mp h
        exact .gated hts ((project_eq_pure_iff shape).mp hr)
    · intro h
      cases h with
      | @gated _ _ _ t ts r hts hr =>
        exact ⟨some t, ⟨t :: ts, hts, rfl⟩,
          Ask.bind_eq_pure.mpr ⟨r, (project_eq_pure_iff shape).mpr hr, rfl⟩⟩

end

/-- Projecting an entity, or none, over a graph succeeds with exactly the records that conform
to the shape; from no entity this is the blank record. -/
theorem project_iff_conforms (g : Graph) (v : Vocabulary) (entity : Option Term) (shape : Shape) :
    (∀ r, project (Engine.ofGraph g : Engine Id) v entity shape = pure r ↔
      Conforms g v entity shape r) ∧
    project (Engine.ofGraph g : Engine Id) v none shape = pure (blank shape) :=
  ⟨fun _ => project_eq_pure_iff shape, project_none _ v shape⟩

end LinkedData.Record
