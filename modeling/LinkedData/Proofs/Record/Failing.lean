import LinkedData.Proofs.Record.Conformance
import LinkedData.Proofs.Record.Entities
import LinkedData.Record.Business

/-!
# LinkedData.Proofs.Record.Failing -- when a projection fails

Over a graph nothing can fail but the paths of a shape: a path without names, or with a name that
has no predicate. Whether such a path is ever followed depends on the data. What a nested record
would show is not looked at when its path leads nowhere, nor are repeated records that are not
there, nor what stands behind a gate that stays closed. `Fails` says of a shape and an entity
which failure a projection comes to, and mentions no engine: as `Conforms` says which record. The
two together are all that can come of a projection.

So data that is missing is never a failure. A shape whose paths can all be followed is filled in
from any entity over any graph, and the shape of a business is one.
-/

namespace LinkedData.Record

open LinkedData.Rdf

/-! ## The paths of a shape -/

/-- The path that a field follows from the entity of its record. -/
def Field.path? : Field → Option Path
  | .identifier => none
  | .scalar path => some path
  | .all path => some path
  | .nested path _ => some path
  | .repeated path _ => some path
  | .gated path _ => some path

/-- The paths that the fields of a shape follow themselves, without those of the records that they
show. -/
def ownPaths (shape : Shape) : List Path :=
  shape.filterMap fun entry => entry.2.path?

mutual

/-- The paths of a shape, at any depth. -/
def paths : List (String × Field) → List Path
  | [] => []
  | (_, field) :: rest => fieldPaths field ++ paths rest

/-- The paths of a field, and those of the records that it shows. -/
def fieldPaths : Field → List Path
  | .identifier => []
  | .scalar path => [path]
  | .all path => [path]
  | .nested path shape => path :: paths shape
  | .repeated path shape => path :: paths shape
  | .gated path shape => path :: paths shape

end

theorem mem_fieldPaths_of_path? {field : Field} {path : Path} (h : field.path? = some path) :
    path ∈ fieldPaths field := by
  cases field with
  | identifier => cases h
  | _ =>
    cases h
    simp only [fieldPaths, List.mem_cons, true_or]

/-! ## Failing projections -/

mutual

/-- Projecting a shape comes to a failure: it is that of a field, and the fields before it are
filled in. -/
inductive Fails (g : Graph) (v : Vocabulary) : Option Term → Shape → Failure → Prop
  | here {entity : Option Term} {name : String} {field : Field} {rest : Shape}
      {failure : Failure} :
      FieldFails g v entity field failure → Fails g v entity ((name, field) :: rest) failure
  | later {entity : Option Term} {name : String} {field : Field} {rest : Shape} {r : Record}
      {failure : Failure} :
      Conforms g v entity [(name, field)] r → Fails g v entity rest failure →
      Fails g v entity ((name, field) :: rest) failure

/-- A field comes to a failure: its path cannot be followed, or it shows a record of which the
projection fails. -/
inductive FieldFails (g : Graph) (v : Vocabulary) : Option Term → Field → Failure → Prop
  | path {t : Term} {field : Field} {path : Path} {failure : Failure} :
      field.path? = some path → path.Lacks v failure → FieldFails g v (some t) field failure
  | nested {entity : Option Term} {path : Path} {shape : Shape} {t : Term} {ts : List Term}
      {failure : Failure} :
      Reached g v path entity (t :: ts) → Fails g v (some t) shape failure →
      FieldFails g v entity (.nested path shape) failure
  | repeated {entity : Option Term} {path : Path} {shape : Shape} {before after : List Term}
      {t : Term} {rs : List Record} {failure : Failure} :
      Reached g v path entity (before ++ t :: after) → ConformEach g v before shape rs →
      Fails g v (some t) shape failure → FieldFails g v entity (.repeated path shape) failure
  | gated {entity : Option Term} {path : Path} {shape : Shape} {t : Term} {ts : List Term}
      {failure : Failure} :
      Reached g v path entity (t :: ts) → Fails g v (some t) shape failure →
      FieldFails g v entity (.gated path shape) failure

end

variable {g : Graph} {v : Vocabulary}

theorem reachAll_eq_throw_iff {entity : Option Term} {path : Path} {failure : Failure} :
    reachAll (Engine.ofGraph g : Engine Id) v entity path = throw failure ↔
      (∃ t, entity = some t) ∧ path.Lacks v failure := by
  cases entity with
  | none => simp [reachAll, Ask.pure_ne_throw]
  | some t =>
    rw [reachAll, Path.evaluate_ofGraph_eq, ← Path.predicates_eq_error_iff]
    cases path.predicates v with
    | ok predicates => simp [Ask.pure_ne_throw]
    | error failure' => simp [Ask.throw_inj]

theorem reachOne_eq_throw_iff {entity : Option Term} {path : Path} {failure : Failure} :
    reachOne (Engine.ofGraph g : Engine Id) v entity path = throw failure ↔
      (∃ t, entity = some t) ∧ path.Lacks v failure := by
  rw [← reachAll_eq_throw_iff]
  cases entity with
  | none => simp [reachOne, reachAll, Ask.pure_ne_throw]
  | some t => exact Ask.map_eq_throw

/-- What is done with the first term of a path fails, unless the path does; done with no term, it
does not. -/
theorem reachOne_bind_eq_throw_iff {α : Type} {f : Option Term → Ask Id α} {entity : Option Term}
    {path : Path} {failure : Failure} (hnone : f none ≠ throw failure) :
    (reachOne (Engine.ofGraph g : Engine Id) v entity path >>= f) = throw failure ↔
      ((∃ t, entity = some t) ∧ path.Lacks v failure) ∨
        ∃ t ts, Reached g v path entity (t :: ts) ∧ f (some t) = throw failure := by
  rw [Ask.bind_eq_throw, reachOne_eq_throw_iff]
  simp only [reachOne_eq_pure_iff]
  refine or_congr_right ⟨?_, ?_⟩
  · rintro ⟨_, ⟨ts, hts, rfl⟩, h⟩
    cases ts with
    | nil => exact absurd h hnone
    | cons t ts => exact ⟨t, ts, hts, h⟩
  · rintro ⟨t, ts, hts, h⟩
    exact ⟨_, ⟨_, hts, rfl⟩, h⟩

theorem fieldFails_of_path {entity : Option Term} {field : Field} {path : Path}
    {failure : Failure} (hpath : field.path? = some path)
    (h : (∃ t, entity = some t) ∧ path.Lacks v failure) : FieldFails g v entity field failure := by
  obtain ⟨⟨t, rfl⟩, hlacks⟩ := h
  exact .path hpath hlacks

mutual

/-- A projection fails exactly as `Fails` says. The induction is on the shape and its fields, as
is that for the records it comes to. -/
theorem project_eq_throw_iff :
    ∀ (shape : Shape) {entity : Option Term} {failure : Failure},
      project (Engine.ofGraph g : Engine Id) v entity shape = throw failure ↔
        Fails g v entity shape failure
  | [], entity, failure => by
    rw [project]
    refine ⟨fun h => absurd h Ask.pure_ne_throw, ?_⟩
    rintro ⟨⟩
  | (name, field) :: rest, entity, failure => by
    rw [project, Ask.bind_eq_throw, projectField_eq_throw_iff field]
    constructor
    · rintro (hfield | ⟨value, hvalue, h⟩)
      · exact .here hfield
      · -- A filled in field is a shape of one field that is filled in, and conforms.
        have hone : project (Engine.ofGraph g : Engine Id) v entity [(name, field)] =
            pure (consField name value []) := by
          rw [project, hvalue, pure_bind, project, pure_bind]
        have hrest := (project_eq_throw_iff rest).mp (Ask.map_eq_throw.mp h)
        exact .later ((project_eq_pure_iff _).mp hone) hrest
    · intro h
      cases h with
      | here hfield => exact .inl hfield
      | later hone hrest =>
        have hone := (project_eq_pure_iff _).mpr hone
        rw [project] at hone
        obtain ⟨value, hvalue, -⟩ := Ask.bind_eq_pure.mp hone
        have hrest := (project_eq_throw_iff rest).mpr hrest
        exact .inr ⟨value, hvalue, Ask.map_eq_throw.mpr hrest⟩

theorem projectField_eq_throw_iff :
    ∀ (field : Field) {entity : Option Term} {failure : Failure},
      projectField (Engine.ofGraph g : Engine Id) v entity field = throw failure ↔
        FieldFails g v entity field failure
  | .identifier, entity, failure => by
    rw [projectField]
    refine ⟨fun h => absurd h Ask.pure_ne_throw, ?_⟩
    rintro ⟨⟨⟩⟩
  | .scalar path, entity, failure => by
    rw [projectField, Ask.map_eq_throw, reachOne_eq_throw_iff]
    refine ⟨fieldFails_of_path rfl, ?_⟩
    rintro ⟨⟨⟩, hlacks⟩
    exact ⟨⟨_, rfl⟩, hlacks⟩
  | .all path, entity, failure => by
    rw [projectField, Ask.map_eq_throw, reachAll_eq_throw_iff]
    refine ⟨fieldFails_of_path rfl, ?_⟩
    rintro ⟨⟨⟩, hlacks⟩
    exact ⟨⟨_, rfl⟩, hlacks⟩
  | .nested path shape, entity, failure => by
    rw [projectField]
    refine (reachOne_bind_eq_throw_iff ?_).trans ?_
    · -- The record of no entity is the blank one of the shape, and never fails.
      rw [project_none, pure_bind]
      exact Ask.pure_ne_throw
    simp only [Ask.map_eq_throw, project_eq_throw_iff shape]
    constructor
    · rintro (hlacks | ⟨t, ts, hts, hfails⟩)
      · exact fieldFails_of_path rfl hlacks
      · exact .nested hts hfails
    · intro h
      cases h with
      | path hpath hlacks =>
        cases hpath
        exact .inl ⟨⟨_, rfl⟩, hlacks⟩
      | nested hts hfails => exact .inr ⟨_, _, hts, hfails⟩
  | .repeated path shape, entity, failure => by
    have heach : ∀ ts rs,
        ts.mapM (fun t => project (Engine.ofGraph g : Engine Id) v (some t) shape) = pure rs ↔
          ConformEach g v ts shape rs := by
      intro ts rs
      rw [Ask.mapM_eq_pure, conformEach_iff_forall₂]
      simp only [project_eq_pure_iff shape]
    rw [projectField, Ask.bind_eq_throw, reachAll_eq_throw_iff]
    simp only [reachAll_eq_pure_iff, Ask.map_eq_throw, Ask.mapM_eq_throw, heach,
      project_eq_throw_iff shape]
    -- The record that fails is the first one to do so: those before it are complete.
    constructor
    · rintro (hlacks | ⟨_, hts, before, t, after, rs, rfl, hrs, hfails⟩)
      · exact fieldFails_of_path rfl hlacks
      · exact .repeated hts hrs hfails
    · intro h
      cases h with
      | path hpath hlacks =>
        cases hpath
        exact .inl ⟨⟨_, rfl⟩, hlacks⟩
      | repeated hts hrs hfails => exact .inr ⟨_, hts, _, _, _, _, rfl, hrs, hfails⟩
  | .gated path shape, entity, failure => by
    rw [projectField]
    refine (reachOne_bind_eq_throw_iff ?_).trans ?_
    · exact Ask.pure_ne_throw
    simp only [Ask.map_eq_throw, project_eq_throw_iff shape]
    constructor
    · rintro (hlacks | ⟨t, ts, hts, hfails⟩)
      · exact fieldFails_of_path rfl hlacks
      · exact .gated hts hfails
    · intro h
      cases h with
      | path hpath hlacks =>
        cases hpath
        exact .inl ⟨⟨_, rfl⟩, hlacks⟩
      | gated hts hfails => exact .inr ⟨_, _, hts, hfails⟩

end

/-! ## What a failure is about -/

mutual

/-- A failure is about a path of the shape. The induction is on how the projection comes to fail. -/
theorem Fails.exists_path {entity : Option Term} {shape : Shape} {failure : Failure} :
    Fails g v entity shape failure → ∃ path ∈ paths shape, path.Lacks v failure
  | .here hfield => by
    obtain ⟨path, hpath, hlacks⟩ := hfield.exists_path
    rw [paths]
    exact ⟨path, List.mem_append_left _ hpath, hlacks⟩
  | .later _ hrest => by
    obtain ⟨path, hpath, hlacks⟩ := hrest.exists_path
    rw [paths]
    exact ⟨path, List.mem_append_right _ hpath, hlacks⟩

theorem FieldFails.exists_path {entity : Option Term} {field : Field} {failure : Failure} :
    FieldFails g v entity field failure → ∃ path ∈ fieldPaths field, path.Lacks v failure
  | .path hpath hlacks => ⟨_, mem_fieldPaths_of_path? hpath, hlacks⟩
  | .nested _ hfails => by
    obtain ⟨path, hpath, hlacks⟩ := hfails.exists_path
    rw [fieldPaths]
    exact ⟨path, List.mem_cons_of_mem _ hpath, hlacks⟩
  | .repeated _ _ hfails => by
    obtain ⟨path, hpath, hlacks⟩ := hfails.exists_path
    rw [fieldPaths]
    exact ⟨path, List.mem_cons_of_mem _ hpath, hlacks⟩
  | .gated _ hfails => by
    obtain ⟨path, hpath, hlacks⟩ := hfails.exists_path
    rw [fieldPaths]
    exact ⟨path, List.mem_cons_of_mem _ hpath, hlacks⟩

end

/-- Where all paths can be followed nothing fails. -/
theorem exists_project_of_followable {shape : Shape} (h : ∀ path ∈ paths shape, path.Followable v)
    (g : Graph) (entity : Option Term) :
    ∃ r, project (Engine.ofGraph g : Engine Id) v entity shape = pure r := by
  rcases Ask.pure_or_throw (project (Engine.ofGraph g : Engine Id) v entity shape) with hr | hfails
  · exact hr
  · obtain ⟨failure, hfails⟩ := hfails
    obtain ⟨path, hpath, hlacks⟩ := ((project_eq_throw_iff shape).mp hfails).exists_path
    have hpredicates := (h path hpath).predicates_eq
    rw [hlacks.predicates_eq] at hpredicates
    cases hpredicates

theorem exists_projectEntities_of_followable {shape : Shape}
    (h : ∀ path ∈ paths shape, path.Followable v) (g : Graph) (type : Iri) :
    ∃ records, projectEntities (Engine.ofGraph g : Engine Id) v type shape = pure records := by
  rcases Ask.pure_or_throw (projectEntities (Engine.ofGraph g : Engine Id) v type shape) with
    hrecords | hfails
  · exact hrecords
  · obtain ⟨failure, hfails⟩ := hfails
    rw [projectEntities, findEntities_ofGraph (Query.firsts_iff.mpr rfl), pure_bind,
      Ask.mapM_eq_throw] at hfails
    obtain ⟨_, t, _, _, _, _, ht⟩ := hfails
    obtain ⟨r, hr⟩ := exists_project_of_followable h g (some t)
    exact absurd (hr.symm.trans ht) Ask.pure_ne_throw

/-! ## The first failing field -/

variable {entity : Option Term}

/-- The fields of a record are all filled in. -/
theorem exists_projectField_of_project {shape : Shape} {r : Record}
    (h : project (Engine.ofGraph g : Engine Id) v entity shape = pure r) :
    ∀ entry ∈ shape, ∃ value,
      projectField (Engine.ofGraph g : Engine Id) v entity entry.2 = pure value := by
  induction shape generalizing r with
  | nil => exact nofun
  | cons entry rest ih =>
    rw [project] at h
    obtain ⟨value, hvalue, h⟩ := Ask.bind_eq_pure.mp h
    obtain ⟨others, hothers, -⟩ := Ask.bind_eq_pure.mp h
    exact List.forall_mem_cons.mpr ⟨⟨value, hvalue⟩, ih hothers⟩

/-- A projection fails with the failure of its first failing field: up to there the shape is filled
in, and a shape of that field alone fails alike. -/
theorem exists_first_failing {shape : Shape} {failure : Failure}
    (h : project (Engine.ofGraph g : Engine Id) v entity shape = throw failure) :
    ∃ before name field after r, shape = before ++ (name, field) :: after ∧
      project (Engine.ofGraph g : Engine Id) v entity before = pure r ∧
      project (Engine.ofGraph g : Engine Id) v entity [(name, field)] = throw failure := by
  induction shape with
  | nil =>
    rw [project] at h
    exact absurd h Ask.pure_ne_throw
  | cons entry rest ih =>
    obtain ⟨name, field⟩ := entry
    rw [project, Ask.bind_eq_throw] at h
    rcases h with hfield | ⟨value, hvalue, h⟩
    · refine ⟨[], name, field, rest, [], rfl, ?_, ?_⟩
      · rw [project]
      · rw [project, hfield]
        rfl
    · obtain ⟨before, name', field', after, r, rfl, hbefore, hfield⟩ := ih (Ask.map_eq_throw.mp h)
      refine ⟨(name, field) :: before, name', field', after, consField name value r, rfl, ?_,
        hfield⟩
      rw [project, hvalue, pure_bind, hbefore, pure_bind]

/-- A path of the shape itself that cannot be followed fails every present entity, whatever the
data is. -/
theorem exists_throw_of_not_followable {shape : Shape} {path : Path} (h : path ∈ ownPaths shape)
    (hnot : ¬ path.Followable v) (g : Graph) (t : Term) :
    ∃ failure, project (Engine.ofGraph g : Engine Id) v (some t) shape = throw failure := by
  rcases Ask.pure_or_throw (project (Engine.ofGraph g : Engine Id) v (some t) shape) with
    hr | hfails
  · -- With a record every field would have a value, also the one of the path.
    obtain ⟨r, hr⟩ := hr
    obtain ⟨⟨_, field⟩, hfield, hpath⟩ := List.mem_filterMap.mp h
    obtain ⟨value, hvalue⟩ := exists_projectField_of_project hr _ hfield
    obtain ⟨failure, hlacks⟩ := Path.exists_lacks hnot
    have hthrow := (projectField_eq_throw_iff (g := g) field).mpr (.path (t := t) hpath hlacks)
    exact absurd (hvalue.symm.trans hthrow) Ask.pure_ne_throw
  · exact hfails

/-! ## All of it -/

/-- The names in the shape of a business are in the vocabulary of schema.org. -/
theorem followable_of_mem_businessShape :
    ∀ path ∈ paths businessShape, path.Followable .schemaOrg := by
  decide

/-- **Missing data never fails a projection.** A shape whose paths can all be followed is filled in
from any entity over any graph. Any other shape fails as `Fails` says, for one of its paths; not
without an entity, but from any entity if a path of its own fields cannot be followed. The failure
is that of the first field that fails. So the records of businesses never fail. -/
theorem project_fails_for_paths_alone (v : Vocabulary) (shape : Shape) :
    let projected (g : Graph) (entity : Option Term) (shape : Shape) : Ask Id Record :=
      project (Engine.ofGraph g) v entity shape
    ((∀ path ∈ paths shape, path.Followable v) →
        ∀ g entity, ∃ r, projected g entity shape = pure r) ∧
      (∀ g entity failure,
        projected g entity shape = throw failure ↔ Fails g v entity shape failure) ∧
      (∀ g entity failure, projected g entity shape = throw failure →
        ∃ path ∈ paths shape, path.Lacks v failure) ∧
      (∀ g, ∃ r, projected g none shape = pure r) ∧
      (∀ path ∈ ownPaths shape, ¬ path.Followable v →
        ∀ g t, ∃ failure, projected g (some t) shape = throw failure) ∧
      (∀ g entity failure, projected g entity shape = throw failure →
        ∃ before name field after r, shape = before ++ (name, field) :: after ∧
          projected g entity before = pure r ∧ projected g entity [(name, field)] = throw failure) ∧
      ∀ g type, ∃ records,
        projectEntities (Engine.ofGraph g : Engine Id) .schemaOrg type businessShape =
          pure records := by
  intro projected
  refine ⟨exists_project_of_followable, fun g entity failure => project_eq_throw_iff shape,
    fun g entity failure h => ((project_eq_throw_iff shape).mp h).exists_path,
    fun g => ⟨blank shape, project_none _ v shape⟩,
    fun path => exists_throw_of_not_followable,
    fun g entity failure => exists_first_failing,
    exists_projectEntities_of_followable followable_of_mem_businessShape⟩

/-- The name of someone, and the nickname of someone whom they know. -/
def nicknameShape : Shape :=
  [("name", .scalar { segments := ["name"] }),
   ("friend",
     .nested { segments := ["knows"] } [("nickname", .scalar { segments := ["nickname"] })]),
   ("weight", .scalar { segments := ["weight"] })]

/-- Neither the nickname nor the weight has a predicate. In the circle there is a friend, whose
nickname is asked for before the weight; over no data the friend is skipped, and the weight fails.
The fields before the two fail nowhere. -/
theorem project_fails_for_nickname :
    let v : Vocabulary := ⟨[("knows", "e:knows"), ("name", "e:name")]⟩
    let ada := some (Term.iri "e:a")
    let weight : Path := { segments := ["weight"] }
    let projected (g : Graph) (shape : Shape) : Ask Id Record :=
      project (Engine.ofGraph g) v ada shape
    ((∀ path ∈ paths (nicknameShape.take 1), path.Followable v) ∧
      ∃ r, projected Path.circle (nicknameShape.take 1) = pure r) ∧
    (weight ∈ ownPaths nicknameShape ∧ ¬ weight.Followable v ∧
      ∃ failure, projected [] nicknameShape = throw failure) ∧
    (projected Path.circle nicknameShape = throw (.unknownProperty "nickname") ∧
      (∃ path ∈ paths nicknameShape, path.Lacks v (.unknownProperty "nickname")) ∧
      ∃ before name field after r, nicknameShape = before ++ (name, field) :: after ∧
        projected Path.circle before = pure r ∧
        projected Path.circle [(name, field)] = throw (.unknownProperty "nickname")) ∧
    projected [] nicknameShape = throw (.unknownProperty "weight") := by
  intro v ada weight projected
  have hname : ∀ path ∈ paths (nicknameShape.take 1), path.Followable v := by decide
  have hweight : weight ∈ ownPaths nicknameShape := by decide
  have hnot : ¬ weight.Followable v := by decide
  have hnickname : projected Path.circle nicknameShape = throw (.unknownProperty "nickname") := rfl
  obtain ⟨hfilled, -⟩ := project_fails_for_paths_alone v (nicknameShape.take 1)
  obtain ⟨-, -, hlacks, -, hfails, hfirst, -⟩ := project_fails_for_paths_alone v nicknameShape
  exact ⟨⟨hname, hfilled hname Path.circle ada⟩,
    ⟨hweight, hnot, hfails weight hweight hnot [] (.iri "e:a")⟩,
    ⟨hnickname, hlacks Path.circle ada _ hnickname, hfirst Path.circle ada _ hnickname⟩, rfl⟩

end LinkedData.Record
