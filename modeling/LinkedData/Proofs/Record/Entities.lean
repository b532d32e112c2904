import LinkedData.Proofs.Engine.Inquiry
import LinkedData.Proofs.Engine.Success
import LinkedData.Proofs.Query.Solution
import LinkedData.Record.Projection

/-!
# LinkedData.Proofs.Record.Entities -- the records of all nodes of a type

Over a graph the records of a type are those of the nodes that the default graph states to
have it, one for each node, in the order in which the nodes first appear there. Over any
engine, asking for them is an inquiry: it goes on for as long as there are answers, and the
first failure is all that comes of it.
-/

namespace LinkedData.Record

open LinkedData.Query LinkedData.Rdf

/-! ## The nodes of a type -/

/-- The quads of the default graph that state a node to have a type. -/
def typings (g : Graph) (type : Iri) : Graph :=
  g.filter fun q => q.graph.isNone && q.predicate == rdfType && q.object == .iri type

/-- The pattern of a type fits the quads that state it, and binds their subject. -/
theorem extend_subjectsOfType (type : Iri) (q : Quad) :
    Pattern.extend ⟨.variable "entity", .term (.iri rdfType), .term (.iri type)⟩ q [] =
      if q.predicate == rdfType && q.object == .iri type then some [("entity", .node q.subject)]
      else none := by
  by_cases hp : q.predicate = rdfType
  · by_cases ho : q.object = .iri type
    · simp [Pattern.extend, Slot.extend, Dict.find?, Dict.insert, hp, ho]
    · simp [Pattern.extend, Slot.extend, Dict.find?, Dict.insert, hp, ho, Ne.symm ho]
  · have hne : Term.iri rdfType ≠ Term.iri q.predicate := by
      intro h
      injection h with h
      injection h with h
      exact hp h.symm
    simp [Pattern.extend, Slot.extend, Dict.find?, Dict.insert, hp, hne]

theorem filterMap_guarded {α β : Type} (p : α → Bool) (f : α → β) (xs : List α) :
    xs.filterMap (fun x => if p x then some (f x) else none) = (xs.filter p).map f := by
  induction xs with
  | nil => rfl
  | cons x xs ih => by_cases h : p x <;> simp [h, ih]

/-- One binding for each quad that states the type. -/
theorem join_subjectsOfType (g : Graph) (type : Iri) :
    join (inScope .defaultGraph g) (Select.subjectsOfType type).patterns =
      (typings g type).map fun q => [("entity", .node q.subject)] := by
  have hscope : ∀ q : Quad, Scope.defaultGraph.contains q.graph = q.graph.isNone := by
    intro q
    cases q.graph <;> rfl
  have htypings : (inScope .defaultGraph g).filter
      (fun q => q.predicate == rdfType && q.object == .iri type) = typings g type := by
    rw [inScope, List.filter_filter, typings]
    apply List.filter_congr
    intro q _
    rw [hscope, Bool.and_comm, Bool.and_assoc]
  simp only [join, joinStep, Select.subjectsOfType, List.foldl_cons, List.foldl_nil,
    List.flatMap_cons, List.flatMap_nil, List.append_nil, extend_subjectsOfType,
    filterMap_guarded, htypings]

/-- Items that differ keep their first occurrences when they are replaced one by one. -/
theorem firsts_map {α β : Type} {f : α → β} (hf : Function.Injective f) {xs ys : List α}
    (h : Firsts xs ys) : Firsts (xs.map f) (ys.map f) := by
  induction h with
  | nil => exact .nil
  | first _ hnew ih =>
    rw [List.map_append, List.map_append]
    refine .first ih ?_
    rwa [List.mem_map_of_injective hf]
  | again _ hold ih =>
    rw [List.map_append]
    exact .again ih (List.mem_map_of_mem hold)

/-- Over a graph the nodes of a type are found once each, in the order in which the default
graph first states them to have it. -/
theorem findEntities_ofGraph {g : Graph} {type : Iri} {subjects : List Node}
    (h : Firsts ((typings g type).map (·.subject)) subjects) :
    findEntities (Engine.ofGraph g : Engine Id) type = pure (subjects.map Term.node) := by
  have hinj : Function.Injective fun n : Node => ([("entity", .node n)] : Binding) := by
    intro n n' heq
    simpa using heq
  have hsolve : solve g (.subjectsOfType type) =
      subjects.map fun n => [("entity", .node n)] := by
    have hfirsts := firsts_iff.mp (firsts_map hinj h)
    show (List.map (Query.project ["entity"])
      (join (inScope .defaultGraph g) (Select.subjectsOfType type).patterns)).eraseDups = _
    rw [hfirsts, join_subjectsOfType, List.map_map, List.map_map]
    rfl
  have hvalue : ∀ n : Node, Dict.find? [("entity", Term.node n)] "entity" = some (.node n) :=
    fun _ => rfl
  simp only [findEntities, Engine.ofGraph, hsolve, pure_bind, List.filterMap_map,
    Function.comp_def, hvalue, List.filterMap_eq_map']

/-! ## Projecting is an inquiry -/

theorem isInquiry_reachOne (entity : Option Term) (path : Path) :
    IsInquiry fun _ _ e v => reachOne e v entity path := by
  cases entity with
  | none => exact .pure none
  | some t => exact .bind (.evaluate t path) fun ts => .pure ts.head?

theorem isInquiry_reachAll (entity : Option Term) (path : Path) :
    IsInquiry fun _ _ e v => reachAll e v entity path := by
  cases entity with
  | none => exact .pure []
  | some t => exact .evaluate t path

mutual

theorem isInquiry_project : ∀ (shape : Shape) (entity : Option Term),
    IsInquiry fun _ _ e v => project e v entity shape
  | [], _ => .pure []
  | (name, field) :: rest, entity =>
    .bind (isInquiry_projectField field entity) fun value =>
      .bind (isInquiry_project rest entity) fun others => .pure (consField name value others)

theorem isInquiry_projectField : ∀ (field : Field) (entity : Option Term),
    IsInquiry fun _ _ e v => projectField e v entity field
  | .identifier, entity => .pure (some (Value.ofTerm entity))
  | .scalar path, entity => .bind (isInquiry_reachOne entity path) fun t => .pure _
  | .all path, entity => .bind (isInquiry_reachAll entity path) fun ts => .pure _
  | .nested path shape, entity =>
    .bind (isInquiry_reachOne entity path) fun t =>
      .bind (isInquiry_project shape t) fun r => .pure _
  | .repeated path shape, entity =>
    .bind (isInquiry_reachAll entity path) fun ts =>
      .bind (.mapM (fun t => isInquiry_project shape (some t)) ts) fun rs => .pure _
  | .gated path shape, entity => by
    refine .bind (isInquiry_reachOne entity path) fun first => ?_
    cases first with
    | none => exact .pure none
    | some t => exact .bind (isInquiry_project shape (some t)) fun r => .pure _

end

theorem isInquiry_projectEntities (type : Iri) (shape : Shape) :
    IsInquiry fun _ _ e v => projectEntities e v type shape := by
  have hfind : IsInquiry fun _ _ e _ => findEntities e type :=
    .bind (.question (.solutions (.subjectsOfType type))) fun bindings => .pure _
  exact .bind hfind fun entities => .mapM (fun t => isInquiry_project shape (some t)) entities

/-- The records of a type, over a graph and over any engine. -/
theorem projectEntities_one_each_until_failure (type : Iri) (shape : Shape) :
    (∀ (g : Graph) (v : Vocabulary) (records : List Record),
      projectEntities (Engine.ofGraph g : Engine Id) v type shape = pure records ↔
        ∃ subjects, Firsts ((typings g type).map (·.subject)) subjects ∧
          List.Forall₂ (fun n r =>
            project (Engine.ofGraph g : Engine Id) v (some (.node n)) shape = pure r)
            subjects records) ∧
    ∃ inquiry : Inquiry (List Record),
      ∀ {σ : Type} (e : Engine (StateM σ)) (v : Vocabulary) (s : σ), ∃ log result s',
        ((inquiry.run (logged (e.answers v))).run.run []).run s = ((result, log), s') ∧
        (projectEntities e v type shape).run.run s = (result, s') ∧
        ((projectEntities e.recorded v type shape).run.run []).run s =
          ((result, queries log), s') ∧
        EndsAtFirstFailure log result := by
  constructor
  · intro g v records
    rw [projectEntities]
    constructor
    · intro h
      obtain ⟨subjects, hsubjects⟩ : ∃ subjects,
          Firsts ((typings g type).map (·.subject)) subjects := ⟨_, firsts_iff.mpr rfl⟩
      rw [findEntities_ofGraph hsubjects, pure_bind, Ask.mapM_eq_pure,
        List.forall₂_map_left_iff] at h
      exact ⟨subjects, hsubjects, h⟩
    · rintro ⟨subjects, hsubjects, hrecords⟩
      rw [findEntities_ofGraph hsubjects, pure_bind, Ask.mapM_eq_pure,
        List.forall₂_map_left_iff]
      exact hrecords
  · obtain ⟨inquiry, hinquiry⟩ := isInquiry_projectEntities type shape
    refine ⟨inquiry, fun e v s => ?_⟩
    obtain ⟨log, result, s', hlog, hplain, hrecord, hends⟩ := inquiry.run_logged e v [] s
    refine ⟨log, result, s', hlog, ?_, ?_, hends⟩
    · rw [← hplain, ← hinquiry]
    · have hqueries : queries log = queries ([] ++ log) := rfl
      rw [hqueries, ← hrecord, ← hinquiry]
      rfl

end LinkedData.Record
