import LinkedData.JsonLd.Conversion
import LinkedData.Proofs.JsonLd.Realized
import Mathlib.Logic.Relation

/-!
# LinkedData.Proofs.JsonLd.Moves -- a converter, one move at a time

Whatever a converter takes in, it makes five kinds of moves: it begins a document, finds the
subject of a node, finds a node that is mentioned, states something about a subject that it has
found, and links a list cell. `Move` says what each of them does, and every function of the
converter is a course of moves, whether or not it fails. So what every move keeps, every conversion
keeps.

What may be stated about depends on the subjects found before; a list cell never becomes one.
-/

namespace LinkedData.JsonLd

open LinkedData.Rdf

/-- A converter at work, and the subjects that it has found. -/
structure Work where
  subjects : List Node
  converter : Converter

/-- How a converter finds a node: an IRI is itself, a label of the document is in the table or is
put there with the next blank node, and what has no identifier is the next blank node. -/
inductive Finds (c : Converter) : Node → Converter → Prop
  | iri (i : Iri) : Finds c (.iri i) c
  | known {written issued : String} : c.labels.find? written = some issued →
      Finds c (.blank issued) c
  | label {written : String} : c.labels.find? written = none →
      Finds c (.blank (Converter.label c.issued))
        { c with
          issued := c.issued + 1
          labels := c.labels.insert written (Converter.label c.issued) }
  | fresh : Finds c (.blank (Converter.label c.issued)) { c with issued := c.issued + 1 }

/-- One move of a converter. -/
inductive Move : Work → Work → Prop
  | document (ns : List Node) (c : Converter) : Move ⟨ns, c⟩ ⟨ns, { c with labels := [] }⟩
  | subject {ns : List Node} {c c' : Converter} {n : Node} : Finds c n c' →
      Move ⟨ns, c⟩ ⟨n :: ns, c'⟩
  | mention {ns : List Node} {c c' : Converter} {n : Node} : Finds c n c' →
      Move ⟨ns, c⟩ ⟨ns, c'⟩
  | state {ns : List Node} {q : Quad} (c : Converter) : q.subject ∈ ns →
      Move ⟨ns, c⟩ ⟨ns, { c with quads := c.quads ++ [q] }⟩
  | cell (ns : List Node) (c : Converter) (graph : Option Node) (item : Term) (next : Node) :
      Move ⟨ns, c⟩ ⟨ns, { c with
        issued := c.issued + 1
        quads := c.quads ++
          [⟨.blank (Converter.label c.issued), rdfFirst, item, graph⟩,
            ⟨.blank (Converter.label c.issued), rdfRest, .node next, graph⟩] }⟩

/-- Any number of moves, one after another. -/
abbrev Moves : Work → Work → Prop :=
  Relation.ReflTransGen Move

/-- From some subjects on, a computation is a course of moves, which may find more subjects. A
result has a property that may depend on the subjects found. -/
def MovesBy {α : Type} (ns : List Node) (x : Convert α) (P : List Node → α → Prop) : Prop :=
  ∀ c, ∃ ns', ns ⊆ ns' ∧
    match x.run c with
    | .ok a c' => Moves ⟨ns, c⟩ ⟨ns', c'⟩ ∧ P ns' a
    | .error _ c' => Moves ⟨ns, c⟩ ⟨ns', c'⟩

/-! ## Courses of moves -/

section Rules

variable {α β : Type} {ns : List Node} {P : List Node → α → Prop}

theorem movesBy_pure {a : α} (h : P ns a) : MovesBy ns (pure a) P :=
  fun _ => ⟨ns, List.Subset.refl ns, .refl, h⟩

theorem movesBy_throw (e : Document.Error) : MovesBy ns (throw e : Convert α) P :=
  fun _ => ⟨ns, List.Subset.refl ns, .refl⟩

theorem MovesBy.bind {x : Convert α} {f : α → Convert β} {Q : List Node → β → Prop}
    (hx : MovesBy ns x P) (hf : ∀ ns', ns ⊆ ns' → ∀ a, P ns' a → MovesBy ns' (f a) Q) :
    MovesBy ns (x >>= f) Q := by
  intro c
  obtain ⟨ns₁, hsub, hx⟩ := hx c
  rw [EStateM.run_bind]
  cases hrun : x.run c with
  | error e c₁ =>
    rw [hrun] at hx
    exact ⟨ns₁, hsub, hx⟩
  | ok a c₁ =>
    rw [hrun] at hx
    obtain ⟨ns₂, hsub₂, hrest⟩ := hf ns₁ hsub a hx.2 c₁
    refine ⟨ns₂, List.Subset.trans hsub hsub₂, ?_⟩
    show match (f a).run c₁ with
      | .ok b c₂ => Moves ⟨ns, c⟩ ⟨ns₂, c₂⟩ ∧ Q ns₂ b
      | .error _ c₂ => Moves ⟨ns, c⟩ ⟨ns₂, c₂⟩
    cases hrest' : (f a).run c₁ with
    | ok b c₂ =>
      rw [hrest'] at hrest
      exact ⟨hx.1.trans hrest.1, hrest.2⟩
    | error e c₂ =>
      rw [hrest'] at hrest
      exact hx.1.trans hrest

/-- Two computations in a row succeed when both do. -/
theorem run_bind_ok {x : Convert α} {f : α → Convert β} {c c₂ : Converter} {b : β} :
    (x >>= f).run c = .ok b c₂ ↔ ∃ a c₁, x.run c = .ok a c₁ ∧ (f a).run c₁ = .ok b c₂ := by
  rw [EStateM.run_bind]
  cases x.run c with
  | error e c₁ => simp
  | ok a c₁ => simp

/-- The converter after a computation has moved there. -/
theorem MovesBy.moves_of_ok {x : Convert α} (hx : MovesBy ns x P) {c c' : Converter} {a : α}
    (h : x.run c = .ok a c') : ∃ ns', ns ⊆ ns' ∧ Moves ⟨ns, c⟩ ⟨ns', c'⟩ := by
  obtain ⟨ns', hsub, hx⟩ := hx c
  rw [h] at hx
  exact ⟨ns', hsub, hx.1⟩

end Rules

/-! ## Subjects, types and cells -/

/-- An identifier always stands for a node. -/
theorem run_nodeOf (id : String) (c : Converter) :
    ∃ n c', (Converter.nodeOf id).run c = .ok n c' ∧ Finds c n c' := by
  rw [Converter.nodeOf]
  cases blankLabel? id with
  | none => exact ⟨.iri id, c, rfl, .iri id⟩
  | some written =>
    show ∃ n c', (Converter.ofLabel written >>= fun s => pure (Node.blank s)).run c = .ok n c' ∧ _
    rw [EStateM.run_bind, run_ofLabel]
    cases hfind : c.labels.find? written with
    | some issued => exact ⟨.blank issued, c, rfl, .known hfind⟩
    | none => exact ⟨_, _, rfl, .label hfind⟩

/-- A node object has a subject, unless its identifier is no string. -/
theorem run_subjectOf (members : Json.Members) (c : Converter) :
    (∃ n c', (Converter.subjectOf members).run c = .ok n c' ∧ Finds c n c') ∨
      ∃ e, (Converter.subjectOf members).run c = .error e c := by
  rw [Converter.subjectOf]
  cases Dict.find? members "@id" with
  | none => exact .inl ⟨_, _, rfl, .fresh⟩
  | some id =>
    cases id with
    | string id => exact .inl (run_nodeOf id c)
    | _ => exact .inr ⟨_, rfl⟩

section Nodes

variable {ns : List Node} (graph : Option Node)

theorem movesBy_emit {q : Quad} (h : q.subject ∈ ns) :
    MovesBy ns (Converter.emit q) fun _ _ => True :=
  fun c => ⟨ns, List.Subset.refl ns, .single (.state c h), trivial⟩

theorem movesBy_nodeOf (id : String) : MovesBy ns (Converter.nodeOf id) fun _ _ => True := by
  intro c
  obtain ⟨n, c', hrun, hfinds⟩ := run_nodeOf id c
  rw [hrun]
  exact ⟨ns, List.Subset.refl ns, .single (.mention hfinds), trivial⟩

theorem movesBy_subjectOf (members : Json.Members) :
    MovesBy ns (Converter.subjectOf members) fun ns' n => n ∈ ns' := by
  intro c
  obtain ⟨n, c', hrun, hfinds⟩ | ⟨e, hrun⟩ := run_subjectOf members c
  · rw [hrun]
    exact ⟨n :: ns, List.subset_cons_self n ns, .single (.subject hfinds), List.mem_cons_self⟩
  · rw [hrun]
    exact ⟨ns, List.Subset.refl ns, .refl⟩

theorem movesBy_emitTypes {subject : Node} (h : subject ∈ ns) (types : List String) :
    MovesBy ns (Converter.emitTypes graph subject types) fun _ _ => True := by
  induction types generalizing ns with
  | nil => exact movesBy_pure trivial
  | cons type rest ih =>
    rw [Converter.emitTypes]
    refine (movesBy_nodeOf type).bind fun ns₁ h₁ object _ => ?_
    refine (movesBy_emit (h₁ h)).bind fun ns₂ h₂ _ _ => ?_
    exact ih (h₂ (h₁ h))

theorem movesBy_beginNode (members : Json.Members) :
    MovesBy ns (Converter.beginNode graph members) fun ns' n => n ∈ ns' := by
  refine (movesBy_subjectOf members).bind fun ns₁ _ n hn => ?_
  refine (movesBy_emitTypes graph hn _).bind fun ns₂ h₂ _ _ => ?_
  exact movesBy_pure (h₂ hn)

/-- A list is linked from its last item on: what is done for the first item comes last. -/
theorem run_linkCells_cons {item : Term} {rest : List Term} {c c' : Converter} {next : Node}
    (h : (Converter.linkCells graph rest).run c = .ok next c') :
    (Converter.linkCells graph (item :: rest)).run c =
      .ok (.blank (Converter.label c'.issued)) { c' with
        issued := c'.issued + 1
        quads := c'.quads ++
          [⟨.blank (Converter.label c'.issued), rdfFirst, item, graph⟩,
            ⟨.blank (Converter.label c'.issued), rdfRest, .node next, graph⟩] } := by
  rw [Converter.linkCells, EStateM.run_bind, h, List.append_cons c'.quads]
  rfl

theorem movesBy_linkCells (items : List Term) :
    MovesBy ns (Converter.linkCells graph items) fun _ _ => True := by
  intro c
  refine ⟨ns, List.Subset.refl ns, ?_⟩
  obtain ⟨n, c', hrun, hmoves⟩ :
      ∃ n c', (Converter.linkCells graph items).run c = .ok n c' ∧ Moves ⟨ns, c⟩ ⟨ns, c'⟩ := by
    induction items with
    | nil => exact ⟨_, c, rfl, .refl⟩
    | cons item rest ih =>
      obtain ⟨next, c₁, hrest, hmoves⟩ := ih
      exact ⟨_, _, run_linkCells_cons graph hrest, hmoves.tail (.cell ns c₁ graph item next)⟩
  rw [hrun]
  exact ⟨hmoves, trivial⟩

end Nodes

/-! ## Objects of properties -/

section Objects

variable (graph : Option Node)

mutual

theorem movesBy_objectOf (ns : List Node) : (item : Json) →
    MovesBy ns (Converter.objectOf graph item) fun _ _ => True
  | .object members => by
    rw [Converter.objectOf]
    cases Dict.find? members "@value" with
    | some value => exact movesBy_pure trivial
    | none =>
      by_cases hlist : Dict.has members "@list" = true
      · show MovesBy ns (ite _ _ _) _
        rw [if_pos hlist]
        exact movesBy_listIn ns members
      · show MovesBy ns (ite _ _ (ite _ _ _)) _
        rw [if_neg hlist]
        by_cases href : members.length = 1 ∧ Dict.has members "@id" = true
        · rw [if_pos href]
          exact (movesBy_subjectOf members).bind fun _ _ _ _ => movesBy_pure trivial
        · rw [if_neg href]
          refine (movesBy_beginNode graph members).bind fun ns₁ _ n hn => ?_
          exact (movesBy_properties ns₁ hn members).bind fun _ _ _ _ => movesBy_pure trivial
  | .null | .bool _ | .number _ | .string _ | .array _ => movesBy_pure trivial

theorem movesBy_listIn (ns : List Node) : (members : List (String × Json)) →
    MovesBy ns (Converter.listIn graph members) fun _ _ => True
  | [] => movesBy_pure trivial
  | (key, value) :: rest => by
    rw [Converter.listIn]
    by_cases hkey : key = "@list"
    · rw [if_pos hkey]
      exact (movesBy_listOf ns value).bind fun _ _ _ _ => movesBy_pure trivial
    · rw [if_neg hkey]
      exact movesBy_listIn ns rest

theorem movesBy_listOf (ns : List Node) : (list : Json) →
    MovesBy ns (Converter.listOf graph list) fun _ _ => True
  | .array items => (movesBy_objectsOf ns items).bind fun _ _ objects _ =>
      movesBy_linkCells graph objects
  | .null | .bool _ | .number _ | .string _ | .object _ => movesBy_throw _

theorem movesBy_objectsOf (ns : List Node) : (items : List Json) →
    MovesBy ns (Converter.objectsOf graph items) fun _ _ => True
  | [] => movesBy_pure trivial
  | item :: rest => by
    rw [Converter.objectsOf]
    refine (movesBy_objectOf ns item).bind fun ns₁ _ _ _ => ?_
    exact (movesBy_objectsOf ns₁ rest).bind fun _ _ _ _ => movesBy_pure trivial

theorem movesBy_properties (ns : List Node) {subject : Node} (h : subject ∈ ns) :
    (members : List (String × Json)) →
    MovesBy ns (Converter.properties graph subject members) fun _ _ => True
  | [] => movesBy_pure trivial
  | (key, value) :: rest => by
    rw [Converter.properties]
    by_cases hkey : isKeyword key
    · rw [if_pos hkey]
      exact movesBy_properties ns h rest
    · rw [if_neg hkey]
      exact (movesBy_property ns h key value).bind fun ns₁ h₁ _ _ =>
        movesBy_properties ns₁ (h₁ h) rest

theorem movesBy_property (ns : List Node) {subject : Node} (h : subject ∈ ns) (predicate : Iri) :
    (value : Json) → MovesBy ns (Converter.property graph subject predicate value) fun _ _ => True
  | .array items => movesBy_propertyItems ns h predicate items
  | .null | .bool _ | .number _ | .string _ | .object _ => movesBy_pure trivial

theorem movesBy_propertyItems (ns : List Node) {subject : Node} (h : subject ∈ ns)
    (predicate : Iri) : (items : List Json) →
    MovesBy ns (Converter.propertyItems graph subject predicate items) fun _ _ => True
  | [] => movesBy_pure trivial
  | item :: rest => by
    rw [Converter.propertyItems]
    refine (movesBy_objectOf ns item).bind fun ns₁ h₁ object _ => ?_
    cases object with
    | none => exact movesBy_propertyItems ns₁ (h₁ h) predicate rest
    | some t =>
      exact (movesBy_emit (h₁ h)).bind fun ns₂ h₂ _ _ =>
        movesBy_propertyItems ns₂ (h₂ (h₁ h)) predicate rest

end

end Objects

/-! ## Documents -/

section Documents

variable (ns : List Node) (graph : Option Node)

theorem movesBy_node (members : Json.Members) :
    MovesBy ns (Converter.node graph members) fun ns' n => n ∈ ns' := by
  refine (movesBy_beginNode graph members).bind fun ns₁ _ n hn => ?_
  exact (movesBy_properties graph ns₁ hn members).bind fun ns₂ h₂ _ _ => movesBy_pure (h₂ hn)

theorem movesBy_nodes (items : List Json) :
    MovesBy ns (Converter.nodes graph items) fun _ _ => True := by
  induction items generalizing ns with
  | nil => exact movesBy_pure trivial
  | cons item rest ih =>
    cases item with
    | object members =>
      rw [Converter.nodes]
      exact (movesBy_node ns graph members).bind fun ns₁ _ _ _ => ih ns₁
    | _ => exact ih ns

theorem movesBy_graphOf (members : Json.Members) :
    MovesBy ns (Converter.graphOf members) fun _ _ => True := by
  rw [Converter.graphOf]
  cases (Dict.find? members "@id").bind Json.string? with
  | none => exact movesBy_pure trivial
  | some id =>
    by_cases hany : (members.any fun m => m.1 != "@id" && m.1 != "@graph") = true
    · show MovesBy ns (ite _ _ _) _
      rw [if_pos hany]
      exact (movesBy_node ns none members).bind fun _ _ _ _ => movesBy_pure trivial
    · show MovesBy ns (ite _ _ _) _
      rw [if_neg hany]
      exact (movesBy_nodeOf id).bind fun _ _ _ _ => movesBy_pure trivial

theorem movesBy_topLevel (members : Json.Members) :
    MovesBy ns (Converter.topLevel members) fun _ _ => True := by
  rw [Converter.topLevel]
  cases Dict.find? members "@graph" with
  | none => exact (movesBy_node ns none members).bind fun _ _ _ _ => movesBy_pure trivial
  | some graphNodes =>
    exact (movesBy_graphOf ns members).bind fun ns₁ _ graph _ => movesBy_nodes ns₁ graph _

theorem movesBy_topLevels (items : List Json) :
    MovesBy ns (Converter.topLevels items) fun _ _ => True := by
  induction items generalizing ns with
  | nil => exact movesBy_pure trivial
  | cons item rest ih =>
    cases item with
    | object members =>
      rw [Converter.topLevels]
      exact (movesBy_topLevel ns members).bind fun ns₁ _ _ _ => ih ns₁
    | _ => exact ih ns

theorem movesBy_convert (document : Json) :
    MovesBy ns (Converter.convert document) fun _ _ => True := by
  cases document with
  | array items =>
    have hbegin : MovesBy ns (modify fun c => { c with labels := [] } : Convert Unit)
        fun _ _ => True :=
      fun c => ⟨ns, List.Subset.refl ns, .single (.document ns c), trivial⟩
    exact hbegin.bind fun ns₁ _ _ _ => movesBy_topLevels ns₁ items
  | _ => exact movesBy_throw _

end Documents

end LinkedData.JsonLd
