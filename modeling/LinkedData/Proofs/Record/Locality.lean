import LinkedData.Proofs.Record.Conformance
import Mathlib.Logic.Relation

/-!
# LinkedData.Proofs.Record.Locality -- a record depends on what its entity reaches

A projection finds out on its way which terms it has to ask about, and asks about no term that
the entity does not reach. `SameEdges` says of two graphs that no question about a term that
is reached tells them apart: the same quads lead on from it, in the same order, in every scope
that the shape looks at. Two such graphs give the same record, or the same failure.

An `Edit` is a change that keeps them so: a quad about something that is not reached comes in,
a quad outside all scopes comes in or goes, or two neighbours change places that do not lead
from the same subject along the same predicate.
-/

namespace LinkedData.Record

open LinkedData.Query LinkedData.Rdf

/-! ## Reaching terms -/

/-- A quad, whatever its graph is, leads from its subject to its object. -/
def Leads (g : Graph) (t u : Term) : Prop :=
  ∃ q ∈ g, t = .node q.subject ∧ u = q.object

/-- Quads lead from a term to another one, in any number of steps. -/
def Reaches (g : Graph) : Term → Term → Prop :=
  Relation.ReflTransGen (Leads g)

/-- Terms that the quads of a graph do not lead out of hold whatever one of them reaches. -/
theorem Reaches.mem_of_closed {g : Graph} {t u : Term} (h : Reaches g t u) {terms : List Term}
    (ht : t ∈ terms) (hclosed : ∀ q ∈ g, .node q.subject ∈ terms → q.object ∈ terms) :
    u ∈ terms := by
  induction h with
  | refl => exact ht
  | tail _ hlast ih =>
    obtain ⟨q, hq, rfl, rfl⟩ := hlast
    exact hclosed q hq ih

/-- The terms on a walk are reached from where it starts. -/
theorem reaches_of_mem_reach {g : Graph} {scope : Scope} {predicates : List Iri} {t u : Term}
    (h : u ∈ Path.reach g scope predicates t) : Reaches g t u := by
  induction predicates generalizing t with
  | nil =>
    rw [Path.reach, List.mem_singleton] at h
    rw [h]
    exact .refl
  | cons p ps ih =>
    cases t with
    | literal l => cases h
    | node n =>
      simp only [Path.reach, List.mem_flatMap] at h
      obtain ⟨q, hq, hu⟩ := h
      simp only [Path.edges, List.mem_filter, Bool.and_eq_true, beq_iff_eq] at hq
      obtain ⟨hmem, ⟨_, hsubject⟩, _⟩ := hq
      have hleads : Leads g (.node n) q.object := ⟨q, hmem, by rw [hsubject], rfl⟩
      exact .head hleads (ih hu)

/-! ## Graphs that answer alike -/

/-- No question about a term that is reached tells two graphs apart, as long as it is asked in
one of some scopes. -/
def SameEdges (scopes : List Scope) (g g' : Graph) (t : Term) : Prop :=
  ∀ n, Reaches g t (.node n) → ∀ scope ∈ scopes, ∀ p,
    Path.edges g scope n p = Path.edges g' scope n p

variable {g g' : Graph}

theorem SameEdges.of_reaches {scopes : List Scope} {t u : Term} (h : SameEdges scopes g g' t)
    (hu : Reaches g t u) : SameEdges scopes g g' u :=
  fun n hn => h n (hu.trans hn)

theorem SameEdges.mono {scopes fewer : List Scope} {t : Term} (h : SameEdges scopes g g' t)
    (hsub : fewer ⊆ scopes) : SameEdges fewer g g' t :=
  fun n hn scope hscope => h n hn scope (hsub hscope)

/-- Graphs that answer alike are walked alike. -/
theorem SameEdges.reach_eq {scope : Scope} {t : Term} (h : SameEdges [scope] g g' t)
    (predicates : List Iri) :
    Path.reach g scope predicates t = Path.reach g' scope predicates t := by
  induction predicates generalizing t with
  | nil => rfl
  | cons p ps ih =>
    cases t with
    | literal l => rfl
    | node n =>
      rw [Path.reach, Path.reach, ← h n .refl scope (List.mem_singleton_self scope) p]
      refine List.flatMap_congr fun q hq => ih (h.of_reaches ?_)
      refine @reaches_of_mem_reach _ scope [p] _ _ ?_
      simp only [Path.reach, List.mem_flatMap, List.mem_singleton]
      exact ⟨q, hq, rfl⟩

/-! ## Records of graphs that answer alike -/

mutual

/-- The scopes that the paths of a shape look at, at any depth. -/
def scopes : List (String × Field) → List Scope
  | [] => []
  | (_, field) :: rest => fieldScopes field ++ scopes rest

/-- The scopes that the paths of a field look at. -/
def fieldScopes : Field → List Scope
  | .identifier => []
  | .scalar path => [path.scope]
  | .all path => [path.scope]
  | .nested path shape => path.scope :: scopes shape
  | .repeated path shape => path.scope :: scopes shape
  | .gated path shape => path.scope :: scopes shape

end

section Projecting

variable {m : Type → Type} [Monad m] {v : Vocabulary}

/-- Following a path and going on with what it reaches comes to the same over graphs that
answer alike, if going on from reached terms does. -/
theorem SameEdges.evaluate_bind [LawfulMonad m] {β : Type} {path : Path} {t : Term}
    (h : SameEdges [path.scope] g g' t) {next next' : List Term → Ask m β}
    (hnext : ∀ ts, (∀ u ∈ ts, Reaches g t u) → next ts = next' ts) :
    (path.evaluate (Engine.ofGraph g) v t >>= next) =
      (path.evaluate (Engine.ofGraph g') v t >>= next') := by
  rw [Path.evaluate_ofGraph_eq, Path.evaluate_ofGraph_eq]
  cases path.predicates v with
  | error failure => rw [Ask.throw_bind, Ask.throw_bind]
  | ok predicates =>
    rw [pure_bind, pure_bind, ← h.reach_eq predicates]
    exact hnext _ fun u hu => reaches_of_mem_reach hu

/-- The same for the first term that a path reaches. -/
theorem SameEdges.evaluateOne_bind [LawfulMonad m] {β : Type} {path : Path} {t : Term}
    (h : SameEdges [path.scope] g g' t) {next next' : Option Term → Ask m β}
    (hnext : ∀ first, (∀ u ∈ first, Reaches g t u) → next first = next' first) :
    (path.evaluateOne (Engine.ofGraph g) v t >>= next) =
      (path.evaluateOne (Engine.ofGraph g') v t >>= next') := by
  simp only [Path.evaluateOne, bind_assoc, pure_bind]
  exact h.evaluate_bind fun ts hts => hnext ts.head? fun u hu => hts u (List.mem_of_mem_head? hu)

mutual

/-- The induction is on the shape and its fields; the entity changes to terms that it reaches,
about which the graphs answer alike as well. -/
theorem SameEdges.project_eq [LawfulMonad m] : ∀ (shape : Shape) {t : Term},
    SameEdges (scopes shape) g g' t →
    project (Engine.ofGraph g : Engine m) v (some t) shape =
      project (Engine.ofGraph g' : Engine m) v (some t) shape
  | [], t, _ => by rw [project, project]
  | (name, field) :: rest, t, h => by
    rw [scopes] at h
    rw [project, project, SameEdges.projectField_eq field (h.mono (List.subset_append_left _ _)),
      SameEdges.project_eq rest (h.mono (List.subset_append_right _ _))]

theorem SameEdges.projectField_eq [LawfulMonad m] : ∀ (field : Field) {t : Term},
    SameEdges (fieldScopes field) g g' t →
    projectField (Engine.ofGraph g : Engine m) v (some t) field =
      projectField (Engine.ofGraph g' : Engine m) v (some t) field
  | .identifier, _, _ => rfl
  | .scalar path, t, h => by
    rw [fieldScopes] at h
    simp only [projectField, reachOne]
    exact h.evaluateOne_bind fun _ _ => rfl
  | .all path, t, h => by
    rw [fieldScopes] at h
    simp only [projectField, reachAll]
    exact h.evaluate_bind fun _ _ => rfl
  | .nested path shape, t, h => by
    rw [fieldScopes] at h
    simp only [projectField, reachOne]
    refine (h.mono (by simp)).evaluateOne_bind fun first hfirst => ?_
    cases first with
    | none => rw [project_none, project_none]
    | some u =>
      rw [SameEdges.project_eq shape ((h.mono (by simp)).of_reaches (hfirst u rfl))]
  | .repeated path shape, t, h => by
    rw [fieldScopes] at h
    simp only [projectField, reachAll]
    refine (h.mono (by simp)).evaluate_bind fun ts hts => ?_
    rw [Ask.mapM_congr fun u hu =>
      SameEdges.project_eq shape ((h.mono (by simp)).of_reaches (hts u hu))]
  | .gated path shape, t, h => by
    rw [fieldScopes] at h
    simp only [projectField, reachOne]
    refine (h.mono (by simp)).evaluateOne_bind fun first hfirst => ?_
    cases first with
    | none => rfl
    | some u =>
      simp only
      rw [SameEdges.project_eq shape ((h.mono (by simp)).of_reaches (hfirst u rfl))]

end

end Projecting

/-! ## Edits -/

/-- A change of a graph that the record of an entity does not show. -/
inductive Edit (entity : Option Term) (shape : Shape) : Graph → Graph → Prop
  /-- A quad comes in whose subject is neither the entity nor reached from it. -/
  | unreached {before after : Graph} {q : Quad} :
      (∀ t, entity = some t → ¬ Reaches (before ++ after) t (.node q.subject)) →
      Edit entity shape (before ++ after) (before ++ q :: after)
  /-- A quad comes in that is outside every scope that the shape looks at. -/
  | comes {before after : Graph} {q : Quad} :
      (∀ scope ∈ scopes shape, scope.contains q.graph = false) →
      Edit entity shape (before ++ after) (before ++ q :: after)
  /-- A quad goes that is outside every scope that the shape looks at. -/
  | goes {before after : Graph} {q : Quad} :
      (∀ scope ∈ scopes shape, scope.contains q.graph = false) →
      Edit entity shape (before ++ q :: after) (before ++ after)
  /-- Two neighbours change places that differ in subject or in predicate. -/
  | swapped {before after : Graph} {q q' : Quad} :
      q.subject ≠ q'.subject ∨ q.predicate ≠ q'.predicate →
      Edit entity shape (before ++ q :: q' :: after) (before ++ q' :: q :: after)

/-- Whether a quad leads on from a node along a predicate, in a scope. -/
def leadsOn (scope : Scope) (n : Node) (p : Iri) (q : Quad) : Bool :=
  scope.contains q.graph && q.subject == n && q.predicate == p

theorem edges_insert {before after : Graph} {q : Quad} {scope : Scope} {n : Node} {p : Iri}
    (h : leadsOn scope n p q = false) :
    Path.edges (before ++ q :: after) scope n p = Path.edges (before ++ after) scope n p := by
  have hskip : (q :: after).filter (leadsOn scope n p) = after.filter (leadsOn scope n p) :=
    List.filter_cons_of_neg (by simp [h])
  show List.filter (leadsOn scope n p) _ = List.filter (leadsOn scope n p) _
  rw [List.filter_append, List.filter_append, hskip]

/-- Of two quads that differ in subject or in predicate at most one leads on from a node along
a predicate, so it does not matter which of them comes first. -/
theorem edges_swap {before after : Graph} {q q' : Quad} {scope : Scope} {n : Node} {p : Iri}
    (h : q.subject ≠ q'.subject ∨ q.predicate ≠ q'.predicate) :
    Path.edges (before ++ q :: q' :: after) scope n p =
      Path.edges (before ++ q' :: q :: after) scope n p := by
  by_cases hq : leadsOn scope n p q = true
  · have hq' : leadsOn scope n p q' = false := by
      simp only [leadsOn, Bool.and_eq_true, beq_iff_eq] at hq
      obtain ⟨⟨-, rfl⟩, rfl⟩ := hq
      simp only [leadsOn, Bool.and_eq_false_iff, beq_eq_false_iff_ne]
      rcases h with h | h
      · exact .inl (.inr h.symm)
      · exact .inr h.symm
    have hskip : Path.edges (before ++ [q] ++ q' :: after) scope n p =
        Path.edges (before ++ [q] ++ after) scope n p := edges_insert hq'
    rw [List.append_assoc, List.append_assoc] at hskip
    rw [edges_insert hq']
    exact hskip
  · rw [Bool.not_eq_true] at hq
    have hskip : Path.edges (before ++ [q'] ++ q :: after) scope n p =
        Path.edges (before ++ [q'] ++ after) scope n p := edges_insert hq
    rw [List.append_assoc, List.append_assoc] at hskip
    rw [edges_insert hq]
    exact hskip.symm

/-- What one edit leaves alone. -/
theorem Edit.sameEdges {entity : Option Term} {shape : Shape} (h : Edit entity shape g g')
    {t : Term} (ht : entity = some t) : SameEdges (scopes shape) g g' t := by
  intro n hn scope hscope p
  cases h with
  | @unreached before after q hnot =>
    -- Questions are about nodes that are reached, and the new quad is about another one.
    refine (edges_insert ?_).symm
    simp only [leadsOn, Bool.and_eq_false_iff, beq_eq_false_iff_ne]
    refine .inl (.inr ?_)
    rintro rfl
    exact hnot t ht hn
  | comes hout => exact (edges_insert (by simp [leadsOn, hout scope hscope])).symm
  | goes hout => exact edges_insert (by simp [leadsOn, hout scope hscope])
  | swapped hdiffer => exact edges_swap hdiffer

/-- No edit, and no sequence of edits, changes the record of the entity, nor the failure if
there is one instead. -/
theorem project_eq_of_edits {m : Type → Type} [Monad m] [LawfulMonad m] (v : Vocabulary)
    (shape : Shape) (entity : Option Term) (h : Relation.ReflTransGen (Edit entity shape) g g') :
    project (Engine.ofGraph g : Engine m) v entity shape =
      project (Engine.ofGraph g' : Engine m) v entity shape := by
  induction h with
  | refl => rfl
  | tail _ hlast ih =>
    rw [ih]
    cases entity with
    | none => rw [project_none, project_none]
    | some t => exact (hlast.sameEdges rfl).project_eq shape

/-- The name of someone, and the names of everyone whom they know. -/
def acquaintanceShape : Shape :=
  [("name", .scalar (.ofDotted "name")),
   ("knows", .repeated (.ofDotted "knows") [("names", .all (.ofDotted "name"))])]

/-- The circle again: its first two quads have changed places, a third person comes in between
who knows one of the two, and an archive has another name for her. -/
def editedCircle : Graph :=
  [⟨.iri "e:b", "e:knows", .iri "e:a", none⟩, ⟨.iri "e:a", "e:knows", .iri "e:b", none⟩,
   ⟨.iri "e:c", "e:knows", .iri "e:a", none⟩,
   ⟨.iri "e:b", "e:knows", .literal (.string "B"), none⟩,
   ⟨.iri "e:a", "e:knows", .iri "e:b", none⟩,
   ⟨.iri "e:a", "e:name", .literal (.string "A"), none⟩,
   ⟨.iri "e:a", "e:name", .literal (.string "Z"), some (.iri "e:archive")⟩]

/-- One edit after the other leads from the circle to the edited one. The two in the circle reach
nobody but each other, so the third person may come in. -/
theorem project_editedCircle :
    let v : Vocabulary := ⟨[("knows", "e:knows"), ("name", "e:name")]⟩
    let ada := some (Term.iri "e:a")
    Relation.ReflTransGen (Edit ada acquaintanceShape) Path.circle editedCircle ∧
      project (Engine.ofGraph Path.circle : Engine Id) v ada acquaintanceShape =
        project (Engine.ofGraph editedCircle : Engine Id) v ada acquaintanceShape := by
  intro v ada
  have hreached : ∀ u, Reaches Path.circle (.iri "e:a") u →
      u ∈ [.iri "e:a", .iri "e:b", .literal (.string "A"), .literal (.string "B")] :=
    fun u hu => hu.mem_of_closed (by decide) (by decide)
  let stranger : Quad := ⟨.iri "e:c", "e:knows", .iri "e:a", none⟩
  let archived : Quad :=
    ⟨.iri "e:a", "e:name", .literal (.string "Z"), some (.iri "e:archive")⟩
  let joined : Graph := Path.circle.take 2 ++ stranger :: Path.circle.drop 2
  have hstranger : Edit ada acquaintanceShape Path.circle joined := by
    show Edit ada acquaintanceShape (Path.circle.take 2 ++ Path.circle.drop 2) joined
    refine .unreached ?_
    intro t ht hreaches
    obtain rfl : Term.iri "e:a" = t := Option.some.inj ht
    exact absurd (hreached _ hreaches) (by decide)
  have harchived : Edit ada acquaintanceShape joined (joined ++ [archived]) := by
    have hout : ∀ scope ∈ scopes acquaintanceShape, scope.contains archived.graph = false := by
      decide
    have hcomes : Edit ada acquaintanceShape (joined ++ []) (joined ++ [archived]) := .comes hout
    rwa [List.append_nil] at hcomes
  have hswapped : Edit ada acquaintanceShape (joined ++ [archived]) editedCircle := by
    show Edit ada acquaintanceShape ([] ++ _ :: _ :: _) ([] ++ _ :: _ :: _)
    exact .swapped (by decide)
  have hedits := ((Relation.ReflTransGen.single hstranger).tail harchived).tail hswapped
  exact ⟨hedits, project_eq_of_edits v acquaintanceShape ada hedits⟩

end LinkedData.Record
