import LinkedData.Path
import Mathlib.Data.List.Basic

/-!
# LinkedData.Proofs.Path.DepthFirst -- following a path is a depth-first walk

A path is evaluated breadth first: all terms of a frontier take a step before any of them
takes the next one. `reach` is the walk from one term, which goes down along the first edge
before it looks at the second. Over a graph both list the same terms, in the same order and
each as often, on graphs with cycles and repeated quads as well. What a longer path reaches
is then what its end reaches from every term that its beginning reaches.
-/

namespace LinkedData.Path

open LinkedData.Query LinkedData.Rdf

/-- The quads in scope that lead from a node along a predicate, as they arrived. -/
def edges (g : Graph) (scope : Scope) (n : Node) (p : Iri) : Graph :=
  g.filter fun q => scope.contains q.graph && q.subject == n && q.predicate == p

/-- The terms that predicates lead to from a term, depth first. Nothing leads on from a
literal. -/
def reach (g : Graph) (scope : Scope) : List Iri → Term → List Term
  | [], t => [t]
  | _ :: _, .literal _ => []
  | p :: ps, .node n => (edges g scope n p).flatMap fun q => reach g scope ps q.object

/-- Every name of a list has a predicate. -/
def Resolves (v : Vocabulary) (names : List String) : Prop :=
  ∀ name ∈ names, (v.find? name).isSome

instance (v : Vocabulary) (names : List String) : Decidable (Resolves v names) :=
  inferInstanceAs (Decidable (∀ name ∈ names, (v.find? name).isSome))

/-- A path can be followed: it has names, and all of them have predicates. -/
def Followable (v : Vocabulary) (path : Path) : Prop :=
  path.segments ≠ [] ∧ Resolves v path.segments

instance (v : Vocabulary) (path : Path) : Decidable (Followable v path) :=
  inferInstanceAs (Decidable (path.segments ≠ [] ∧ Resolves v path.segments))

/-- The failure of a path that cannot be followed: it has no names, or some names have no predicate
and the failure is that of the leftmost of them. -/
inductive Lacks (v : Vocabulary) (path : Path) : Failure → Prop
  | names : path.segments = [] → Lacks v path (.unknownProperty "empty path")
  | predicate {before after : List String} {name : String} :
      path.segments = before ++ name :: after → Resolves v before → v.find? name = none →
      Lacks v path (.unknownProperty name)

/-! ## Names and their predicates -/

/-- Names that all have a predicate resolve to their predicates. -/
theorem resolveAll_of_resolves {v : Vocabulary} {names : List String} (h : Resolves v names) :
    v.resolveAll names = .ok (names.filterMap v.find?) := by
  induction names with
  | nil => rfl
  | cons name names ih =>
    obtain ⟨iri, hiri⟩ := Option.isSome_iff_exists.mp (h name (by simp))
    have hrest := ih fun n hn => h n (List.mem_cons_of_mem _ hn)
    have hname : v.resolve name = .ok iri := by rw [Vocabulary.resolve, hiri]
    rw [Vocabulary.resolveAll] at hrest ⊢
    rw [List.mapM_cons, hname, hrest, List.filterMap_cons_some hiri]
    rfl

/-- The failure of names of which one has no predicate is that of the leftmost such name. -/
theorem resolveAll_eq_error_of_leftmost {v : Vocabulary} {before after : List String}
    {name : String} (hbefore : Resolves v before) (hname : v.find? name = none) :
    v.resolveAll (before ++ name :: after) = .error (.unknownProperty name) := by
  have hfails : v.resolveAll (name :: after) = .error (.unknownProperty name) := by
    rw [Vocabulary.resolveAll, List.mapM_cons, Vocabulary.resolve, hname]
    rfl
  have hresolved := resolveAll_of_resolves hbefore
  rw [Vocabulary.resolveAll] at hfails hresolved ⊢
  rw [List.mapM_append, hresolved, hfails]
  rfl

theorem Followable.predicates_eq {v : Vocabulary} {path : Path} (h : path.Followable v) :
    path.predicates v = .ok (path.segments.filterMap v.find?) := by
  have hnames : ¬ path.segments.isEmpty = true := by simpa using h.1
  rw [predicates, if_neg hnames, resolveAll_of_resolves h.2]

theorem Lacks.predicates_eq {v : Vocabulary} {path : Path} {failure : Failure}
    (h : path.Lacks v failure) : path.predicates v = .error failure := by
  cases h with
  | names hnone =>
    rw [predicates, hnone]
    rfl
  | predicate hsegments hbefore hname =>
    have hnames : ¬ path.segments.isEmpty = true := by simp [hsegments]
    rw [predicates, if_neg hnames, hsegments]
    exact resolveAll_eq_error_of_leftmost hbefore hname

/-- A path that cannot be followed lacks something. -/
theorem exists_lacks {v : Vocabulary} {path : Path} (h : ¬ path.Followable v) :
    ∃ failure, path.Lacks v failure := by
  by_cases hnone : path.segments = []
  · exact ⟨_, .names hnone⟩
  · have hnot : ¬ Resolves v path.segments := fun hresolves => h ⟨hnone, hresolves⟩
    cases hfind : path.segments.find? fun name => (v.find? name).isNone with
    | none =>
      rw [List.find?_eq_none] at hfind
      refine absurd (fun name hname => ?_) hnot
      simpa [Option.isSome_iff_ne_none] using hfind name hname
    | some name =>
      obtain ⟨hname, before, after, hsegments, hbefore⟩ := List.find?_eq_some_iff_append.mp hfind
      refine ⟨_, .predicate hsegments (fun n hn => ?_) (Option.isNone_iff_eq_none.mp hname)⟩
      simpa using hbefore n hn

/-- The predicates of a path fail for what the path lacks. -/
theorem predicates_eq_error_iff {v : Vocabulary} {path : Path} {failure : Failure} :
    path.predicates v = .error failure ↔ path.Lacks v failure := by
  refine ⟨fun h => ?_, Lacks.predicates_eq⟩
  have hnot : ¬ path.Followable v := by
    intro hfollowable
    rw [hfollowable.predicates_eq] at h
    cases h
  obtain ⟨other, hlacks⟩ := exists_lacks hnot
  rw [hlacks.predicates_eq] at h
  cases h
  exact hlacks

/-- A path has no predicates only because it names an unknown property, or none. -/
theorem predicates_eq_error {v : Vocabulary} {path : Path} {failure : Failure}
    (h : path.predicates v = .error failure) : ∃ name, failure = .unknownProperty name := by
  cases predicates_eq_error_iff.mp h with
  | names _ => exact ⟨_, rfl⟩
  | predicate _ _ _ => exact ⟨_, rfl⟩

/-! ## What one step finds -/

/-- The pattern of a step fits the quads that lead on from the node, and binds the object. -/
theorem extend_step (n : Node) (p : Iri) (q : Quad) :
    Pattern.extend ⟨.term (.node n), .term (.iri p), .variable "object"⟩ q [] =
      if q.subject = n ∧ q.predicate = p then some [("object", q.object)] else none := by
  by_cases hs : q.subject = n
  · by_cases hp : q.predicate = p
    · subst hs hp
      simp [Pattern.extend, Slot.extend, Dict.find?, Dict.insert]
    · have hne : Term.iri p ≠ Term.iri q.predicate := by
        intro h
        injection h with h
        injection h with h
        exact hp h.symm
      simp [Pattern.extend, Slot.extend, hs, hp, hne]
  · have hne : Term.node n ≠ Term.node q.subject := by
      intro h
      injection h with h
      exact hs h.symm
    simp [Pattern.extend, Slot.extend, hs, hne]

/-- The query of a step has one solution for each edge, and it holds the edge's object. -/
theorem solve_objectsOf (g : Graph) (scope : Scope) (n : Node) (p : Iri) :
    solve g (.objectsOf (.node n) p scope) =
      (edges g scope n p).map fun q => [("object", q.object)] := by
  have hproject : ∀ t : Term, project ["object"] [("object", t)] = [("object", t)] := by
    intro t
    rfl
  have hjoin : join (inScope scope g) (Select.objectsOf (.node n) p scope).patterns =
      (edges g scope n p).map fun q => [("object", q.object)] := by
    simp only [join, joinStep, Select.objectsOf, List.foldl_cons, List.foldl_nil,
      List.flatMap_cons, List.flatMap_nil, List.append_nil, extend_step]
    induction g with
    | nil => rfl
    | cons q g ih =>
      by_cases hscope : scope.contains q.graph
      · by_cases hedge : q.subject = n ∧ q.predicate = p
        · simpa [inScope, edges, hscope, hedge] using ih
        · have hnot : (q.subject == n && q.predicate == p) = false := by
            simpa [Bool.and_eq_true] using hedge
          simpa [inScope, edges, hscope, hedge, hnot, Bool.and_assoc] using ih
      · simpa [inScope, edges, hscope] using ih
  have hsolve : solve g (.objectsOf (.node n) p scope) =
      (join (inScope scope g) (Select.objectsOf (.node n) p scope).patterns).map
        (project ["object"]) := rfl
  rw [hsolve, hjoin, List.map_map]
  exact List.map_congr_left fun q _ => hproject q.object

variable {m : Type → Type} [Monad m] [LawfulMonad m]

/-- Over a graph a step from a node finds the objects of its edges. -/
theorem objects_ofGraph (g : Graph) (scope : Scope) (p : Iri) (n : Node) :
    objects (Engine.ofGraph g : Engine m) scope p (.node n) =
      pure (reach g scope [p] (.node n)) := by
  have hvalue : ∀ q : Quad, Dict.find? [("object", q.object)] "object" = some q.object :=
    fun _ => rfl
  have hfound : ((edges g scope n p).map fun q => [("object", q.object)]).filterMap
      (fun b => Dict.find? b "object") = reach g scope [p] (.node n) := by
    rw [List.filterMap_map, reach]
    simp only [Function.comp_def, hvalue, reach, List.filterMap_eq_map', ← List.map_eq_flatMap]
  simp only [objects, Engine.ofGraph, solve_objectsOf, pure_bind, hfound]

/-- A step from a frontier finds what leads on from its terms, in the order of the frontier. -/
theorem step_ofGraph (g : Graph) (scope : Scope) (p : Iri) (frontier : List Term) :
    step (Engine.ofGraph g : Engine m) scope p frontier =
      pure (frontier.flatMap (reach g scope [p])) := by
  unfold step
  induction frontier with
  | nil => simp
  | cons t ts ih =>
    cases t with
    | literal l => simpa [Term.isLiteral, reach] using ih
    | node n =>
      have hkept : (Term.node n :: ts).filter (fun t => !t.isLiteral) =
          .node n :: ts.filter fun t => !t.isLiteral := rfl
      rw [hkept, List.mapM_cons, objects_ofGraph, List.flatMap_cons]
      have hrest := congrArg (· >>= fun found => pure (reach g scope [p] (.node n) ++ found)) ih
      simpa only [bind_assoc, pure_bind, List.flatten_cons] using hrest

/-! ## Whole walks -/

/-- A walk from a term is its first step, and the rest of the walk from each term found. -/
theorem reach_cons (g : Graph) (scope : Scope) (p : Iri) (ps : List Iri) (t : Term) :
    reach g scope (p :: ps) t = (reach g scope [p] t).flatMap (reach g scope ps) := by
  cases t with
  | literal l => rfl
  | node n => simp only [reach, List.flatMap_assoc, List.flatMap_singleton]

theorem reach_append (g : Graph) (scope : Scope) (ps qs : List Iri) (t : Term) :
    reach g scope (ps ++ qs) t = (reach g scope ps t).flatMap (reach g scope qs) := by
  induction ps generalizing t with
  | nil => simp [reach]
  | cons p ps ih =>
    rw [List.cons_append, reach_cons, reach_cons g scope p ps, List.flatMap_assoc]
    exact List.flatMap_congr fun u _ => ih u

/-- A walk from a frontier is its first step, and the rest of the walk from what that finds. -/
theorem flatMap_reach_cons (g : Graph) (scope : Scope) (p : Iri) (ps : List Iri)
    (frontier : List Term) :
    frontier.flatMap (reach g scope (p :: ps)) =
      (frontier.flatMap (reach g scope [p])).flatMap (reach g scope ps) := by
  rw [List.flatMap_assoc]
  exact List.flatMap_congr fun t _ => reach_cons g scope p ps t

/-- The walk from a frontier, which stops early when nothing is reached, lists the depth-first
walks from its terms one after another. -/
theorem walk_ofGraph (g : Graph) (scope : Scope) (ps : List Iri) (frontier : List Term) :
    walk (Engine.ofGraph g : Engine m) scope ps frontier =
      pure (frontier.flatMap (reach g scope ps)) := by
  induction ps generalizing frontier with
  | nil => simp [walk, reach]
  | cons p ps ih =>
    rw [walk, step_ofGraph, pure_bind, flatMap_reach_cons g scope p ps]
    cases hnext : frontier.flatMap (reach g scope [p]) with
    | nil => rfl
    | cons t ts =>
      show walk _ scope ps (t :: ts) = _
      exact ih (t :: ts)

/-! ## Paths by name -/

/-- Over a graph a path fails when it has no predicates, and reaches what they lead to when it
has. -/
theorem evaluate_ofGraph_eq (g : Graph) (v : Vocabulary) (start : Term) (path : Path) :
    path.evaluate (Engine.ofGraph g : Engine m) v start =
      match path.predicates v with
      | .ok predicates => pure (reach g path.scope predicates start)
      | .error failure => throw failure := by
  rw [evaluate]
  cases path.predicates v with
  | error failure => rfl
  | ok predicates =>
    show walk _ path.scope predicates [start] = _
    rw [walk_ofGraph, List.flatMap_singleton]

/-- Over a graph a path whose names all have a predicate reaches what its predicates lead
to. -/
theorem evaluate_ofGraph (g : Graph) {v : Vocabulary} (start : Term) (scope : Scope)
    {names : List String} (hne : names ≠ []) (hr : Resolves v names) :
    evaluate (Engine.ofGraph g : Engine m) v start { segments := names, scope } =
      pure (reach g scope (names.filterMap v.find?) start) := by
  have hpredicates : Path.predicates v { segments := names, scope } =
      .ok (names.filterMap v.find?) := Followable.predicates_eq ⟨hne, hr⟩
  rw [evaluate_ofGraph_eq, hpredicates]

/-- Evaluation over a graph is the depth-first walk. What a longer path reaches is, in order,
what its end reaches from every term that its beginning reaches; so a path that reaches
nothing reaches nothing however it goes on. -/
theorem evaluate_eq_reach (g : Graph) (v : Vocabulary) (start : Term) (scope : Scope)
    (names : List String) (hne : names ≠ []) (hr : Resolves v names) :
    let along (t : Term) (names : List String) : Ask m (List Term) :=
      evaluate (Engine.ofGraph g) v t { segments := names, scope }
    along start names = pure (reach g scope (names.filterMap v.find?) start) ∧
    (∀ more, more ≠ [] → Resolves v more →
      along start (names ++ more) = do
        let reached ← along start names
        let found ← reached.mapM fun t => along t more
        return found.flatten) ∧
    (along start names = pure [] → ∀ more, Resolves v more →
      along start (names ++ more) = pure []) := by
  intro along
  have hboth : ∀ more, Resolves v more → Resolves v (names ++ more) := by
    intro more hmore name hname
    rcases List.mem_append.mp hname with hname | hname
    · exact hr name hname
    · exact hmore name hname
  have happend : ∀ more, Resolves v more → along start (names ++ more) =
      pure ((reach g scope (names.filterMap v.find?) start).flatMap
        (reach g scope (more.filterMap v.find?))) := by
    intro more hmore
    rw [← reach_append, ← List.filterMap_append]
    exact evaluate_ofGraph g start scope (by simp [hne]) (hboth more hmore)
  have hstart := evaluate_ofGraph (m := m) g start scope hne hr
  refine ⟨hstart, ?_, ?_⟩
  · intro more hmore hrmore
    have heach : (fun t => along t more) =
        fun t => pure (reach g scope (more.filterMap v.find?) t) := by
      funext t
      exact evaluate_ofGraph g t scope hmore hrmore
    rw [happend more hrmore, heach]
    show _ = (evaluate _ v start _ >>= _ : Ask m (List Term))
    rw [hstart, pure_bind, List.mapM_pure, pure_bind, List.flatMap_def]
  · intro hnothing more hmore
    -- In a monad that identifies some results, `pure` need not tell an empty list apart, so
    -- the walk goes on inside the monad.
    have hgo := congrArg
      (fun x : Ask m (List Term) => x >>= fun ts =>
        pure (ts.flatMap (reach g scope (more.filterMap v.find?)))) (hstart.symm.trans hnothing)
    rw [happend more hmore]
    simpa only [pure_bind, List.flatMap_nil] using hgo

/-- Two people who know each other, one of them stated twice to know the other, and the other
stated to know a literal as well. -/
def circle : Graph :=
  [⟨.iri "e:a", "e:knows", .iri "e:b", none⟩, ⟨.iri "e:b", "e:knows", .iri "e:a", none⟩,
   ⟨.iri "e:b", "e:knows", .literal (.string "B"), none⟩,
   ⟨.iri "e:a", "e:knows", .iri "e:b", none⟩,
   ⟨.iri "e:a", "e:name", .literal (.string "A"), none⟩]

/-- Around the circle and back, once for each of the two statements; the literal on the way
leads nowhere. -/
theorem evaluate_circle :
    let v : Vocabulary := ⟨[("knows", "e:knows"), ("name", "e:name")]⟩
    let names := ["knows", "knows", "name"]
    names ≠ [] ∧ Resolves v names ∧
      evaluate (Engine.ofGraph circle : Engine Id) v (.iri "e:a") { segments := names } =
        pure [.literal (.string "A"), .literal (.string "A")] := by
  intro v names
  have hr : Resolves v names := by decide
  have hreach : reach circle .defaultGraph (names.filterMap v.find?) (.iri "e:a") =
      [.literal (.string "A"), .literal (.string "A")] := by decide
  refine ⟨by decide, hr, ?_⟩
  rw [← hreach]
  exact (evaluate_eq_reach circle v (.iri "e:a") .defaultGraph names (by decide) hr).1

end LinkedData.Path
