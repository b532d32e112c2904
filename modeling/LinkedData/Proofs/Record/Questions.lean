import LinkedData.Proofs.Path.Exchange
import LinkedData.Proofs.Record.Conformance
import LinkedData.Proofs.Record.Entities
import Mathlib.Algebra.Ring.Nat
import Mathlib.Data.List.Infix
import Mathlib.Data.List.TakeWhile

/-!
# LinkedData.Proofs.Record.Questions -- which queries a projection asks

Projecting all entities of a type asks one query for the entities, and one for every term that
a step of a path starts from, unless it is a literal. Which paths are followed from which terms
depends on what the paths before them reach: `followed` lists them in order, as if a path
without predicates led nowhere. The projection follows them up to the first path that has no
predicates, and fails there if there is one; such a path asks nothing.

`Follows` is a pair of runs, with and without a record of the queries, and what they follow. It
is closed under the steps that projecting is made of.
-/

namespace LinkedData

open LinkedData.Query LinkedData.Rdf

/-! ## One path -/

namespace Path

/-- The queries of a walk. -/
def walkQueries (g : Graph) (scope : Scope) : List Iri → List Term → List Select
  | [], _ => []
  | p :: ps, frontier =>
    stepQueries scope p frontier ++
      walkQueries g scope ps (frontier.flatMap (reach g scope [p]))

/-- The terms that each step of a walk starts from: what the predicates before it lead to. -/
def frontiers (g : Graph) (scope : Scope) (predicates : List Iri) (t : Term) :
    List (List Term) :=
  predicates.inits.dropLast.map fun before => reach g scope before t

/-- The terms of a frontier that are asked about. -/
def askedAbout (frontier : List Term) : Nat :=
  frontier.countP fun t => !t.isLiteral

theorem length_stepQueries (scope : Scope) (p : Iri) (frontier : List Term) :
    (stepQueries scope p frontier).length = askedAbout frontier := by
  rw [stepQueries, List.length_map, askedAbout, List.countP_eq_length_filter]

theorem walkQueries_nil (g : Graph) (scope : Scope) (ps : List Iri) :
    walkQueries g scope ps [] = [] := by
  induction ps with
  | nil => rfl
  | cons p ps ih => exact ih

/-- The prefixes of a list before the whole of it. -/
theorem dropLast_inits_cons {α : Type} (x : α) (xs : List α) :
    (x :: xs).inits.dropLast = [] :: xs.inits.dropLast.map (x :: ·) := by
  have hnil : [] ∈ xs.inits := (List.mem_inits [] xs).mpr List.nil_prefix
  have hne : xs.inits.map (x :: ·) ≠ [] := List.ne_nil_of_mem (List.mem_map_of_mem hnil)
  rw [List.inits_cons, List.dropLast_cons_of_ne_nil hne, List.map_dropLast]

/-- A walk asks about the terms of its frontiers, from however many terms it starts. -/
theorem length_walkQueries (g : Graph) (scope : Scope) (ps : List Iri) (frontier : List Term) :
    (walkQueries g scope ps frontier).length =
      (ps.inits.dropLast.map fun before =>
        askedAbout (frontier.flatMap (reach g scope before))).sum := by
  induction ps generalizing frontier with
  | nil => rfl
  | cons p ps ih =>
    have hfirst : frontier.flatMap (reach g scope []) = frontier := by
      simp only [reach, List.flatMap_singleton']
    rw [walkQueries, List.length_append, length_stepQueries, ih, dropLast_inits_cons,
      List.map_cons, List.sum_cons, hfirst, List.map_map]
    simp only [← flatMap_reach_cons, Function.comp_def]

/-- The queries that following a path from a term asks; a path without predicates asks none. -/
def queries (g : Graph) (v : Vocabulary) (t : Term) (path : Path) : List Select :=
  match path.predicates v with
  | .ok predicates => walkQueries g path.scope predicates [t]
  | .error _ => []

/-- The number of queries that following a path from a term takes: one for every term that a step
starts from and that is no literal. -/
def cost (g : Graph) (v : Vocabulary) (t : Term) (path : Path) : Nat :=
  match path.predicates v with
  | .ok predicates => ((frontiers g path.scope predicates t).map askedAbout).sum
  | .error _ => 0

theorem length_queries (g : Graph) (v : Vocabulary) (t : Term) (path : Path) :
    (path.queries g v t).length = path.cost g v t := by
  rw [queries, cost]
  cases path.predicates v with
  | error failure => rfl
  | ok predicates =>
    simp only [length_walkQueries, frontiers, List.map_map, List.flatMap_singleton,
      Function.comp_def]

end Path

/-! ## Runs with a record of their queries -/

/-- A run that records its queries comes to what the other run comes to, and the record gains
some queries. -/
def Records {α : Type} (x : Ask (StateM (List Select)) α) (y : Ask Id α)
    (asked : List Select) : Prop :=
  ∀ log, x.run.run log = (y.run, log ++ asked)

namespace Records

variable {α β : Type} {x : Ask (StateM (List Select)) α} {asked more : List Select}

theorem pure (a : α) : Records (Pure.pure a) (Pure.pure a) [] := by
  intro log
  rw [List.append_nil]
  rfl

theorem bind {a : α} {f : α → Ask (StateM (List Select)) β} {y : Ask Id β}
    (hx : Records x (Pure.pure a) asked) (hf : Records (f a) y more) :
    Records (x >>= f) y (asked ++ more) := by
  intro log
  rw [ExceptT.run_bind, StateT.run_bind, hx log, ← List.append_assoc]
  exact hf (log ++ asked)

theorem bind_of_error {failure : Failure} {f : α → Ask (StateM (List Select)) β}
    (hx : Records x (throw failure) asked) : Records (x >>= f) (throw failure) asked := by
  intro log
  rw [ExceptT.run_bind, StateT.run_bind, hx log]
  rfl

theorem mapM {f : α → Ask (StateM (List Select)) β} {result : α → β} {query : α → Select}
    {xs : List α} (hf : ∀ a ∈ xs, Records (f a) (Pure.pure (result a)) [query a]) :
    Records (xs.mapM f) (Pure.pure (xs.map result)) (xs.map query) := by
  induction xs with
  | nil => exact .pure []
  | cons x xs ih =>
    rw [List.mapM_cons]
    have hrest := ih fun a ha => hf a (List.mem_cons_of_mem x ha)
    refine (hf x List.mem_cons_self).bind ?_
    rw [← List.append_nil (xs.map query)]
    exact hrest.bind (.pure (result x :: xs.map result))

end Records

namespace Path

variable (g : Graph)

theorem records_objects (scope : Scope) (p : Iri) (n : Node) :
    Records (objects (Engine.ofGraph g).recorded scope p (.node n))
      (pure (reach g scope [p] (.node n))) [.objectsOf (.node n) p scope] := by
  rw [← objects_ofGraph]
  exact fun log => rfl

theorem records_step (scope : Scope) (p : Iri) (frontier : List Term) :
    Records (step (Engine.ofGraph g).recorded scope p frontier)
      (pure (frontier.flatMap (reach g scope [p]))) (stepQueries scope p frontier) := by
  have hfound : frontier.flatMap (reach g scope [p]) =
      ((frontier.filter fun t => !t.isLiteral).map (reach g scope [p])).flatten := by
    -- No edge leads on from a literal, so nothing is lost where none is asked about.
    induction frontier with
    | nil => rfl
    | cons t ts ih =>
      cases t with
      | node n =>
        rw [List.flatMap_cons, ih]
        rfl
      | literal l => exact ih
  rw [hfound, step, ← List.append_nil (stepQueries scope p frontier)]
  refine Records.bind (.mapM fun t ht => ?_) (.pure _)
  cases t with
  | node n => exact records_objects g scope p n
  | literal l => simp [Term.isLiteral] at ht

theorem records_walk (scope : Scope) (ps : List Iri) (frontier : List Term) :
    Records (walk (Engine.ofGraph g).recorded scope ps frontier)
      (pure (frontier.flatMap (reach g scope ps))) (walkQueries g scope ps frontier) := by
  induction ps generalizing frontier with
  | nil =>
    rw [walk, walkQueries]
    simp only [reach, List.flatMap_singleton']
    exact .pure frontier
  | cons p ps ih =>
    rw [walk, walkQueries]
    refine (records_step g scope p frontier).bind ?_
    rw [flatMap_reach_cons g scope p ps]
    cases hnext : frontier.flatMap (reach g scope [p]) with
    | nil =>
      -- The walk stops here, and the steps it leaves out would ask nothing.
      rw [walkQueries_nil]
      exact .pure []
    | cons t ts => exact ih (t :: ts)

end Path

/-! ## Runs that follow paths -/

namespace Record

/-- A path that is followed from a term. -/
abbrev Walk := Term × Path

/-- The path of a walk has predicates. -/
def Walk.hasPredicates (v : Vocabulary) (w : Walk) : Bool :=
  (w.2.predicates v).isOk

/-- The walks up to the first one whose path has no predicates. -/
def upToFailure (v : Vocabulary) (walks : List Walk) : List Walk :=
  walks.takeWhile (Walk.hasPredicates v)

/-- What is asked by following paths up to the first one without predicates. -/
def askedOn (g : Graph) (v : Vocabulary) (walks : List Walk) : List Select :=
  (upToFailure v walks).flatMap fun w => w.2.queries g v w.1

variable (g : Graph) (v : Vocabulary)

theorem askedOn_append_of_forall {walks : List Walk} (h : ∀ w ∈ walks, w.hasPredicates v = true)
    (more : List Walk) : askedOn g v (walks ++ more) = askedOn g v walks ++ askedOn g v more := by
  have hall : walks.takeWhile (Walk.hasPredicates v) = walks :=
    List.takeWhile_eq_self_iff.mpr h
  rw [askedOn, askedOn, upToFailure, upToFailure, List.takeWhile_append_of_pos h, hall,
    List.flatMap_append]
  rfl

theorem askedOn_append_of_not_forall {walks : List Walk}
    (h : ¬ ∀ w ∈ walks, w.hasPredicates v = true) (more : List Walk) :
    askedOn g v (walks ++ more) = askedOn g v walks := by
  have hnot : ¬ (walks.takeWhile (Walk.hasPredicates v)).length = walks.length := by
    intro hlength
    have hself := (List.takeWhile_prefix (Walk.hasPredicates v)).eq_of_length hlength
    exact h (List.takeWhile_eq_self_iff.mp hself)
  rw [askedOn, upToFailure, List.takeWhile_append, if_neg hnot]
  rfl

/-- Two runs, of which the first records its queries, follow some walks: they ask what is asked
up to the first path without predicates, and succeed if there is no such path. -/
structure Follows {α : Type} (x : Ask (StateM (List Select)) α) (y : Ask Id α)
    (walks : List Walk) : Prop where
  records : Records x y (askedOn g v walks)
  succeeds : (∃ a, y = pure a) ↔ ∀ w ∈ walks, w.hasPredicates v = true

namespace Follows

variable {g v} {α β : Type}

theorem pure (a : α) : Follows g v (Pure.pure a) (Pure.pure a) [] :=
  ⟨.pure a, by simp⟩

/-- Two steps follow the walks of the first and then those of the second; if the first fails,
the second follows none, and whatever stands for them is cut off. -/
theorem bind {x : Ask (StateM (List Select)) α} {y : Ask Id α} {walks more : List Walk}
    {f : α → Ask (StateM (List Select)) β} {f' : α → Ask Id β} (hx : Follows g v x y walks)
    (hf : ∀ a, y = Pure.pure a → Follows g v (f a) (f' a) more) :
    Follows g v (x >>= f) (y >>= f') (walks ++ more) := by
  obtain ⟨hrecords, hsucceeds⟩ := hx
  match y, hrecords, hsucceeds, hf with
  | .ok a, hrecords, hsucceeds, hf =>
    have hall := hsucceeds.mp ⟨a, rfl⟩
    have hnext := hf a rfl
    constructor
    · rw [askedOn_append_of_forall g v hall]
      exact Records.bind hrecords hnext.records
    · rw [List.forall_mem_append, ← hnext.succeeds]
      exact ⟨fun h => ⟨hall, h⟩, fun h => h.2⟩
  | .error failure, hrecords, hsucceeds, _ =>
    have hnot : ¬ ∀ w ∈ walks, w.hasPredicates v = true := by
      intro hall
      obtain ⟨a, ha⟩ := hsucceeds.mpr hall
      cases ha
    constructor
    · rw [askedOn_append_of_not_forall g v hnot]
      exact Records.bind_of_error hrecords
    · rw [List.forall_mem_append]
      constructor
      · rintro ⟨b, hb⟩
        cases hb
      · exact fun h => absurd h.1 hnot

/-- What is made of a result makes no difference to the walks. -/
theorem map {x : Ask (StateM (List Select)) α} {y : Ask Id α} {walks : List Walk}
    (hx : Follows g v x y walks) (h : α → β) :
    Follows g v (x >>= fun a => Pure.pure (h a)) (y >>= fun a => Pure.pure (h a)) walks := by
  rw [← List.append_nil walks]
  exact hx.bind fun a _ => .pure (h a)

theorem mapM {f : α → Ask (StateM (List Select)) β} {f' : α → Ask Id β} {walks : α → List Walk}
    (hf : ∀ a, Follows g v (f a) (f' a) (walks a)) (xs : List α) :
    Follows g v (xs.mapM f) (xs.mapM f') (xs.flatMap walks) := by
  induction xs with
  | nil => exact .pure []
  | cons x xs ih =>
    rw [List.mapM_cons, List.mapM_cons, List.flatMap_cons]
    exact (hf x).bind fun y _ => ih.map (y :: ·)

theorem evaluate (t : Term) (path : Path) :
    Follows g v (path.evaluate (Engine.ofGraph g).recorded v t)
      (path.evaluate (Engine.ofGraph g) v t) [(t, path)] := by
  rw [Path.evaluate_ofGraph_eq, Path.evaluate]
  cases hpredicates : path.predicates v with
  | ok predicates =>
    have hhas : Walk.hasPredicates v (t, path) = true := by
      rw [Walk.hasPredicates, hpredicates]
      rfl
    have hwalk := Path.records_walk g path.scope predicates [t]
    rw [List.flatMap_singleton] at hwalk
    constructor
    · simpa only [askedOn, upToFailure, List.takeWhile_cons_of_pos hhas, List.takeWhile_nil,
        List.flatMap_singleton, Path.queries, hpredicates] using hwalk
    · simp [hhas]
  | error failure =>
    have hnot : Walk.hasPredicates v (t, path) = false := by
      rw [Walk.hasPredicates, hpredicates]
      rfl
    constructor
    · intro log
      simp [askedOn, upToFailure, hnot]
      rfl
    · simp [hnot]
      intro a ha
      cases ha

end Follows

/-! ## Projections -/

/-- What a path leads to from a term; a path without predicates leads nowhere. -/
def reached (t : Term) (path : Path) : List Term :=
  match path.predicates v with
  | .ok predicates => Path.reach g path.scope predicates t
  | .error _ => []

theorem reached_of_evaluate {g : Graph} {v : Vocabulary} {t : Term} {path : Path}
    {ts : List Term} (h : path.evaluate (Engine.ofGraph g : Engine Id) v t = pure ts) :
    reached g v t path = ts := by
  rw [Path.evaluate_ofGraph_eq] at h
  rw [reached]
  cases hpredicates : path.predicates v with
  | ok predicates =>
    rw [hpredicates] at h
    exact Ask.pure_inj.mp h
  | error failure =>
    rw [hpredicates] at h
    cases h

mutual

/-- The walks that projecting a term takes, as if a path without predicates led nowhere. -/
def followed (t : Term) : List (String × Field) → List Walk
  | [] => []
  | (_, field) :: rest => followedBy t field ++ followed t rest

/-- The walks that a field takes: its path from the term, and the walks of the records that it
shows. -/
def followedBy (t : Term) : Field → List Walk
  | .identifier => []
  | .scalar path => [(t, path)]
  | .all path => [(t, path)]
  | .nested path shape =>
    (t, path) :: ((reached g v t path).take 1).flatMap fun u => followed u shape
  | .repeated path shape => (t, path) :: (reached g v t path).flatMap fun u => followed u shape
  | .gated path shape =>
    (t, path) :: ((reached g v t path).take 1).flatMap fun u => followed u shape

end

theorem followedFirst {α : Type} {t : Term} {path : Path}
    {f : Option Term → Ask (StateM (List Select)) α} {f' : Option Term → Ask Id α}
    {walks : Term → List Walk} (hnone : Follows g v (f none) (f' none) [])
    (hsome : ∀ u, Follows g v (f (some u)) (f' (some u)) (walks u)) :
    Follows g v (path.evaluateOne (Engine.ofGraph g).recorded v t >>= f)
      (path.evaluateOne (Engine.ofGraph g) v t >>= f')
      ((t, path) :: ((reached g v t path).take 1).flatMap walks) := by
  rw [← List.singleton_append]
  simp only [Path.evaluateOne, bind_assoc, pure_bind]
  refine (Follows.evaluate t path).bind fun ts hts => ?_
  rw [reached_of_evaluate hts]
  cases ts with
  | nil => exact hnone
  | cons u us =>
    have hwalks : ((u :: us).take 1).flatMap walks = walks u := by simp
    rw [hwalks]
    exact hsome u

theorem follows_project_none (shape : Shape) :
    Follows g v (project (Engine.ofGraph g).recorded v none shape)
      (project (Engine.ofGraph g) v none shape) [] := by
  rw [project_none, project_none]
  exact .pure _

mutual

theorem follows_project : ∀ (shape : Shape) (t : Term),
    Follows g v (project (Engine.ofGraph g).recorded v (some t) shape)
      (project (Engine.ofGraph g) v (some t) shape) (followed g v t shape)
  | [], t => by
    rw [project, project, followed]
    exact .pure []
  | (name, field) :: rest, t => by
    rw [project, project, followed]
    exact (follows_projectField field t).bind fun value _ =>
      (follows_project rest t).map (consField name value)

theorem follows_projectField : ∀ (field : Field) (t : Term),
    Follows g v (projectField (Engine.ofGraph g).recorded v (some t) field)
      (projectField (Engine.ofGraph g) v (some t) field) (followedBy g v t field)
  | .identifier, t => .pure _
  | .scalar path, t => by
    rw [projectField, projectField, followedBy, reachOne, reachOne]
    simp only [Path.evaluateOne, bind_assoc, pure_bind]
    exact (Follows.evaluate t path).map fun ts => some (Value.ofTerm ts.head?)
  | .all path, t => by
    rw [projectField, projectField, followedBy, reachAll, reachAll]
    exact (Follows.evaluate t path).map fun ts =>
      some (Value.list (ts.map fun u => .ofTerm (some u)))
  | .nested path shape, t => by
    rw [projectField, projectField, followedBy, reachOne, reachOne]
    refine followedFirst g v ?_ fun u => ?_
    · exact (follows_project_none g v shape).map fun r => some (Value.record r)
    · exact (follows_project shape u).map fun r => some (Value.record r)
  | .repeated path shape, t => by
    rw [projectField, projectField, followedBy, reachAll, reachAll, ← List.singleton_append]
    refine (Follows.evaluate t path).bind fun ts hts => ?_
    rw [reached_of_evaluate hts]
    exact (Follows.mapM (follows_project shape) ts).map fun rs =>
      some (Value.list (rs.map .record))
  | .gated path shape, t => by
    rw [projectField, projectField, followedBy, reachOne, reachOne]
    refine followedFirst g v (.pure none) fun u => ?_
    exact (follows_project shape u).map fun r => some (Value.record r)

end

/-! ## All entities of a type -/

/-- The entities of a type in order, each once. -/
def entities (type : Iri) : List Term :=
  ((typings g type).map (·.subject)).eraseDups.map .node

/-- The walks that projecting all entities of a type takes, as if a path without predicates led
nowhere. -/
def followedByAll (type : Iri) (shape : Shape) : List Walk :=
  (entities g type).flatMap fun t => followed g v t shape

/-- The queries of projecting all entities of a type: the one for the entities, and those of the
walks up to the first path without predicates. -/
def queriesOf (type : Iri) (shape : Shape) : List Select :=
  .subjectsOfType type :: askedOn g v (followedByAll g v type shape)

/-- The number of those queries: one for the entities, and for each walk one for every term that a
step starts from and that is no literal. -/
theorem length_queriesOf (type : Iri) (shape : Shape) :
    (queriesOf g v type shape).length =
      1 + ((upToFailure v (followedByAll g v type shape)).map fun w => w.2.cost g v w.1).sum := by
  rw [queriesOf, List.length_cons, askedOn, List.length_flatMap, Nat.add_comm]
  simp only [Path.length_queries]

/-- A run over a graph asks exactly those queries. -/
theorem records_projectEntities (type : Iri) (shape : Shape) :
    Records (projectEntities (Engine.ofGraph g).recorded v type shape)
      (projectEntities (Engine.ofGraph g) v type shape) (queriesOf g v type shape) := by
  have hfound : Records (findEntities (Engine.ofGraph g).recorded type)
      (pure (entities g type)) [.subjectsOfType type] := by
    rw [entities, ← findEntities_ofGraph (firsts_iff.mpr rfl)]
    exact fun log => rfl
  have hentities : findEntities (Engine.ofGraph g : Engine Id) type = pure (entities g type) :=
    findEntities_ofGraph (firsts_iff.mpr rfl)
  rw [projectEntities, projectEntities, hentities, pure_bind]
  exact hfound.bind (Follows.mapM (fun t => follows_project g v shape t) _).records

end Record

end LinkedData
