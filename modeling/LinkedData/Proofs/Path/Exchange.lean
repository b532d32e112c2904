import LinkedData.Proofs.Engine.Inquiry
import LinkedData.Proofs.Path.DepthFirst

/-!
# LinkedData.Proofs.Path.Exchange -- what following a path asks of an engine

A path fails before anything is asked, or it does not fail of itself: all its names are resolved
first, and then every step asks about the terms that the step before it has found. Which terms
these are depends on the answers, and an engine may answer as it likes, differently each time it
is asked. So a run is described together with the answers that it was given: the queries follow
from the path and the answers before them.
-/

namespace LinkedData

open LinkedData.Query LinkedData.Rdf

/-! ## Exchanges with an engine -/

/-- A query, and the solutions that it was answered with. -/
structure Exchange where
  query : Select
  solutions : List Binding

namespace Engine

variable {σ : Type}

/-- An engine that answers every query in every state. -/
def NeverFails (e : Engine (StateM σ)) : Prop :=
  ∀ query s, ∃ solutions s', (e.answer query).run.run s = (.ok solutions, s')

/-- From a state, an engine gives the answers of some exchanges when it is asked their queries in
order, and is in another state after them. -/
inductive Gives (e : Engine (StateM σ)) : σ → List Exchange → σ → Prop
  | nothing (s : σ) : Gives e s [] s
  | next {s s₁ s₂ : σ} {query : Select} {solutions : List Binding} {rest : List Exchange} :
      (e.answer query).run.run s = (.ok solutions, s₁) → Gives e s₁ rest s₂ →
      Gives e s (⟨query, solutions⟩ :: rest) s₂

theorem Gives.append {e : Engine (StateM σ)} {s s₁ s₂ : σ} {first rest : List Exchange}
    (hfirst : e.Gives s first s₁) (hrest : e.Gives s₁ rest s₂) : e.Gives s (first ++ rest) s₂ := by
  induction hfirst with
  | nothing s => exact hrest
  | next hanswer _ ih => exact .next hanswer (ih hrest)

end Engine

namespace Path

/-! ## The trail of a walk -/

/-- The queries of one step: one for every term that it starts from and that is no literal. -/
def stepQueries (scope : Scope) (predicate : Iri) (frontier : List Term) : List Select :=
  (frontier.filter fun t => !t.isLiteral).map fun t => .objectsOf t predicate scope

/-- The objects that exchanges have brought, in order. -/
def found (exchanges : List Exchange) : List Term :=
  exchanges.flatMap fun x => x.solutions.filterMap fun b => b.find? "object"

/-- The exchanges of a walk along predicates from a frontier, and what the walk comes to: each step
asks its queries, and the next one starts from what it has found. A step that finds nothing is the
last one. -/
inductive Trail (scope : Scope) : List Iri → List Term → List Exchange → List Term → Prop
  | arrived (frontier : List Term) : Trail scope [] frontier [] frontier
  | ended {p : Iri} {ps : List Iri} {frontier : List Term} {exchanges : List Exchange} :
      exchanges.map Exchange.query = stepQueries scope p frontier → found exchanges = [] →
      Trail scope (p :: ps) frontier exchanges []
  | onward {p : Iri} {ps : List Iri} {frontier : List Term} {exchanges more : List Exchange}
      {result : List Term} :
      exchanges.map Exchange.query = stepQueries scope p frontier → found exchanges ≠ [] →
      Trail scope ps (found exchanges) more result →
      Trail scope (p :: ps) frontier (exchanges ++ more) result

section Walk

variable {σ : Type} {e : Engine (StateM σ)}

/-- A computation that records its queries comes to a result and to a state by some exchanges. -/
def RunsBy {α : Type} (e : Engine (StateM σ)) (x : Ask (StateT (List Select) (StateM σ)) α) (s : σ)
    (exchanges : List Exchange) (result : α) (s' : σ) : Prop :=
  e.Gives s exchanges s' ∧ ∀ log, (x.run.run log).run s =
    ((.ok result, log ++ exchanges.map Exchange.query), s')

theorem runsBy_pure {α : Type} (a : α) (s : σ) : RunsBy e (pure a) s [] a s :=
  ⟨.nothing s, fun log => by rw [List.map_nil, List.append_nil]; rfl⟩

theorem RunsBy.bind {α β : Type} {x : Ask (StateT (List Select) (StateM σ)) α}
    {f : α → Ask (StateT (List Select) (StateM σ)) β} {s s₁ s₂ : σ}
    {first rest : List Exchange} {a : α} {b : β} (hx : RunsBy e x s first a s₁)
    (hf : RunsBy e (f a) s₁ rest b s₂) : RunsBy e (x >>= f) s (first ++ rest) b s₂ := by
  refine ⟨hx.1.append hf.1, fun log => ?_⟩
  rw [ExceptT.run_bind, StateT.run_bind, StateT.run_bind, hx.2, List.map_append,
    ← List.append_assoc]
  exact hf.2 _

/-- A query that is answered is one exchange. -/
theorem runsBy_answer {query : Select} {solutions : List Binding} {s s' : σ}
    (h : (e.answer query).run.run s = (.ok solutions, s')) :
    RunsBy e (e.recorded.answer query) s [⟨query, solutions⟩] solutions s' := by
  refine ⟨.next h (.nothing s'), fun log => ?_⟩
  have hrecorded : ((e.recorded.answer query).run.run log).run s =
      (fun r => ((r.1, log ++ [query]), r.2)) ((e.answer query).run.run s) := rfl
  rw [hrecorded, h]
  rfl

/-- Asking about several terms is an exchange about each of them, and finds what these bring. -/
theorem runsBy_objects (he : e.NeverFails) (scope : Scope) (p : Iri) (ts : List Term) (s : σ) :
    ∃ exchanges lists s', RunsBy e (ts.mapM (objects e.recorded scope p)) s exchanges lists s' ∧
      exchanges.map Exchange.query = (ts.map fun t => .objectsOf t p scope) ∧
      lists.flatten = found exchanges := by
  induction ts generalizing s with
  | nil => exact ⟨[], [], s, runsBy_pure [] s, rfl, rfl⟩
  | cons t ts ih =>
    obtain ⟨solutions, s₁, hanswer⟩ := he (.objectsOf t p scope) s
    obtain ⟨more, lists, s₂, hmore, hqueries, hfound⟩ := ih s₁
    let objectsFound := solutions.filterMap fun b => b.find? "object"
    have hfirst : RunsBy e (objects e.recorded scope p t) s [⟨.objectsOf t p scope, solutions⟩]
        objectsFound s₁ :=
      (runsBy_answer hanswer).bind (runsBy_pure objectsFound s₁)
    refine ⟨⟨.objectsOf t p scope, solutions⟩ :: more, objectsFound :: lists, s₂, ?_, ?_, ?_⟩
    · rw [List.mapM_cons, ← List.append_nil more]
      exact hfirst.bind (hmore.bind (runsBy_pure _ s₂))
    · rw [List.map_cons, List.map_cons, hqueries]
    · rw [List.flatten_cons, hfound]
      rfl

theorem runsBy_step (he : e.NeverFails) (scope : Scope) (p : Iri) (frontier : List Term) (s : σ) :
    ∃ exchanges s', RunsBy e (step e.recorded scope p frontier) s exchanges (found exchanges) s' ∧
      exchanges.map Exchange.query = stepQueries scope p frontier := by
  obtain ⟨exchanges, lists, s', hruns, hqueries, hfound⟩ :=
    runsBy_objects he scope p (frontier.filter fun t => !t.isLiteral) s
  refine ⟨exchanges, s', ?_, hqueries⟩
  rw [← hfound, step, ← List.append_nil exchanges]
  exact hruns.bind (runsBy_pure lists.flatten s')

/-- A walk leaves a trail, by induction on its predicates for any frontier and any state of the
engine. -/
theorem runsBy_walk (he : e.NeverFails) (scope : Scope) (ps : List Iri) (frontier : List Term)
    (s : σ) :
    ∃ exchanges result s', RunsBy e (walk e.recorded scope ps frontier) s exchanges result s' ∧
      Trail scope ps frontier exchanges result := by
  induction ps generalizing frontier s with
  | nil => exact ⟨[], frontier, s, runsBy_pure frontier s, .arrived frontier⟩
  | cons p ps ih =>
    obtain ⟨exchanges, s₁, hstep, hqueries⟩ := runsBy_step he scope p frontier s
    cases hfound : found exchanges with
    | nil =>
      refine ⟨exchanges, [], s₁, ?_, .ended hqueries hfound⟩
      rw [walk, ← List.append_nil exchanges]
      rw [hfound] at hstep
      exact hstep.bind (runsBy_pure [] s₁)
    | cons t ts =>
      have hne : found exchanges ≠ [] := by
        rw [hfound]
        exact List.cons_ne_nil t ts
      obtain ⟨more, result, s₂, hrest, htrail⟩ := ih (found exchanges) s₁
      refine ⟨exchanges ++ more, result, s₂, ?_, .onward hqueries hne htrail⟩
      rw [walk]
      refine hstep.bind ?_
      rw [hfound] at hrest ⊢
      exact hrest

end Walk

/-! ## Paths by name -/

section Evaluate

variable {σ : Type}

/-- A record of the queries changes nothing about what a path comes to. -/
theorem run_evaluate_of_recorded {e : Engine (StateM σ)} {v : Vocabulary} {start : Term}
    {path : Path} {log asked : List Select} {s s' : σ} {outcome : Except Failure (List Term)}
    (h : ((path.evaluate e.recorded v start).run.run log).run s = ((outcome, asked), s')) :
    (path.evaluate e v start).run.run s = (outcome, s') := by
  obtain ⟨inquiry, hinquiry⟩ := IsInquiry.evaluate start path
  have hrecorded := inquiry.run_recorded e v log
  rw [← hinquiry, ← hinquiry] at hrecorded
  have hrun := congrArg (fun x : StateM σ (Except Failure (List Term)) => x.run s) hrecorded
  simp only [StateT.run_map] at hrun
  rw [h] at hrun
  exact hrun.symm

/-- **What a path asks.** A path without names fails, and so does one with a name that has no
predicate, for the leftmost such name; whatever the engine and the start are, nothing is asked. All
other paths come to a result on an engine that never fails, by the exchanges of their trail. -/
theorem evaluate_asks (e : Engine (StateM σ)) (v : Vocabulary) (start : Term) (path : Path)
    (log : List Select) (s : σ) :
    let comesTo (outcome : Except Failure (List Term)) (asked : List Select) (s' : σ) : Prop :=
      (path.evaluate e v start).run.run s = (outcome, s') ∧
        ((path.evaluate e.recorded v start).run.run log).run s = ((outcome, log ++ asked), s')
    (path.segments = [] → comesTo (.error (.unknownProperty "empty path")) [] s) ∧
      (∀ before name after, path.segments = before ++ name :: after → Resolves v before →
        v.find? name = none → comesTo (.error (.unknownProperty name)) [] s) ∧
      (path.segments ≠ [] → Resolves v path.segments → e.NeverFails →
        ∃ exchanges result s', comesTo (.ok result) (exchanges.map Exchange.query) s' ∧
          e.Gives s exchanges s' ∧
          Trail path.scope (path.segments.filterMap v.find?) [start] exchanges result) := by
  intro comesTo
  have hrecorded : ∀ outcome asked s',
      ((path.evaluate e.recorded v start).run.run log).run s = ((outcome, log ++ asked), s') →
      comesTo outcome asked s' :=
    fun _ _ _ h => ⟨run_evaluate_of_recorded h, h⟩
  have hfails : ∀ failure, path.predicates v = .error failure → comesTo (.error failure) [] s := by
    intro failure hpredicates
    apply hrecorded
    rw [evaluate, hpredicates, List.append_nil]
    rfl
  refine ⟨fun hnone => hfails _ ?_, fun before name after hsegments hbefore hname => hfails _ ?_,
    fun hsome hresolves he => ?_⟩
  · rw [predicates, hnone]
    rfl
  · have hsome : ¬ path.segments.isEmpty = true := by simp [hsegments]
    rw [predicates, if_neg hsome, hsegments]
    exact resolveAll_eq_error_of_leftmost hbefore hname
  · have hpredicates : path.predicates v = .ok (path.segments.filterMap v.find?) := by
      rw [predicates, if_neg (by simpa using hsome), resolveAll_of_resolves hresolves]
    obtain ⟨exchanges, result, s', hruns, htrail⟩ :=
      runsBy_walk he path.scope (path.segments.filterMap v.find?) [start] s
    refine ⟨exchanges, result, s', hrecorded _ _ _ ?_, hruns.1, htrail⟩
    rw [evaluate, hpredicates]
    exact hruns.2 log

/-- An engine that finds a literal with every query, and a node from a list while it lasts. -/
def handingOut : Engine (StateM (List Iri)) where
  answer _ := do
    let nodes ← get
    set nodes.tail
    return [("object", .literal (.string "x"))] :: (nodes.take 1).map fun i => [("object", .iri i)]

/-- A second step asks about the node that the first one has found, and not about the literal. A
name without a predicate at the end keeps the first step from being asked. -/
theorem evaluate_asks_handingOut :
    let v : Vocabulary := ⟨[("knows", "e:knows"), ("name", "e:name")]⟩
    let known : Path := { segments := ["knows", "name"] }
    let unknown : Path := { segments := ["knows", "nickname"] }
    let asked := [Select.objectsOf (.iri "e:a") "e:knows" .defaultGraph,
      .objectsOf (.iri "e:b") "e:name" .defaultGraph]
    (known.segments ≠ [] ∧ Resolves v known.segments ∧ handingOut.NeverFails ∧
      ∃ exchanges result, exchanges.map Exchange.query = asked ∧
        (known.evaluate handingOut v (.iri "e:a")).run.run ["e:b"] = (.ok result, []) ∧
        handingOut.Gives ["e:b"] exchanges [] ∧
        Trail .defaultGraph ["e:knows", "e:name"] [.iri "e:a"] exchanges result) ∧
    (Resolves v ["knows"] ∧ v.find? "nickname" = none ∧
      ((unknown.evaluate handingOut.recorded v (.iri "e:a")).run.run []).run ["e:b"] =
        ((.error (.unknownProperty "nickname"), []), ["e:b"])) := by
  intro v known unknown asked
  have hresolves : Resolves v known.segments := by decide
  have hnever : handingOut.NeverFails := fun _ nodes => ⟨_, nodes.tail, rfl⟩
  obtain ⟨-, -, hcomes⟩ := evaluate_asks handingOut v (.iri "e:a") known [] ["e:b"]
  obtain ⟨exchanges, result, s', ⟨hplain, hrecorded⟩, hgives, htrail⟩ :=
    hcomes (by decide) hresolves hnever
  obtain ⟨-, hfails, -⟩ := evaluate_asks handingOut v (.iri "e:a") unknown [] ["e:b"]
  have hrun : ((known.evaluate handingOut.recorded v (.iri "e:a")).run.run []).run ["e:b"] =
      ((.ok [.literal (.string "x")], asked), []) := rfl
  rw [hrun] at hrecorded
  injection hrecorded with hrecorded hs'
  injection hrecorded with _ hasked
  subst hs'
  refine ⟨⟨by decide, hresolves, hnever, exchanges, result, hasked.symm, hplain, hgives, htrail⟩,
    by decide, by decide, ?_⟩
  exact (hfails ["knows"] "nickname" [] rfl (by decide) (by decide)).2

end Evaluate

end Path

end LinkedData
