import LinkedData.Source.Engine
import LinkedData.Source.Fixed

/-!
# LinkedData.Proofs.Source.Keeping -- what answers the queries of an engine over one source

What a source answers may change from call to call, so the calls have outcomes: the source
refuses, its quads break off, or they all arrive. An engine that keeps no graph makes a call
for each query, and the outcome of that call alone decides the answer. An engine that keeps a
graph makes calls until the first one completes; everything from there on is answered from the
graph of that call, and no call follows. A call that fails leaves nothing behind.
-/

namespace LinkedData.Source

open LinkedData.Query LinkedData.Rdf

/-! ## Outcomes of calls -/

/-- What a call to a source comes to, before its quads are looked at. -/
abbrev Outcome := Except Failure Opened

/-- A call fails with a failure: the source refuses, or it breaks off after some quads. -/
inductive Outcome.Fails : Outcome → Failure → Prop
  | refused (failure : Failure) : Fails (.error failure) failure
  | broken {opened : Opened} {arrived : Graph} {failure : Failure}
      {rest : Arrivals Failure Quad} :
      opened.quads = arrived.map .ok ++ .error failure :: rest → Fails (.ok opened) failure

/-- A call completes with a graph: all quads arrive. -/
inductive Outcome.Completes : Outcome → Graph → Prop
  | arrived {opened : Opened} {graph : Graph} :
      opened.quads = graph.map .ok → Completes (.ok opened) graph

/-- A query is answered by one outcome alone: with its failure, or from its graph. -/
inductive Outcome.Answers (outcome : Outcome) (query : Select) :
    Except Failure (List Binding) → Prop
  | failed {failure : Failure} : outcome.Fails failure → Answers outcome query (.error failure)
  | solved {graph : Graph} :
      outcome.Completes graph → Answers outcome query (.ok (solve graph query))

/-- The graph of an outcome, or its failure. -/
def Outcome.graph (outcome : Outcome) : Except Failure Graph :=
  outcome.bind fun opened => opened.quads.collect

/-- Quads that do not all arrive break off at the first fault. -/
theorem collect_eq_error {quads : Arrivals Failure Quad} {failure : Failure}
    (h : quads.collect = .error failure) :
    ∃ (arrived : Graph) (rest : Arrivals Failure Quad),
      quads = arrived.map .ok ++ .error failure :: rest := by
  induction quads with
  | nil => cases h
  | cons item later ih =>
    cases item with
    | error e =>
      cases h
      exact ⟨[], later, rfl⟩
    | ok q =>
      cases hlater : Arrivals.collect later with
      | ok g => simp [Arrivals.collect, hlater] at h
      | error e =>
        simp only [Arrivals.collect, hlater, Except.error.injEq] at h
        subst h
        obtain ⟨arrived, rest, rfl⟩ := ih hlater
        exact ⟨q :: arrived, rest, rfl⟩

namespace Outcome

variable {outcome : Outcome} {failure : Failure} {graph g : Graph}

theorem fails_iff : outcome.Fails failure ↔ outcome.graph = .error failure := by
  constructor
  · rintro (_ | h)
    · rfl
    · show Arrivals.collect _ = _
      rw [h, Arrivals.collect_append_error]
  · intro h
    cases outcome with
    | error e =>
      cases h
      exact .refused failure
    | ok opened =>
      obtain ⟨arrived, rest, hquads⟩ := collect_eq_error h
      exact .broken hquads

theorem completes_iff : outcome.Completes g ↔ outcome.graph = .ok g := by
  constructor
  · rintro ⟨h⟩
    exact Arrivals.collect_eq_ok_iff.mpr h
  · intro h
    cases outcome with
    | error e => cases h
    | ok opened => exact .arrived (Arrivals.collect_eq_ok_iff.mp h)

end Outcome

/-! ## Calls one after another -/

namespace Dereferencer

/-- The same calls, with a count of them. -/
def counted {m : Type → Type} [Monad m] (d : Dereferencer m) : Dereferencer (StateT Nat m) where
  dereference url := ExceptT.mk fun calls => do
    return (← (d.dereference url).run, calls + 1)

variable {σ : Type} (d : Dereferencer (StateM σ)) (url : String) (s : σ)

/-- The outside after some calls for a URL. -/
def afterCalls : Nat → σ
  | 0 => s
  | n + 1 => ((d.dereference url).run.run (afterCalls n)).2

/-- The outcome of the `n`-th call for a URL; calls are numbered from 0. -/
def outcome (n : Nat) : Outcome :=
  ((d.dereference url).run.run (d.afterCalls url s n)).1

end Dereferencer

/-! ## Fetching and answering, on top of anything -/

section Steps

variable {m : Type → Type} [Monad m] [LawfulMonad m] (d : Dereferencer m) (url : String)

/-- Fetching a graph is one call, and the graph of its outcome. -/
theorem run_fetchGraph :
    (fetchGraph d url).run = Outcome.graph <$> (d.dereference url).run := by
  rw [fetchGraph, ExceptT.run_bind, map_eq_pure_bind]
  refine bind_congr fun outcome => ?_
  cases outcome with
  | error failure => rfl
  | ok opened =>
    have hgraph : Outcome.graph (.ok opened) = opened.quads.collect := rfl
    rw [hgraph]
    cases hquads : opened.quads.collect <;> simp only [hquads] <;> rfl

theorem run_get (kept : Option Graph) :
    (get : Ask (StateT (Option Graph) m) (Option Graph)).run.run kept = pure (.ok kept, kept) := by
  show (pure (kept, kept) >>= fun r => pure (Except.ok r.1, r.2) : m _) = _
  rw [pure_bind]

theorem run_set (kept kept' : Option Graph) :
    (set kept' : Ask (StateT (Option Graph) m) PUnit).run.run kept = pure (.ok ⟨⟩, kept') := by
  show (pure (PUnit.unit, kept') >>= fun r => pure (Except.ok r.1, r.2) : m _) = _
  rw [pure_bind]

theorem run_refetch (kept : Option Graph) :
    (refetch d url).run.run kept =
      (fun outcome => (outcome, kept)) <$> (fetchGraph d url).run := by
  rw [refetch, map_eq_pure_bind]
  rfl

theorem run_recallGraph_some (g : Graph) :
    (recallGraph d url).run.run (some g) = pure (.ok g, some g) := by
  rw [recallGraph, ExceptT.run_bind, StateT.run_bind, run_get, pure_bind]
  rfl

theorem run_recallGraph_none :
    (recallGraph d url).run.run none =
      (fun outcome => (outcome, outcome.toOption)) <$> (fetchGraph d url).run := by
  rw [recallGraph, ExceptT.run_bind, StateT.run_bind, run_get, pure_bind]
  simp only [ExceptT.run_bind, StateT.run_bind, run_refetch, bind_map_left]
  rw [map_eq_pure_bind]
  refine bind_congr fun outcome => ?_
  cases outcome with
  | error failure => rfl
  | ok g =>
    simp only [StateT.run_bind]
    rw [run_set, pure_bind]
    rfl

/-- A query is answered from the graph that is kept, or from one that is fetched for it. -/
theorem run_answer (keep : Bool) (query : Select) (kept : Option Graph) :
    ((engine d url keep).answer query).run.run kept =
      match (if keep then kept else none) with
      | some g => pure (.ok (solve g query), kept)
      | none => (fun outcome => (outcome.map fun g => solve g query,
          if keep then outcome.toOption else kept)) <$> (fetchGraph d url).run := by
  cases keep with
  | false =>
    simp only [engine, ExceptT.run_bind, StateT.run_bind, Bool.false_eq_true, if_false, run_refetch,
      bind_map_left]
    rw [map_eq_pure_bind]
    refine bind_congr fun outcome => ?_
    cases outcome <;> rfl
  | true =>
    cases kept with
    | some g =>
      simp only [engine, ExceptT.run_bind, StateT.run_bind, if_true, run_recallGraph_some,
        pure_bind]
      rfl
    | none =>
      simp only [engine, ExceptT.run_bind, StateT.run_bind, if_true, run_recallGraph_none,
        bind_map_left]
      rw [map_eq_pure_bind]
      refine bind_congr fun outcome => ?_
      cases outcome <;> rfl

end Steps

/-! ## Queries one after another -/

/-- The answers to some queries, asked one after another whether or not they fail. -/
def answerAll {m : Type → Type} [Monad m] (e : Engine m) (queries : List Select) :
    m (List (Except Failure (List Binding))) :=
  queries.mapM fun query => (e.answer query).run

/-- Every query is answered by the outcome of one call alone: the `i`-th query by that of the
call `used i`. -/
structure AnsweredBy (outcomes : Nat → Outcome) (used : Nat → Nat) (queries : List Select)
    (answers : List (Except Failure (List Binding))) : Prop where
  length : answers.length = queries.length
  each : ∀ i query answer, queries[i]? = some query → answers[i]? = some answer →
    (outcomes (used i)).Answers query answer

theorem answeredBy_nil (outcomes : Nat → Outcome) (used : Nat → Nat) :
    AnsweredBy outcomes used [] [] :=
  ⟨rfl, nofun⟩

theorem AnsweredBy.cons {outcomes : Nat → Outcome} {used : Nat → Nat} {query : Select}
    {queries : List Select} {answer : Except Failure (List Binding)}
    {answers : List (Except Failure (List Binding))}
    (hfirst : (outcomes (used 0)).Answers query answer)
    (hrest : AnsweredBy outcomes (fun i => used (i + 1)) queries answers) :
    AnsweredBy outcomes used (query :: queries) (answer :: answers) := by
  constructor
  · rw [List.length_cons, List.length_cons, hrest.length]
  · intro i q a hq ha
    cases i with
    | zero =>
      cases hq
      cases ha
      exact hfirst
    | succ i => exact hrest.each i q a hq ha

/-- What there is after a run of queries. -/
structure Served (σ : Type) where
  answers : List (Except Failure (List Binding))
  /-- The graph that is kept. -/
  kept : Option Graph
  /-- The number of calls made. -/
  calls : Nat
  outside : σ

section Serving

variable {σ : Type} (d : Dereferencer (StateM σ)) (url : String) (s : σ) (keep : Bool)

/-- A run of queries on an engine that has a graph or none, when some calls have been made. -/
def serve (queries : List Select) (kept : Option Graph) (calls : Nat) : Served σ :=
  let r := (((answerAll (engine d.counted url keep) queries).run kept).run calls).run
    (d.afterCalls url s calls)
  ⟨r.1.1.1, r.1.1.2, r.1.2, r.2⟩

/-- The answer of an outcome to a query. -/
def Outcome.answer (outcome : Outcome) (query : Select) : Except Failure (List Binding) :=
  outcome.graph.map fun g => solve g query

theorem Outcome.answers_answer (outcome : Outcome) (query : Select) :
    outcome.Answers query (outcome.answer query) := by
  unfold Outcome.answer
  cases hgraph : outcome.graph with
  | error failure => exact .failed (Outcome.fails_iff.mpr hgraph)
  | ok g => exact .solved (Outcome.completes_iff.mpr hgraph)

/-- Fetching a graph makes one call and passes on what it comes to. -/
theorem run_fetchGraph_counted (calls : Nat) (s : σ) :
    ((fetchGraph d.counted url).run.run calls).run s =
      ((Outcome.graph ((d.dereference url).run.run s).1, calls + 1),
        ((d.dereference url).run.run s).2) := by
  rw [run_fetchGraph]
  rfl

/-- Without a kept graph a query fetches one, which answers it. -/
theorem run_answer_none (query : Select) (calls : Nat) (s : σ) :
    ((((engine d.counted url keep).answer query).run.run none).run calls).run s =
      (fun r : (Except Failure Graph × Nat) × σ =>
        (((r.1.1.map fun g => solve g query, if keep then r.1.1.toOption else none), r.1.2), r.2))
      (((fetchGraph d.counted url).run.run calls).run s) := by
  rw [run_answer, ite_self]
  rfl

/-- Without a kept graph the first query makes a call, and the outcome of that call alone
answers it. -/
theorem serve_cons_none (query : Select) (queries : List Select) (calls : Nat) :
    serve d url s keep (query :: queries) none calls =
      let later := serve d url s keep queries
        (if keep then (d.outcome url s calls).graph.toOption else none) (calls + 1)
      { later with answers := (d.outcome url s calls).answer query :: later.answers } := by
  have hfirst := run_answer_none d url keep query calls (d.afterCalls url s calls)
  rw [run_fetchGraph_counted] at hfirst
  rw [serve, answerAll, List.mapM_cons, StateT.run_bind, StateT.run_bind, StateT.run_bind, hfirst]
  rfl

/-- A kept graph answers the first query, and no call is made. -/
theorem serve_cons_some (query : Select) (queries : List Select) (g : Graph) (calls : Nat) :
    serve d url s true (query :: queries) (some g) calls =
      let later := serve d url s true queries (some g) calls
      { later with answers := .ok (solve g query) :: later.answers } := by
  rw [serve, answerAll, List.mapM_cons]
  rfl

/-! ## Runs -/

/-- From a kept graph on, every query is answered from it, and no call is made. -/
theorem serve_some {k : Nat} {g : Graph} (hk : (d.outcome url s k).Completes g)
    (queries : List Select) (calls : Nat) :
    ∃ answers, AnsweredBy (d.outcome url s) (fun _ => k) queries answers ∧
      serve d url s true queries (some g) calls =
        ⟨answers, some g, calls, d.afterCalls url s calls⟩ := by
  induction queries with
  | nil => exact ⟨[], answeredBy_nil _ _, rfl⟩
  | cons query queries ih =>
    obtain ⟨answers, hanswers, hrun⟩ := ih
    refine ⟨_, hanswers.cons (.solved hk), ?_⟩
    rw [serve_cons_some, hrun]

/-- As long as nothing is kept, each query is answered by a call of its own: because the engine
keeps nothing, or because every call fails. -/
theorem serve_none (queries : List Select) (calls : Nat)
    (h : keep = true → ∀ j, calls ≤ j → j < calls + queries.length →
      ∃ failure, (d.outcome url s j).Fails failure) :
    ∃ answers, AnsweredBy (d.outcome url s) (calls + ·) queries answers ∧
      serve d url s keep queries none calls =
        ⟨answers, none, calls + queries.length,
          d.afterCalls url s (calls + queries.length)⟩ := by
  induction queries generalizing calls with
  | nil => exact ⟨[], answeredBy_nil _ _, rfl⟩
  | cons query queries ih =>
    rw [List.length_cons] at h
    have hkept : (if keep then (d.outcome url s calls).graph.toOption else none) = none := by
      cases keep with
      | false => rfl
      | true =>
        obtain ⟨failure, hfails⟩ := h rfl calls (Nat.le_refl calls) (by omega)
        rw [Outcome.fails_iff.mp hfails]
        rfl
    obtain ⟨answers, hanswers, hrun⟩ := ih (calls + 1) fun hkeep j hle hlt =>
      h hkeep j (by omega) (by omega)
    have hshift : AnsweredBy (d.outcome url s) (fun i => calls + (i + 1)) queries answers := by
      simpa only [Nat.add_assoc, Nat.add_comm 1] using hanswers
    refine ⟨_, hshift.cons (Outcome.answers_answer _ query), ?_⟩
    rw [serve_cons_none, hkept, hrun, List.length_cons, Nat.add_assoc, Nat.add_comm 1]
    rfl

/-- An engine that keeps a graph: when `k` is the first call that completes, the queries up to
it are answered by their own calls and those after it by that call. -/
theorem serve_until_complete {k : Nat} {g : Graph} (hk : (d.outcome url s k).Completes g)
    (queries : List Select) (calls : Nat) (hle : calls ≤ k)
    (hfail : ∀ j, calls ≤ j → j < k → ∃ failure, (d.outcome url s j).Fails failure) :
    ∃ answers, AnsweredBy (d.outcome url s) (fun i => min (calls + i) k) queries answers ∧
      serve d url s true queries none calls =
        ⟨answers, if k < calls + queries.length then some g else none,
          min (calls + queries.length) (k + 1),
          d.afterCalls url s (min (calls + queries.length) (k + 1))⟩ := by
  induction queries generalizing calls with
  | nil =>
    have hmin : min (calls + ([] : List Select).length) (k + 1) = calls := by
      rw [List.length_nil]
      omega
    refine ⟨[], answeredBy_nil _ _, ?_⟩
    rw [hmin, if_neg (by rw [List.length_nil]; omega)]
    rfl
  | cons query queries ih =>
    rcases Nat.lt_or_eq_of_le hle with hlt | rfl
    · -- The call fails, so nothing is kept, and the next query makes the next call.
      obtain ⟨failure, hfails⟩ := hfail calls (Nat.le_refl calls) hlt
      have hkept : (d.outcome url s calls).graph.toOption = none := by
        rw [Outcome.fails_iff.mp hfails]
        rfl
      obtain ⟨answers, hanswers, hrun⟩ := ih (calls + 1) hlt fun j hj => hfail j (by omega)
      have hlen : calls + 1 + queries.length = calls + (query :: queries).length := by
        rw [List.length_cons]
        omega
      have hshift : AnsweredBy (d.outcome url s) (fun i => min (calls + (i + 1)) k) queries
          answers := by
        simpa only [Nat.add_assoc, Nat.add_comm 1] using hanswers
      have hfirst : (d.outcome url s (min (calls + 0) k)).Answers query
          ((d.outcome url s calls).answer query) := by
        rw [Nat.add_zero, Nat.min_eq_left hle]
        exact Outcome.answers_answer _ query
      refine ⟨_, hshift.cons hfirst, ?_⟩
      rw [serve_cons_none, if_pos rfl, hkept, hrun, hlen]
    · -- The call completes, and its graph is kept for all queries to come.
      have hkept : (d.outcome url s calls).graph.toOption = some g := by
        rw [Outcome.completes_iff.mp hk]
        rfl
      obtain ⟨answers, hanswers, hrun⟩ := serve_some d url s hk queries (calls + 1)
      have hshift : AnsweredBy (d.outcome url s) (fun i => min (calls + (i + 1)) calls) queries
          answers := by
        have hmin : (fun i => min (calls + (i + 1)) calls) = fun _ => calls := by
          funext i
          omega
        rw [hmin]
        exact hanswers
      have hfirst : (d.outcome url s (min (calls + 0) calls)).Answers query
          ((d.outcome url s calls).answer query) := by
        rw [Nat.add_zero, Nat.min_self]
        exact Outcome.answers_answer _ query
      refine ⟨_, hshift.cons hfirst, ?_⟩
      have hmin : min (calls + (query :: queries).length) (calls + 1) = calls + 1 := by
        rw [List.length_cons]
        omega
      rw [serve_cons_none, if_pos rfl, hkept, hrun, hmin, if_pos (by rw [List.length_cons]; omega)]

/-- What answers a run of queries on an engine that has kept nothing yet. One that keeps a graph
answers each query by its own call until the first call that completes, and all others from the
graph of that call; it makes no call after it, and keeps nothing before. One that keeps nothing
answers each query by its own call. -/
theorem answers_until_first_complete (queries : List Select) :
    (∀ k g, (∀ j < k, ∃ failure, (d.outcome url s j).Fails failure) →
      (d.outcome url s k).Completes g →
        ∃ answers, AnsweredBy (d.outcome url s) (fun i => min i k) queries answers ∧
          serve d url s true queries none 0 =
            ⟨answers, if k < queries.length then some g else none, min queries.length (k + 1),
              d.afterCalls url s (min queries.length (k + 1))⟩) ∧
    ((∀ j < queries.length, ∃ failure, (d.outcome url s j).Fails failure) →
      ∃ answers, AnsweredBy (d.outcome url s) (fun i => i) queries answers ∧
        serve d url s true queries none 0 =
          ⟨answers, none, queries.length, d.afterCalls url s queries.length⟩) ∧
    ∃ answers, AnsweredBy (d.outcome url s) (fun i => i) queries answers ∧
      serve d url s false queries none 0 =
        ⟨answers, none, queries.length, d.afterCalls url s queries.length⟩ := by
  refine ⟨?_, ?_, ?_⟩
  · intro k g hfail hk
    have h := serve_until_complete d url s hk queries 0 (Nat.zero_le k) fun j _ => hfail j
    simpa only [Nat.zero_add] using h
  · intro hfail
    have h := serve_none d url s true queries 0 fun _ j _ hj => hfail j (by omega)
    simpa only [Nat.zero_add] using h
  · have h := serve_none d url s false queries 0 nofun
    simpa only [Nat.zero_add] using h

end Serving

/-! ## A source that recovers -/

/-- Someone has a name. -/
def nameQuad : Quad :=
  { subject := .iri "http://a.b/ada", predicate := "http://a.b/name",
    object := .literal (.string "Ada") }

/-- A source that is down at first, breaks off at the second call, and answers the third one;
later it answers something else. -/
def recovering : World where
  phases := [
    [("http://a.b/", .failure "refused")],
    [("http://a.b/", .quads [nameQuad] (some "reset"))],
    [("http://a.b/", .quads [nameQuad])],
    [("http://a.b/", .quads [])]]

/-- The third call is the first that completes, so the graph of that call is kept, and the two
queries after it make no calls. -/
theorem answers_of_recovering :
    ∃ answers,
      AnsweredBy (Dereferencer.fixed.outcome "http://a.b/" recovering) (fun i => min i 2)
        (List.replicate 5 (.subjectsOfType "http://a.b/Person")) answers ∧
      serve Dereferencer.fixed "http://a.b/" recovering true
          (List.replicate 5 (.subjectsOfType "http://a.b/Person")) none 0 =
        ⟨answers, some [nameQuad], 3,
          Dereferencer.fixed.afterCalls "http://a.b/" recovering 3⟩ := by
  refine (answers_until_first_complete Dereferencer.fixed "http://a.b/" recovering _).1 2
    [nameQuad] ?_ (.arrived rfl)
  intro j hj
  match j, hj with
  | 0, _ => exact ⟨_, .refused _⟩
  | 1, _ => exact ⟨_, Outcome.fails_iff.mpr rfl⟩

end LinkedData.Source
