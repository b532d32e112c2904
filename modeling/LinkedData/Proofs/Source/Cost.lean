import LinkedData.Proofs.Record.Questions
import LinkedData.Proofs.Source.Keeping

/-!
# LinkedData.Proofs.Source.Cost -- what it costs to keep nothing

When every call to a source has the same outcome, an engine that keeps the graph and one that
fetches it for every query give the same results, and so does an engine over the graph itself.
They differ in the number of calls: one, or one for every query that is asked. A source that
fails is called once by either of them, since the first failure ends the work.
-/

namespace LinkedData.Source

open LinkedData.Query LinkedData.Rdf

/-- What there is after a computation on an engine over a source. -/
structure Spent (σ α : Type) where
  result : Except Failure α
  /-- The queries that were asked. -/
  queries : List Select
  /-- The graph that is kept. -/
  kept : Option Graph
  /-- The number of calls made. -/
  calls : Nat
  outside : σ

section Spending

variable {σ α : Type} (d : Dereferencer (StateM σ)) (url : String) (s : σ) (keep : Bool)
  (v : Vocabulary)

/-- A computation on an engine that has a graph or none, when some queries have been asked and
some calls have been made. -/
def spend (x : Asking α) (asked : List Select) (kept : Option Graph) (calls : Nat) :
    Spent σ α :=
  let r := ((((x _ (engine d.counted url keep).recorded v).run.run asked).run kept).run calls).run
    (d.afterCalls url s calls)
  ⟨r.1.1.1.1, r.1.1.1.2, r.1.1.2, r.1.2, r.2⟩

/-- A course of questions as a computation. -/
def asking (i : Inquiry α) : Asking α :=
  fun _ _ e v => i.run (e.answers v)

theorem run_recorded_answer (query : Select) (asked : List Select) (kept : Option Graph)
    (calls : Nat) (s : σ) :
    (((((engine d.counted url keep).recorded.answer query).run.run asked).run kept).run calls).run
        s =
      (fun r : ((Except Failure (List Binding) × Option Graph) × Nat) × σ =>
        ((((r.1.1.1, asked ++ [query]), r.1.1.2), r.1.2), r.2))
      (((((engine d.counted url keep).answer query).run.run kept).run calls).run s) := rfl

theorem spend_solutions_none (query : Select) (next : List Binding → Inquiry α)
    (asked : List Select) (calls : Nat) :
    spend d url s keep v (asking (.ask (.solutions query) next)) asked none calls =
      match (d.outcome url s calls).graph with
      | .ok g => spend d url s keep v (asking (next (solve g query))) (asked ++ [query])
          (if keep then some g else none) (calls + 1)
      | .error failure => ⟨.error failure, asked ++ [query], none, calls + 1,
          d.afterCalls url s (calls + 1)⟩ := by
  have hfirst := run_answer_none d url keep query calls (d.afterCalls url s calls)
  rw [run_fetchGraph_counted] at hfirst
  have hrecorded := run_recorded_answer d url keep query asked none calls (d.afterCalls url s calls)
  rw [hfirst] at hrecorded
  simp only [spend, asking, Inquiry.run, ExceptT.run_bind, StateT.run_bind, Engine.answers]
  rw [hrecorded]
  have houtcome : ((d.dereference url).run.run (d.afterCalls url s calls)).1 =
      d.outcome url s calls := rfl
  rw [houtcome]
  cases (d.outcome url s calls).graph with
  | ok g => cases keep <;> rfl
  | error failure => cases keep <;> rfl

theorem spend_solutions_some (query : Select) (next : List Binding → Inquiry α)
    (asked : List Select) (g : Graph) (calls : Nat) :
    spend d url s true v (asking (.ask (.solutions query) next)) asked (some g) calls =
      spend d url s true v (asking (next (solve g query))) (asked ++ [query]) (some g) calls :=
  rfl

theorem spend_predicates (path : Path) (next : List Iri → Inquiry α) (asked : List Select)
    (kept : Option Graph) (calls : Nat) :
    spend d url s keep v (asking (.ask (.predicates path) next)) asked kept calls =
      match path.predicates v with
      | .ok predicates => spend d url s keep v (asking (next predicates)) asked kept calls
      | .error failure => ⟨.error failure, asked, kept, calls, d.afterCalls url s calls⟩ := by
  simp only [spend, asking, Inquiry.run, Engine.answers]
  cases path.predicates v with
  | ok predicates => rfl
  | error failure => rfl

/-- The engines over a source whose calls all complete with one graph come to what the engine over
the graph comes to, and ask what it asks. The one that keeps nothing makes a call for each query,
and the one that has the graph makes none. -/
theorem spend_of_same {g : Graph} (hsame : ∀ n, (d.outcome url s n).graph = .ok g)
    (i : Inquiry α) (asked : List Select) :
    ∃ result more,
      (i.run ((Engine.ofGraph g : Engine Id).recorded.answers v)).run.run asked =
        (result, asked ++ more) ∧
      ∀ calls,
        spend d url s false v (asking i) asked none calls =
          ⟨result, asked ++ more, none, calls + more.length,
            d.afterCalls url s (calls + more.length)⟩ ∧
        spend d url s true v (asking i) asked (some g) calls =
          ⟨result, asked ++ more, some g, calls, d.afterCalls url s calls⟩ := by
  -- The three runs are followed at once, for any queries and calls before them: a query that is
  -- one more for all of them is one call more for the second.
  induction i generalizing asked with
  | done result =>
    refine ⟨.ok result, [], ?_, fun calls => ⟨?_, ?_⟩⟩ <;> rw [List.append_nil] <;> rfl
  | ask question next ih =>
    cases question with
    | predicates path =>
      simp only [spend_predicates]
      cases hpredicates : path.predicates v with
      | ok predicates =>
        simp only [Inquiry.run, Engine.answers, hpredicates, pure_bind]
        exact ih predicates asked
      | error failure =>
        simp only [Inquiry.run, Engine.answers, hpredicates]
        refine ⟨.error failure, [], ?_, fun calls => ⟨?_, ?_⟩⟩ <;> rw [List.append_nil] <;> rfl
    | solutions query =>
      simp only [spend_solutions_none, spend_solutions_some, hsame]
      obtain ⟨result, more, hgraph, hspent⟩ := ih (solve g query) (asked ++ [query])
      have hshift : ∀ calls, calls + 1 + more.length = calls + (query :: more).length := by
        intro calls
        rw [List.length_cons]
        omega
      have hlog : asked ++ query :: more = asked ++ [query] ++ more := by
        rw [List.append_assoc]
        rfl
      refine ⟨result, query :: more, ?_, fun calls => ⟨?_, ?_⟩⟩
      · rw [hlog]
        exact hgraph
      · rw [hlog, ← hshift]
        exact (hspent (calls + 1)).1
      · rw [hlog]
        exact (hspent calls).2

end Spending

/-! ## Projecting all entities of a source -/

section Projecting

variable {σ : Type} (d : Dereferencer (StateM σ)) (url : String) (s : σ) (keep : Bool)
  (v : Vocabulary) (type : Iri) (shape : Record.Shape)

/-- The queries that a computation asks of an engine over a source that has kept nothing. -/
def askedOf {α : Type} (x : Asking α) : List Select :=
  (spend d url s keep v x [] none 0).queries

/-- The records of all entities of a type, on a fresh engine over a source. -/
def projecting : Spent σ (List Record) :=
  let r := (((Record.projectEntities (engine d.counted url keep) v type shape).run.run none).run 0).run s
  let asked := askedOf d url s keep v fun _ _ e v => Record.projectEntities e v type shape
  ⟨r.1.1.1, asked, r.1.1.2, r.1.2, r.2⟩

/-- A record of the queries changes nothing. -/
theorem projecting_eq_spend :
    projecting d url s keep v type shape =
      spend d url s keep v (fun _ _ e v => Record.projectEntities e v type shape) [] none 0 := by
  obtain ⟨i, hi⟩ := Record.isInquiry_projectEntities type shape
  have hplain := i.run_recorded (engine d.counted url keep) v []
  rw [projecting, askedOf, spend]
  simp only [hi]
  rw [← hplain]
  rfl

/-- The first thing that is asked for are the entities, and then everything is an inquiry. -/
theorem projectEntities_asks_first :
    ∃ next : List Binding → Inquiry (List Record),
      ∀ (m : Type → Type) [Monad m] [LawfulMonad m] (e : Engine m) (v : Vocabulary),
        Record.projectEntities e v type shape =
          (Inquiry.ask (.solutions (.subjectsOfType type)) next).run (e.answers v) := by
  have hrest : ∀ entities : List Term, IsInquiry fun _ _ e v =>
      entities.mapM fun t => Record.project e v (some t) shape :=
    .mapM fun t => Record.isInquiry_project shape (some t)
  choose next hnext using hrest
  refine ⟨fun bindings => next (bindings.filterMap fun b => b.find? "entity"),
    fun m _ _ e v => ?_⟩
  rw [Record.projectEntities, Record.findEntities, bind_assoc]
  refine bind_congr fun bindings => ?_
  rw [pure_bind]
  exact hnext _ m e v

/-- A source that always has the same outcome. -/
theorem projecting_kept_or_refetched (outcome : Outcome)
    (hsame : ∀ n, d.outcome url s n = outcome) :
    (projecting d url s true v type shape).result =
        (projecting d url s false v type shape).result ∧
    (∀ failure, outcome.Fails failure → ∀ keep,
      projecting d url s keep v type shape =
        ⟨.error failure, [.subjectsOfType type], none, 1, d.afterCalls url s 1⟩) ∧
    ∀ g, outcome.Completes g →
      let records := (Record.projectEntities (Engine.ofGraph g : Engine Id) v type shape).run
      let queries := Record.queriesOf g v type shape
      projecting d url s true v type shape =
        ⟨records, queries, some g, 1, d.afterCalls url s 1⟩ ∧
      projecting d url s false v type shape =
        ⟨records, queries, none, queries.length, d.afterCalls url s queries.length⟩ ∧
      queries.length =
        1 + ((Record.upToFailure v (Record.followedByAll g v type shape)).map
          fun walk => walk.2.cost g v walk.1).sum := by
  obtain ⟨next, hnext⟩ := projectEntities_asks_first type shape
  have hspend : ∀ keep, projecting d url s keep v type shape =
      spend d url s keep v (asking (.ask (.solutions (.subjectsOfType type)) next)) [] none 0 := by
    intro keep
    rw [projecting_eq_spend, spend, spend]
    simp only [hnext, asking]
  have hfails : ∀ failure, outcome.graph = .error failure → ∀ keep,
      projecting d url s keep v type shape =
        ⟨.error failure, [.subjectsOfType type], none, 1, d.afterCalls url s 1⟩ := by
    intro failure hgraph keep
    rw [hspend, spend_solutions_none, hsame, hgraph]
    rfl
  -- Either engine calls for the entities first. After that one has the graph, the other nothing.
  have hcompletes : ∀ g, outcome.graph = .ok g →
      let records := (Record.projectEntities (Engine.ofGraph g : Engine Id) v type shape).run
      let queries := Record.queriesOf g v type shape
      projecting d url s true v type shape =
        ⟨records, queries, some g, 1, d.afterCalls url s 1⟩ ∧
      projecting d url s false v type shape =
        ⟨records, queries, none, queries.length, d.afterCalls url s queries.length⟩ := by
    intro g hgraph
    have hgraphs : ∀ n, (d.outcome url s n).graph = .ok g := fun n => by rw [hsame, hgraph]
    obtain ⟨result, more, hrun, hspent⟩ := spend_of_same d url s v hgraphs
      (next (solve g (.subjectsOfType type))) [.subjectsOfType type]
    have hrecorded := Record.records_projectEntities g v type shape []
    rw [hnext] at hrecorded
    obtain ⟨hresult, hqueries⟩ := Prod.ext_iff.mp (hrun.symm.trans hrecorded)
    simp only [List.nil_append] at hresult hqueries
    have hlength : 1 + more.length = (Record.queriesOf g v type shape).length := by
      rw [← hqueries, List.length_append, List.length_singleton]
    constructor
    · rw [hspend, spend_solutions_none, hsame, hgraph, ← hresult, ← hqueries]
      exact (hspent 1).2
    · rw [hspend, spend_solutions_none, hsame, hgraph, ← hresult, ← hlength, ← hqueries]
      exact (hspent 1).1
  refine ⟨?_, fun failure h => hfails failure (Outcome.fails_iff.mp h), fun g h => ?_⟩
  · cases hgraph : outcome.graph with
    | ok g => rw [(hcompletes g hgraph).1, (hcompletes g hgraph).2]
    | error failure => rw [hfails failure hgraph, hfails failure hgraph]
  · obtain ⟨hkept, hrefetched⟩ := hcompletes g (Outcome.completes_iff.mp h)
    exact ⟨hkept, hrefetched, Record.length_queriesOf g v type shape⟩

end Projecting

/-! ## A source that stays the same -/

theorem afterCalls_fixed (url : String) (w : World) (n : Nat) :
    Dereferencer.fixed.afterCalls url w n = { w with calls := w.calls + n } := by
  induction n with
  | zero => rfl
  | succ n ih =>
    rw [Dereferencer.afterCalls, ih]
    rfl

/-- With one phase only, every call has the same outcome. -/
theorem outcome_fixed_of_one_phase (url : String) (sources : Dict Fixed) (n : Nat) :
    Dereferencer.fixed.outcome url { phases := [sources] } n =
      World.opened { phases := [sources] } url := by
  have hcurrent : World.current { phases := [sources], calls := 0 + n } = sources := by
    simp [World.current]
  rw [Dereferencer.outcome, afterCalls_fixed]
  show World.opened { phases := [sources], calls := 0 + n } url = _
  rw [World.opened, hcurrent]
  rfl

/-- Someone who knows a person with a name, and the name of somebody else. -/
def directory : Graph :=
  [⟨.iri "e:a", rdfType, .iri "e:Person", none⟩, ⟨.iri "e:a", "e:knows", .iri "e:b", none⟩,
   ⟨.iri "e:a", "e:knows", .literal (.string "C"), none⟩,
   ⟨.iri "e:b", "e:name", .literal (.string "B"), none⟩]

/-- The directory takes three queries: for the person, for whom the person knows, and for the name
of the one of the two that is no literal. -/
theorem projecting_directory :
    let world : World := { phases := [[("http://a.b/", .quads directory)]] }
    let v : Vocabulary := ⟨[("knows", "e:knows"), ("name", "e:name")]⟩
    let shape : Record.Shape := [("names", .all (.ofDotted "knows.name"))]
    let run keep := projecting Dereferencer.fixed "http://a.b/" world keep v "e:Person" shape
    (∀ n, Dereferencer.fixed.outcome "http://a.b/" world n = world.opened "http://a.b/") ∧
      (run true).result = (run false).result ∧ (run true).calls = 1 ∧ (run false).calls = 3 := by
  intro world v shape run
  have hsame : ∀ n, Dereferencer.fixed.outcome "http://a.b/" world n = world.opened "http://a.b/" :=
    outcome_fixed_of_one_phase "http://a.b/" _
  obtain ⟨hresult, -, hcomplete⟩ := projecting_kept_or_refetched Dereferencer.fixed "http://a.b/"
    world v "e:Person" shape _ hsame
  obtain ⟨hkept, hrefetched, hlength⟩ := hcomplete directory (.arrived rfl)
  refine ⟨hsame, hresult, congrArg Spent.calls hkept, (congrArg Spent.calls hrefetched).trans ?_⟩
  rw [hlength]
  decide

end LinkedData.Source
