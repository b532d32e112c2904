import LinkedData.Proofs.Path.DepthFirst
import LinkedData.Proofs.Rdf.Reading
import LinkedData.Proofs.Record.Reading
import LinkedData.Proofs.Source.Keeping
import LinkedData.Service.Router

/-!
# LinkedData.Proofs.Service.Performing -- what a request comes to

A task calls for sources and counts events. Its result depends on the answers alone, so a task
can be performed without counting, and then a request for quads is nothing but fetching a graph,
and a request for businesses nothing but projecting records over the same sources.

What is counted is in step with the calls: `Metered` says of a task that each call is counted as
soon as it is answered, by what came of it, and that nothing else is counted. Fetching and
projecting are metered; a request for quads or businesses counts one event more, at its end.
-/

namespace LinkedData.Service

open LinkedData.Json LinkedData.Query LinkedData.Rdf LinkedData.Source LinkedData.Text

namespace Task

variable {α β : Type}

/-! ## Tasks without their counts -/

section Perform

variable {m : Type → Type} [Monad m] [LawfulMonad m] (d : Dereferencer m)

/-- The work of a task without its counts. -/
def perform (d : Dereferencer m) : Task α → m α
  | .done result => pure result
  | .call url next => do
    let answer ← (d.dereference url).run
    (next answer).perform d
  | .count _ next => next.perform d

theorem perform_bind (t : Task α) (f : α → Task β) :
    (t >>= f).perform d = t.perform d >>= fun result => (f result).perform d := by
  induction t with
  | done result => exact (pure_bind result fun result => (f result).perform d).symm
  | call url next ih =>
    have hbind : (Task.call url next >>= f).perform d =
        (d.dereference url).run >>= fun answer => (next answer >>= f).perform d := rfl
    rw [hbind, perform, LawfulMonad.bind_assoc]
    exact bind_congr fun answer => ih answer
  | count event next ih => exact ih

theorem perform_map (f : α → β) (t : Task α) : (f <$> t).perform d = f <$> t.perform d := by
  rw [map_eq_pure_bind, perform_bind, map_eq_pure_bind]
  rfl

/-- Counting does not change the result. -/
theorem fst_run (t : Task α) (s : Statistics) : Prod.fst <$> t.run d s = t.perform d := by
  induction t generalizing s with
  | done result => exact map_pure Prod.fst (result, s)
  | call url next ih =>
    rw [run, perform, map_bind]
    exact bind_congr fun answer => ih answer s
  | count event next ih => exact ih (s.record event)

theorem perform_fetchGraph (url : String) :
    (fetchGraph dereferencer url).run.perform d = (fetchGraph d url).run := by
  have hcall : (dereferencer.dereference url).run.perform d = (d.dereference url).run :=
    bind_pure (d.dereference url).run
  rw [run_fetchGraph, run_fetchGraph, perform_map, hcall]

/-- An inquiry over a source is performed by asking the same over the same source. -/
theorem perform_inquiry (url : String) (keep : Bool) (v : Vocabulary) (i : Inquiry α)
    (kept : Option Graph) :
    ((i.run ((engine dereferencer url keep).answers v)).run.run kept).perform d =
      (i.run ((engine d url keep).answers v)).run.run kept := by
  -- The induction is on the questions; which graph is kept changes with the answers.
  induction i generalizing kept with
  | done result => rfl
  | ask question next ih =>
    simp only [Inquiry.run, ExceptT.run_bind, StateT.run_bind]
    rw [perform_bind]
    cases question with
    | predicates path =>
      simp only [Engine.answers]
      cases path.predicates v with
      | ok predicates =>
        show pure (Except.ok predicates, kept) >>= _ =
          (pure (Except.ok predicates, kept) >>= _ : m _)
        rw [pure_bind, pure_bind]
        exact ih predicates kept
      | error failure =>
        show pure (Except.error failure, kept) >>= _ =
          (pure (Except.error failure, kept) >>= _ : m _)
        rw [pure_bind, pure_bind]
        rfl
    | solutions query =>
      have hanswer : (((engine dereferencer url keep).answer query).run.run kept).perform d =
          ((engine d url keep).answer query).run.run kept := by
        rw [run_answer, run_answer]
        cases (if keep then kept else none) with
        | some g => rfl
        | none => exact (perform_map d _ _).trans (congrArg _ (perform_fetchGraph d url))
      simp only [Engine.answers]
      rw [hanswer]
      refine bind_congr fun r => ?_
      obtain ⟨outcome, kept'⟩ := r
      cases outcome with
      | ok bindings => exact ih bindings kept'
      | error failure => rfl

/-- Businesses are projected from the records of a source of their own. -/
theorem businesses_eq (s : Server) (url : String) :
    businesses s url = Prod.fst <$>
      (Record.projectEntities (engine dereferencer url s.settings.cacheSource) s.vocabulary
        s.settings.businessType Record.businessShape).run.run none :=
  rfl

theorem perform_businesses (s : Server) (url : String) :
    (businesses s url).perform d = Prod.fst <$>
      (Record.projectEntities (engine d url s.settings.cacheSource) s.vocabulary
        s.settings.businessType Record.businessShape).run.run none := by
  obtain ⟨i, hi⟩ := Record.isInquiry_projectEntities s.settings.businessType Record.businessShape
  have hinquiry := perform_inquiry d url s.settings.cacheSource s.vocabulary i none
  rw [← hi, ← hi] at hinquiry
  rw [businesses_eq, perform_map, hinquiry]

end Perform

/-! ## Calls that are counted -/

/-- Each call is counted as soon as it is answered, by what came of it, and nothing else is
counted. As long as the answers fail only as `F` allows, the results are as `P` says. -/
inductive Metered (F : Failure → Prop) (P : α → Prop) : Task α → Prop
  | done {result : α} : P result → Metered F P (.done result)
  | call {url : String} {next : Except Failure Opened → Task α} :
      (∀ answer : Outcome, (∀ failure, answer.Fails failure → F failure) →
        Metered F P (next answer)) →
      Metered F P (.call url fun answer => .count (outcome answer) (next answer))

section Metered

variable {F : Failure → Prop} {P : α → Prop} {Q : β → Prop}

theorem Metered.bind {t : Task α} {f : α → Task β} (ht : t.Metered F P)
    (hf : ∀ result, P result → (f result).Metered F Q) : (t >>= f).Metered F Q := by
  induction ht with
  | done h => exact hf _ h
  | call _ ih => exact .call ih

theorem Metered.map {t : Task α} {f : α → β} (ht : t.Metered F P)
    (hf : ∀ result, P result → Q (f result)) : (f <$> t).Metered F Q := by
  rw [map_eq_pure_bind]
  exact ht.bind fun result h => .done (hf result h)

/-- Results that are as `P` says, and failures that are as `F` allows. -/
def Within (F : Failure → Prop) (P : α → Prop) : Except Failure α → Prop
  | .ok result => P result
  | .error failure => F failure

/-- Fetching a graph is metered. -/
theorem metered_fetchGraph (url : String) :
    (fetchGraph dereferencer url).run.Metered F (Within F fun _ => True) := by
  have hcall : (dereferencer.dereference url).run.Metered F
      fun answer : Outcome => ∀ failure, answer.Fails failure → F failure :=
    .call fun answer h => .done h
  rw [run_fetchGraph]
  refine hcall.map fun answer h => ?_
  cases hgraph : answer.graph with
  | ok g => trivial
  | error failure => exact h failure (Outcome.fails_iff.mpr hgraph)

/-- An inquiry over a source is metered, whether or not a graph is kept. -/
theorem metered_inquiry (hF : ∀ name, F (.unknownProperty name)) (url : String) (keep : Bool)
    (v : Vocabulary) {i : Inquiry α} (hi : i.EndsWith P) (kept : Option Graph) :
    ((i.run ((engine dereferencer url keep).answers v)).run.run kept).Metered F
      fun r => Within F P r.1 := by
  -- A question is either answered, and the rest is metered by induction, or its failure is the
  -- result.
  induction hi generalizing kept with
  | done h => exact .done h
  | @ask question next _ ih =>
    simp only [Inquiry.run, ExceptT.run_bind, StateT.run_bind]
    cases question with
    | predicates path =>
      simp only [Engine.answers]
      cases hpredicates : path.predicates v with
      | ok predicates => exact ih predicates kept
      | error failure =>
        obtain ⟨name, rfl⟩ := Path.predicates_eq_error hpredicates
        exact .done (hF name)
    | solutions query =>
      have hanswer : (((engine dereferencer url keep).answer query).run.run kept).Metered F
          fun r => Within F (fun _ => True) r.1 := by
        rw [run_answer]
        cases (if keep then kept else none) with
        | some g => exact .done trivial
        | none =>
          refine (metered_fetchGraph url).map fun fetched h => ?_
          cases fetched with
          | ok g => trivial
          | error failure => exact h
      simp only [Engine.answers]
      refine hanswer.bind fun r h => ?_
      obtain ⟨outcome, kept'⟩ := r
      cases outcome with
      | ok bindings => exact ih bindings kept'
      | error failure => exact .done h

/-- Projecting businesses is metered, and their records are not nested too deep to be read. -/
theorem metered_businesses (hF : ∀ name, F (.unknownProperty name)) (s : Server) (url : String) :
    (businesses s url).Metered F
      (Within F fun records => ∀ r ∈ records, Record.fieldsDepth r + 2 ≤ Reader.maxDepth) := by
  obtain ⟨i, hends, hi⟩ :=
    Record.yields_projectEntities s.settings.businessType Record.businessShape
  have hinquiry := metered_inquiry hF url s.settings.cacheSource s.vocabulary hends none
  rw [← hi] at hinquiry
  rw [businesses_eq]
  refine hinquiry.map fun r h => ?_
  cases hr : r.1 with
  | error failure =>
    rw [hr] at h
    exact h
  | ok records =>
    rw [hr] at h
    intro record hrecord
    have hdepth := h record hrecord
    rw [Record.shapeDepth_businessShape] at hdepth
    exact Nat.le_trans (Nat.add_le_add_right hdepth 2) (by decide)

/-- What metered work comes to on sources that fail only as is allowed. -/
theorem Metered.of_perform {σ : Type} {d : Dereferencer (StateM σ)}
    (hd : ∀ url outside failure, Outcome.Fails ((d.dereference url).run.run outside).1 failure →
      F failure) {t : Task α} (ht : t.Metered F P) (outside : σ) :
    P ((t.perform d).run outside).1 := by
  induction ht generalizing outside with
  | done h => exact h
  | @call url next _ ih =>
    exact ih _ (hd url outside) ((d.dereference url).run.run outside).2

end Metered

end Task

/-! ## Responses -/

/-- The JSON value in the body of a response. -/
def Response.value? (r : Response) : Option Json :=
  Json.parse? (String.ofList r.body)

/-- The response to a fault, on a route that pages of any origin may use. -/
def Fault.answer (f : Fault) : Response :=
  f.response.shared

/-! ## Requests -/

/-- The source that a request names: the one value of its parameter, unless that is blank. -/
def Request.source? (r : Request) : Option String :=
  match r.values "url" with
  | [url] => if (trim url.toList).isEmpty then none else some url
  | _ => none

theorem withSource_some {r : Request} {url : String} (h : r.source? = some url) (session : String)
    (serve : String → Task Response) : withSource session r serve = serve url := by
  unfold Request.source? at h
  split at h
  · rename_i named hvalues
    split at h
    · cases h
    · rename_i hblank
      cases h
      rw [withSource, sourceOf, hvalues]
      simp only [hblank]
      rfl
  · cases h

/-- A request that names no source is refused: because its parameter is missing or blank, or
because there are several. -/
theorem withSource_none {r : Request} (h : r.source? = none) :
    (∀ session serve, withSource session r serve =
        .done (Fault.response { session, cause := .missingParameter "url" })) ∨
      2 ≤ (r.values "url").length ∧ ∃ refusal : Response, refusal.status = 400 ∧
        ∀ session serve, withSource session r serve = .done refusal := by
  unfold Request.source? at h
  cases hvalues : r.values "url" with
  | nil =>
    refine .inl fun session serve => ?_
    rw [withSource, sourceOf, hvalues]
  | cons first more =>
    cases more with
    | nil =>
      rw [hvalues] at h
      have hblank : (trim first.toList).isEmpty = true := by
        by_contra hne
        simp [hne] at h
      refine .inl fun session serve => ?_
      rw [withSource, sourceOf, hvalues]
      simp only [hblank, if_true]
    | cons second more =>
      refine .inr ⟨by simp, .ofType "text/plain; charset=utf-8" 400
        "Failed to deserialize query string: duplicate field \x60url\x60".toList, rfl,
        fun session serve => ?_⟩
      rw [withSource, sourceOf, hvalues]

/-- The answer to a request with what its work came to. -/
def reply {α : Type} (session url : String) (write : List α → List Char) :
    Except Failure (List α) → Response
  | .ok items => .json 200 (write items)
  | .error failure => failureResponse session url failure

/-- What is counted when the work for a request is over. -/
def finale {α : Type} (served : Nat → Event) (failed : Event) : Except Failure (List α) → Event
  | .ok items => served items.length
  | .error _ => failed

/-- Counts what some work came to, and answers with it. -/
def conclude {α : Type} (session url : String) (served : Nat → Event) (failed : Event)
    (write : List α → List Char) (work : Task (Except Failure (List α))) : Task Response :=
  work >>= fun outcome => .count (finale served failed outcome)
    (.done (reply session url write outcome))

theorem serveTriples_eq (session url : String) :
    serveTriples session url =
      conclude session url .quadsServed .quadsFailed Graph.rdfJs
        (fetchGraph Task.dereferencer url).run := by
  refine bind_congr fun outcome => ?_
  cases outcome <;> rfl

theorem serveBusiness_eq (s : Server) (session url : String) :
    serveBusiness s session url =
      conclude session url .recordsServed .recordsFailed Record.listChars (businesses s url) := by
  refine bind_congr fun outcome => ?_
  cases outcome <;> rfl

theorem perform_conclude {m : Type → Type} [Monad m] [LawfulMonad m] (d : Dereferencer m)
    {α : Type} (session url : String) (served : Nat → Event) (failed : Event)
    (write : List α → List Char) (work : Task (Except Failure (List α))) :
    (conclude session url served failed write work).perform d =
      reply session url write <$> work.perform d := by
  rw [conclude, Task.perform_bind, map_eq_pure_bind]
  rfl

/-- A request with the method GET follows its route, and every route but the health check is open
to pages of any origin. -/
theorem handle_get {s : Server} {r : Request} (h : r.method = "GET") (session : String) :
    s.handle session r =
      match s.settings.route? r.path with
      | none => .done notFound.shared
      | some .health => .done s.health
      | some .triples => Response.shared <$> withSource session r (serveTriples session)
      | some .business => Response.shared <$> withSource session r (serveBusiness s session) := by
  rw [Server.handle]
  cases s.settings.route? r.path with
  | none => simp only [isShared, h, Server.respond]; rfl
  | some route =>
    cases route with
    | health => simp only [isShared, Server.respond, h, if_true, Server.follow]; rfl
    | triples =>
      simp only [isShared, Server.respond, h, if_true, Server.follow, map_eq_pure_bind]
      rfl
    | business =>
      simp only [isShared, Server.respond, h, if_true, Server.follow, map_eq_pure_bind]
      rfl

section Named

variable {s : Server} {r : Request} {url : String}

/-- A request for quads that names a source is work that is concluded. -/
theorem handle_triples (hget : r.method = "GET") (hroute : s.settings.route? r.path = some .triples)
    (hurl : r.source? = some url) (session : String) :
    s.handle session r = Response.shared <$>
      conclude session url .quadsServed .quadsFailed Graph.rdfJs
        (fetchGraph Task.dereferencer url).run := by
  rw [handle_get hget, hroute, ← serveTriples_eq]
  exact congrArg (Response.shared <$> ·) (withSource_some hurl session _)

/-- A request for businesses that names a source is work that is concluded. -/
theorem handle_business (hget : r.method = "GET")
    (hroute : s.settings.route? r.path = some .business) (hurl : r.source? = some url)
    (session : String) :
    s.handle session r = Response.shared <$>
      conclude session url .recordsServed .recordsFailed Record.listChars (businesses s url) := by
  rw [handle_get hget, hroute, ← serveBusiness_eq]
  exact congrArg (Response.shared <$> ·) (withSource_some hurl session _)

end Named

end LinkedData.Service
