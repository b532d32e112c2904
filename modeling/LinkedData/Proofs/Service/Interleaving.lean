import LinkedData.Proofs.Dict.Ordered
import LinkedData.Proofs.Service.Performing
import Mathlib.Algebra.BigOperators.Group.List.Basic
import Mathlib.Algebra.Ring.Nat
import Mathlib.Logic.Relation

/-!
# LinkedData.Proofs.Service.Interleaving -- the statistics of requests at the same time

The requests of a service share its statistics and nothing else. Their steps may be interleaved
in any way: a step is one call for a source, or one event that is counted. When each source has
one answer, what a request still has to do does not depend on the steps of the others, so every
number in the statistics and what is still to be counted for it make up the same sum at all
times. At the end nothing is left to be counted, and the statistics account for all requests.
-/

namespace LinkedData.Service

open LinkedData.Json LinkedData.Rdf LinkedData.Source

/-! ## Sources with one answer each -/

/-- Sources that answer every call for them alike, on top of anything. -/
def always {m : Type → Type} [Monad m] (answers : String → Outcome) : Dereferencer m where
  dereference url := ExceptT.mk (pure (answers url))

namespace Task

variable {α β : Type} (answers : String → Outcome)

/-- The result of a task. -/
def result (t : Task α) : α :=
  Id.run (t.perform (always answers))

/-- The URLs that a task calls for, in order. -/
def called : Task α → List String
  | .done _ => []
  | .call url next => url :: (next (answers url)).called
  | .count _ next => next.called

/-- The events that a task counts, in order. -/
def events : Task α → List Event
  | .done _ => []
  | .call url next => (next (answers url)).events
  | .count event next => event :: next.events

theorem result_bind (t : Task α) (f : α → Task β) :
    (t >>= f).result answers = (f (t.result answers)).result answers := by
  rw [result, perform_bind]
  rfl

theorem called_bind (t : Task α) (f : α → Task β) :
    (t >>= f).called answers = t.called answers ++ (f (t.result answers)).called answers := by
  induction t with
  | done result => rfl
  | call url next ih => exact congrArg (url :: ·) (ih (answers url))
  | count event next ih => exact ih

theorem events_bind (t : Task α) (f : α → Task β) :
    (t >>= f).events answers = t.events answers ++ (f (t.result answers)).events answers := by
  induction t with
  | done result => rfl
  | call url next ih => exact ih (answers url)
  | count event next ih => exact congrArg (event :: ·) ih

/-- What metered work counts is what came of each call. -/
theorem Metered.events_eq {P : α → Prop} {t : Task α} (ht : t.Metered (fun _ => True) P) :
    t.events answers = (t.called answers).map fun url => outcome (answers url) := by
  induction ht with
  | done h => rfl
  | @call url next _ ih =>
    exact congrArg (outcome (answers url) :: ·) (ih (answers url) fun _ _ => trivial)

theorem Metered.of_result {P : α → Prop} {t : Task α} (ht : t.Metered (fun _ => True) P) :
    P (t.result answers) := by
  induction ht with
  | done h => exact h
  | @call url next _ ih => exact ih (answers url) fun _ _ => trivial

end Task

/-! ## Requests at the same time -/

/-- A request in a session. -/
structure Visit where
  session : String
  request : Request

/-- What is left to do for some requests, the statistics, and the number of calls made. -/
structure Pool where
  tasks : List (Task Response)
  statistics : Statistics := {}
  calls : Nat := 0

namespace Pool

/-- Some requests arrive at a service. -/
def start (s : Server) (visits : List Visit) : Pool :=
  { tasks := visits.map fun v => s.handle v.session v.request }

/-- One step of any one of the tasks: a call, or an event that is counted. -/
inductive Step (answers : String → Outcome) : Pool → Pool → Prop
  | call {before after : List (Task Response)} {url : String}
      {next : Except Failure Opened → Task Response} {statistics : Statistics} {calls : Nat} :
      Step answers ⟨before ++ .call url next :: after, statistics, calls⟩
        ⟨before ++ next (answers url) :: after, statistics, calls + 1⟩
  | count {before after : List (Task Response)} {event : Event} {next : Task Response}
      {statistics : Statistics} {calls : Nat} :
      Step answers ⟨before ++ .count event next :: after, statistics, calls⟩
        ⟨before ++ next :: after, statistics.record event, calls⟩

/-- Any number of steps, in any order of the tasks. -/
def Run (answers : String → Outcome) : Pool → Pool → Prop :=
  Relation.ReflTransGen (Step answers)

end Pool

/-! ## What is counted -/

theorem sum_insert {d : Dict Nat} (hd : d.Ordered) (key : String) (n : Nat) :
    ((d.insert key n).map (·.2)).sum + (d.find? key).getD 0 = (d.map (·.2)).sum + n := by
  induction d with
  | nil => simp [Dict.insert]
  | cons entry rest ih =>
    obtain ⟨k, v⟩ := entry
    obtain ⟨hfirst, hrest⟩ := List.pairwise_cons.mp hd
    rw [Dict.insert]
    split_ifs with hlt heq
    · have hnone : Dict.find? ((k, v) :: rest) key = none := by
        refine Dict.find?_eq_none_of_lt fun e he => ?_
        rcases List.mem_cons.mp he with rfl | he
        · exact hlt
        · exact lt_trans hlt (hfirst e he)
      rw [hnone]
      simp only [List.map_cons, List.sum_cons, Option.getD_none]
      omega
    · subst heq
      simp only [Dict.find?_cons_self, List.map_cons, List.sum_cons, Option.getD_some]
      omega
    · rw [Dict.find?_cons_ne (Ne.symm heq)]
      have hlater := ih hrest
      simp only [List.map_cons, List.sum_cons]
      omega

/-- What happened to the requests of a route; nothing is counted about the health check. -/
def Statistics.tally (s : Statistics) : Route → Tally
  | .triples => s.quads
  | .business => s.business
  | .health => {}

/-- The route of the request that an event is about, if it is about a request. -/
def Event.route? : Event → Option Route
  | .quadsServed _ => some .triples
  | .quadsFailed => some .triples
  | .recordsServed _ => some .business
  | .recordsFailed => some .business
  | _ => none

/-- The items that were served. -/
def Event.items : Event → Nat
  | .quadsServed n => n
  | .recordsServed n => n
  | _ => 0

/-- A number that can be read off the statistics, and by how much each event raises it. -/
structure Gauge where
  read : Statistics → Nat
  weight : Event → Nat
  /-- What each call that is counted weighs. -/
  perCall : Nat
  fresh : read {} = 0
  record : ∀ {s : Statistics}, s.mediaTypes.Ordered → ∀ event : Event,
    read (s.record event) = read s + weight event
  call : ∀ answer : Outcome, weight (Task.outcome answer) = perCall

namespace Gauge

/-- The requests of a route that were answered or failed. -/
def requests (route : Route) : Gauge where
  read s := (s.tally route).answered + (s.tally route).failed
  weight event := if event.route? = some route then 1 else 0
  perCall := 0
  fresh := by cases route <;> rfl
  record _ event := by
    cases event <;> cases route <;>
      simp only [Statistics.tally, Statistics.record, Tally.serve, Tally.fail, Event.route?,
        Option.some.injEq, reduceCtorEq, if_true, if_false] <;> omega
  call answer := by cases answer <;> rfl

/-- The items in the answers of a route. -/
def items (route : Route) : Gauge where
  read s := (s.tally route).items
  weight event := if event.route? = some route then event.items else 0
  perCall := 0
  fresh := by cases route <;> rfl
  record _ event := by cases event <;> cases route <;> rfl
  call answer := by cases answer <;> rfl

/-- The calls for sources, failed or not. -/
def dereferences : Gauge where
  read s := s.failedDereferences + (s.mediaTypes.map (·.2)).sum
  weight
    | .dereferenced _ => 1
    | .dereferenceFailed => 1
    | _ => 0
  perCall := 1
  fresh := rfl
  record {s} hs event := by
    cases event with
    | dereferenced t =>
      have hsum := sum_insert hs t (s.opened t + 1)
      have hopened : (s.mediaTypes.find? t).getD 0 = s.opened t := rfl
      simp only [Statistics.record]
      omega
    | dereferenceFailed =>
      simp only [Statistics.record]
      omega
    | _ => rfl
  call answer := by cases answer <;> rfl

variable (g : Gauge)

/-- How much some events weigh together. -/
def total (events : List Event) : Nat :=
  (events.map g.weight).sum

theorem total_append (events later : List Event) :
    g.total (events ++ later) = g.total events + g.total later := by
  simp [total]

/-- Counted calls weigh the same each. -/
theorem total_calls (answers : String → Outcome) (urls : List String) :
    g.total (urls.map fun url => Task.outcome (answers url)) = g.perCall * urls.length := by
  induction urls with
  | nil => rfl
  | cons url urls ih =>
    have hcons : g.total ((url :: urls).map fun url => Task.outcome (answers url)) =
        g.weight (Task.outcome (answers url)) +
          g.total (urls.map fun url => Task.outcome (answers url)) := rfl
    rw [hcons, ih, g.call, List.length_cons, Nat.mul_succ, Nat.add_comm]

end Gauge

theorem ordered_record {s : Statistics} (h : s.mediaTypes.Ordered) (event : Event) :
    (s.record event).mediaTypes.Ordered := by
  cases event with
  | dereferenced t => exact h.insert t _
  | _ => exact h

/-! ## What every interleaving keeps -/

namespace Pool

variable (answers : String → Outcome)

/-- How much is still to be counted. -/
def toCome (g : Gauge) (p : Pool) : Nat :=
  (p.tasks.map fun t => g.total (t.events answers)).sum

/-- How many calls are still to be made. -/
def callsToCome (p : Pool) : Nat :=
  (p.tasks.map fun t => (t.called answers).length).sum

/-- Two stages of the same requests: what has been counted and what is still to come make up the
same sum, and each request has the same result ahead. -/
structure Agree (p q : Pool) : Prop where
  results : p.tasks.map (Task.result answers) = q.tasks.map (Task.result answers)
  calls : p.calls + p.callsToCome answers = q.calls + q.callsToCome answers
  gauges : ∀ g : Gauge,
    g.read p.statistics + p.toCome answers g = g.read q.statistics + q.toCome answers g

variable {answers}

/-- One step keeps all sums: what is counted is no longer to come. -/
theorem Step.agree {p q : Pool} (h : Step answers p q) (hp : p.statistics.mediaTypes.Ordered) :
    q.statistics.mediaTypes.Ordered ∧ Agree answers p q := by
  cases h with
  | @call before after url next statistics calls =>
    -- One call is made that was to come; what is counted about it is still to come.
    refine ⟨hp, ?_, ?_, fun g => ?_⟩
    · simp only [List.map_append, List.map_cons]
      rfl
    · simp only [callsToCome, List.map_append, List.map_cons, List.sum_append, List.sum_cons,
        Task.called, List.length_cons]
      omega
    · simp only [toCome, List.map_append, List.map_cons, Task.events]
  | @count before after event next statistics calls =>
    -- The weight of the event goes over from what is to come to what can be read.
    refine ⟨ordered_record hp event, ?_, ?_, fun g => ?_⟩
    · simp only [List.map_append, List.map_cons]
      rfl
    · simp only [callsToCome, List.map_append, List.map_cons, Task.called]
    · have hweight : g.total (event :: next.events answers) =
          g.weight event + g.total (next.events answers) := rfl
      simp only [toCome, List.map_append, List.map_cons, List.sum_append, List.sum_cons,
        Task.events, hweight, g.record hp event]
      omega

/-- However the steps are interleaved, all sums are kept. -/
theorem Run.agree {p q : Pool} (h : Run answers p q) (hp : p.statistics.mediaTypes.Ordered) :
    q.statistics.mediaTypes.Ordered ∧ Agree answers p q := by
  -- That the counts are ordered is carried along: no gauge can be relied on without it.
  induction h with
  | refl => exact ⟨hp, rfl, rfl, fun _ => rfl⟩
  | tail _ hstep ih =>
    obtain ⟨hordered, hagree⟩ := ih
    obtain ⟨hordered', hagree'⟩ := hstep.agree hordered
    exact ⟨hordered', hagree.results.trans hagree'.results, hagree.calls.trans hagree'.calls,
      fun g => (hagree.gauges g).trans (hagree'.gauges g)⟩

/-- When all requests are answered, nothing is to come any more. -/
theorem finished (answers : String → Outcome) (responses : List Response)
    (statistics : Statistics) (calls : Nat) :
    let p : Pool := ⟨responses.map .done, statistics, calls⟩
    p.callsToCome answers = 0 ∧ (∀ g, p.toCome answers g = 0) ∧
      p.tasks.map (Task.result answers) = responses := by
  induction responses with
  | nil => exact ⟨rfl, fun _ => rfl, rfl⟩
  | cons response responses ih =>
    obtain ⟨hcalls, htoCome, hresults⟩ := ih
    refine ⟨?_, fun g => ?_, congrArg (response :: ·) hresults⟩
    · exact (Nat.zero_add _).trans hcalls
    · exact (Nat.zero_add _).trans (htoCome g)

/-- A task can be done without a break. -/
theorem run_task (t : Task Response) (before after : List (Task Response))
    (statistics : Statistics) (calls : Nat) :
    Run answers ⟨before ++ t :: after, statistics, calls⟩
      ⟨before ++ .done (t.result answers) :: after, (t.events answers).foldl .record statistics,
        calls + (t.called answers).length⟩ := by
  induction t generalizing statistics calls with
  | done result => exact .refl
  | call url next ih =>
    have hrest := ih (answers url) statistics (calls + 1)
    rw [Nat.add_assoc, Nat.add_comm 1] at hrest
    exact .head .call hrest
  | count event next ih => exact .head .count (ih (statistics.record event) calls)

/-- Whatever has been done, all requests can still be answered, for instance one after another. -/
theorem exists_run (answers : String → Outcome) (p : Pool) :
    ∃ statistics calls, Run answers p
      ⟨(p.tasks.map (Task.result answers)).map .done, statistics, calls⟩ := by
  have hrest : ∀ (tasks before : List (Task Response)) (statistics : Statistics) (calls : Nat),
      ∃ statistics' calls', Run answers ⟨before ++ tasks, statistics, calls⟩
        ⟨before ++ (tasks.map (Task.result answers)).map .done, statistics', calls'⟩ := by
    -- From left to right: the first task is done, and then stands before the others.
    intro tasks
    induction tasks with
    | nil => exact fun before statistics calls => ⟨statistics, calls, .refl⟩
    | cons t tasks ih =>
      intro before statistics calls
      obtain ⟨statistics', calls', hrun⟩ := ih (before ++ [.done (t.result answers)])
        ((t.events answers).foldl .record statistics) (calls + (t.called answers).length)
      simp only [List.append_assoc, List.cons_append, List.nil_append] at hrun
      exact ⟨statistics', calls', (run_task t before tasks statistics calls).trans hrun⟩
  exact hrest p.tasks [] p.statistics p.calls

end Pool

/-! ## What one request comes to -/

/-- Whether a request reaches a route of a service and names a source. -/
def Request.asks (r : Request) (s : Server) (route : Route) : Bool :=
  s.settings.route? r.path = some route && r.source?.isSome

/-- The number of items in an answer: of the array in the body, unless the status says that there
is no answer. -/
def Response.items (r : Response) : Nat :=
  if r.status = 200 then
    match r.value? with
    | some (.array items) => items.length
    | _ => 0
  else 0

/-- What is counted about the response to a request. -/
def Request.counted (r : Request) (s : Server) (response : Response) : List Event :=
  if r.asks s .triples then
    [if response.status = 200 then .quadsServed response.items else .quadsFailed]
  else if r.asks s .business then
    [if response.status = 200 then .recordsServed response.items else .recordsFailed]
  else []

/-- Responses that differ at most in the session that a fault belongs to. -/
inductive Response.ApartFromSession (session session' : String) : Response → Response → Prop
  | same (r : Response) : ApartFromSession session session' r r
  | fault (cause : Cause) :
      ApartFromSession session session' (Fault.answer { session, cause })
        (Fault.answer { session := session', cause })

theorem status_ne_ok (c : Cause) : c.status ≠ 200 := by
  cases c <;> simp [Cause.status]

theorem items_of_status_ne {r : Response} (h : r.status ≠ 200) : r.items = 0 :=
  if_neg h

/-- The reply to a complete list that can be read back has its items, and any other has none. -/
theorem counted_reply {α : Type} (session url : String) (write : List α → List Char)
    (outcome : Except Failure (List α)) (served : Nat → Event) (failed : Event)
    (hread : ∀ items, outcome = .ok items → ∃ values : List Json, values.length = items.length ∧
      Json.parse? (String.ofList (write items)) = some (.array values)) :
    let response := (reply session url write outcome).shared
    finale served failed outcome =
      if response.status = 200 then served response.items else failed := by
  intro response
  cases outcome with
  | ok items =>
    obtain ⟨values, hlength, hparse⟩ := hread items rfl
    have hitems : response.items = items.length := by
      show (match Json.parse? (String.ofList (write items)) with
        | some (.array items) => items.length
        | _ => 0) = items.length
      rw [hparse]
      exact hlength
    rw [hitems]
    rfl
  | error failure => exact (if_neg (status_ne_ok (Cause.ofFailure url failure))).symm

theorem apart_reply {α : Type} (session session' url : String) (write : List α → List Char)
    (outcome : Except Failure (List α)) :
    Response.ApartFromSession session session' (reply session url write outcome).shared
      (reply session' url write outcome).shared := by
  cases outcome with
  | ok items => exact .same _
  | error failure => exact .fault (Cause.ofFailure url failure)

section Request

variable (s : Server) (answers : String → Outcome) {r : Request}

/-- The events and the result of work that is concluded. -/
theorem conclude_shared {α : Type} (session url : String) (served : Nat → Event) (failed : Event)
    (write : List α → List Char) {work : Task (Except Failure (List α))}
    {P : Except Failure (List α) → Prop} (hwork : work.Metered (fun _ => True) P) :
    let t := Response.shared <$> conclude session url served failed write work
    t.result answers = (reply session url write (work.result answers)).shared ∧
      t.events answers = (t.called answers).map (fun url => Task.outcome (answers url)) ++
        [finale served failed (work.result answers)] := by
  intro t
  have ht : t = work >>= fun outcome => .count (finale served failed outcome)
      (.done (reply session url write outcome).shared) := by
    show Response.shared <$> conclude session url served failed write work = _
    rw [conclude, map_bind]
    rfl
  -- The work calls and counts in step; the one event after it is the end of the request.
  rw [ht, Task.called_bind, Task.result_bind, Task.events_bind, hwork.events_eq]
  refine ⟨rfl, ?_⟩
  simp only [Task.called, List.append_nil]
  rfl

theorem asks_iff {route : Route} :
    r.asks s route = true ↔
      s.settings.route? r.path = some route ∧ ∃ url, r.source? = some url := by
  simp [Request.asks, Option.isSome_iff_exists]

/-- Any other request is answered at once, and no quads or records are in the answer of a route
for them. -/
theorem handle_idle (hget : r.method = "GET") (htriples : r.asks s .triples = false)
    (hbusiness : r.asks s .business = false) :
    ∃ response : String → Response, (∀ session, s.handle session r = .done (response session)) ∧
      (∀ session session',
        Response.ApartFromSession session session' (response session) (response session')) ∧
      ∀ session route, s.settings.route? r.path = some route → route ≠ .health →
        (response session).items = 0 := by
  have hrefused : ∀ serve : String → String → Task Response, r.source? = none →
      ∃ response : String → Response,
        (∀ session, Response.shared <$> withSource session r (serve session) =
          .done (response session)) ∧
        (∀ session session',
          Response.ApartFromSession session session' (response session) (response session')) ∧
        ∀ session route, s.settings.route? r.path = some route → route ≠ .health →
          (response session).items = 0 := by
    intro serve hnone
    rcases withSource_none hnone with hfault | ⟨-, refusal, hstatus, hrefusal⟩
    · refine ⟨fun session => Fault.answer { session, cause := .missingParameter "url" },
        fun session => ?_, fun _ _ => .fault _, fun _ _ _ _ => rfl⟩
      rw [hfault]
      rfl
    · refine ⟨fun _ => refusal.shared, fun session => ?_, fun _ _ => .same _,
        fun _ _ _ _ => items_of_status_ne ?_⟩
      · rw [hrefusal]
        rfl
      · show refusal.status ≠ 200
        rw [hstatus]
        decide
  have hnone : ∀ {route : Route}, s.settings.route? r.path = some route →
      r.asks s route = false → r.source? = none := by
    intro route hroute hasks
    simpa [Request.asks, hroute] using hasks
  cases hroute : s.settings.route? r.path with
  | none =>
    refine ⟨fun _ => notFound.shared, fun session => ?_, fun _ _ => .same _, nofun⟩
    rw [handle_get hget, hroute]
  | some route =>
    rw [hroute] at hrefused
    cases route with
    | health =>
      refine ⟨fun _ => s.health, fun session => ?_, fun _ _ => .same _, fun _ _ h hne => ?_⟩
      · rw [handle_get hget, hroute]
      · cases h
        exact absurd rfl hne
    | triples =>
      simp only [handle_get hget, hroute]
      exact hrefused serveTriples (hnone hroute htriples)
    | business =>
      simp only [handle_get hget, hroute]
      exact hrefused (serveBusiness s) (hnone hroute hbusiness)

/-- What is counted for a request: what came of each call, and what came of the request. -/
theorem events_handle (hget : r.method = "GET") (session : String) :
    let t := s.handle session r
    t.events answers = (t.called answers).map (fun url => Task.outcome (answers url)) ++
      r.counted s (t.result answers) := by
  intro t
  by_cases htriples : r.asks s .triples = true
  · obtain ⟨hroute, url, hurl⟩ := (asks_iff s).mp htriples
    have hhandle := handle_triples hget hroute hurl
    have hfetch := Task.metered_fetchGraph (F := fun _ => True) url
    obtain ⟨hresult, hevents⟩ :=
      conclude_shared answers session url .quadsServed .quadsFailed Graph.rdfJs hfetch
    have hfinale := counted_reply session url Graph.rdfJs
      ((fetchGraph Task.dereferencer url).run.result answers) .quadsServed .quadsFailed
      fun g _ => ⟨g.map Quad.json, List.length_map _, parse?_rdfJs g⟩
    have ht : t = _ := hhandle session
    rw [ht, hevents, hresult, hfinale, Request.counted, if_pos htriples]
  · by_cases hbusiness : r.asks s .business = true
    · obtain ⟨hroute, url, hurl⟩ := (asks_iff s).mp hbusiness
      have hhandle := handle_business hget hroute hurl
      have hproject := Task.metered_businesses (F := fun _ => True) (fun _ => trivial) s url
      obtain ⟨hresult, hevents⟩ :=
        conclude_shared answers session url .recordsServed .recordsFailed Record.listChars hproject
      have hdepth := hproject.of_result answers
      have hfinale := counted_reply session url Record.listChars
        ((businesses s url).result answers) .recordsServed .recordsFailed
        fun records h => by
          rw [h] at hdepth
          exact ⟨records.map Record.json, List.length_map _, Record.parse?_listChars hdepth⟩
      have ht : t = _ := hhandle session
      rw [ht, hevents, hresult, hfinale, Request.counted, if_neg htriples, if_pos hbusiness]
    · obtain ⟨response, hhandle, -, -⟩ := handle_idle s hget (by simpa using htriples)
        (by simpa using hbusiness)
      have ht : t = _ := hhandle session
      rw [ht, Request.counted, if_neg htriples, if_neg hbusiness]
      rfl

/-- The session matters to a response only where it is named. -/
theorem apart_handle (hget : r.method = "GET") (session session' : String) :
    Response.ApartFromSession session session' ((s.handle session r).result answers)
      ((s.handle session' r).result answers) := by
  by_cases htriples : r.asks s .triples = true
  · obtain ⟨hroute, url, hurl⟩ := (asks_iff s).mp htriples
    have hhandle := handle_triples hget hroute hurl
    have hfetch := Task.metered_fetchGraph (F := fun _ => True) url
    rw [hhandle, hhandle, (conclude_shared answers session url _ _ _ hfetch).1,
      (conclude_shared answers session' url _ _ _ hfetch).1]
    exact apart_reply ..
  · by_cases hbusiness : r.asks s .business = true
    · obtain ⟨hroute, url, hurl⟩ := (asks_iff s).mp hbusiness
      have hhandle := handle_business hget hroute hurl
      have hproject := Task.metered_businesses (F := fun _ => True) (fun _ => trivial) s url
      rw [hhandle, hhandle, (conclude_shared answers session url _ _ _ hproject).1,
        (conclude_shared answers session' url _ _ _ hproject).1]
      exact apart_reply ..
    · obtain ⟨response, hhandle, hapart, -⟩ := handle_idle s hget (by simpa using htriples)
        (by simpa using hbusiness)
      rw [hhandle, hhandle]
      exact hapart session session'

/-- A request reaches one route at most. -/
theorem asks_unique {route route' : Route} (h : r.asks s route = true) (hne : route' ≠ route) :
    ¬ r.asks s route' = true := by
  intro h'
  have hroute := ((asks_iff s).mp h).1.symm.trans ((asks_iff s).mp h').1
  exact hne (Option.some.inj hroute).symm

theorem total_counted (g : Gauge) (response : Response) :
    g.total (r.counted s response) =
      if r.asks s .triples then
        g.weight (if response.status = 200 then .quadsServed response.items else .quadsFailed)
      else if r.asks s .business then
        g.weight (if response.status = 200 then .recordsServed response.items else .recordsFailed)
      else 0 := by
  unfold Request.counted
  split_ifs <;>
    simp only [Gauge.total, List.map_cons, List.map_nil, List.sum_singleton, List.sum_nil]

/-- One request is counted, of the route that was asked. -/
theorem requests_counted {route : Route} (hroute : route ≠ .health) (response : Response) :
    (Gauge.requests route).total (r.counted s response) = if r.asks s route then 1 else 0 := by
  rw [total_counted]
  cases route with
  | health => exact absurd rfl hroute
  | triples => split_ifs <;> rfl
  | business =>
    by_cases h : r.asks s .business = true
    · rw [if_neg (asks_unique s h (by decide : Route.triples ≠ .business)), if_pos h, if_pos h]
      split_ifs <;> rfl
    · rw [if_neg h, if_neg h]
      split_ifs <;> rfl

/-- The items in the response are counted, for the route that was asked. -/
theorem items_counted {route : Route} (hroute : route ≠ .health) (response : Response) :
    (Gauge.items route).total (r.counted s response) =
      if r.asks s route then response.items else 0 := by
  rw [total_counted]
  cases route with
  | health => exact absurd rfl hroute
  | triples =>
    split_ifs with h hstatus
    · rfl
    · exact (items_of_status_ne hstatus).symm
    all_goals rfl
  | business =>
    by_cases h : r.asks s .business = true
    · rw [if_neg (asks_unique s h (by decide : Route.triples ≠ .business)), if_pos h, if_pos h]
      split_ifs with hstatus
      · rfl
      · exact (items_of_status_ne hstatus).symm
    · rw [if_neg h, if_neg h]
      split_ifs <;> rfl

/-- No items are in the response to a request that reaches a route but names no source. -/
theorem items_result (hget : r.method = "GET") {route : Route} (hroute : route ≠ .health)
    (session : String) :
    let response := (s.handle session r).result answers
    (if r.asks s route then response.items else 0) =
      if s.settings.route? r.path = some route then response.items else 0 := by
  intro response
  by_cases hreached : s.settings.route? r.path = some route
  · rw [if_pos hreached]
    split_ifs with hasks
    · rfl
    · have hother : ∀ route', r.asks s route' = false := by
        intro route'
        rw [Bool.eq_false_iff]
        intro h
        have hsame : route' = route :=
          Option.some.inj (((asks_iff s).mp h).1.symm.trans hreached)
        exact hasks (hsame ▸ h)
      obtain ⟨refusal, hhandle, -, hitems⟩ := handle_idle s hget (hother .triples)
        (hother .business)
      have hresponse : response = refusal session := by
        show (s.handle session r).result answers = _
        rw [hhandle]
        rfl
      rw [hresponse]
      exact (hitems session route hreached hroute).symm
  · rw [if_neg hreached, if_neg]
    exact fun h => hreached ((asks_iff s).mp h).1

theorem dereferences_counted (response : Response) :
    Gauge.dereferences.total (r.counted s response) = 0 := by
  unfold Request.counted
  split_ifs <;> rfl

end Request

/-! ## All requests together -/

/-- The response to a request when no other request is there. -/
def Request.alone (r : Request) (s : Server) (answers : String → Outcome) (session : String) :
    Response :=
  (Id.run ((s.handle session r).run (always answers) {})).1

/-- The items in all answers of a route. -/
def served (s : Server) (route : Route) (visits : List Visit) (responses : List Response) : Nat :=
  ((visits.zip responses).map fun p =>
    if s.settings.route? p.1.request.path = some route then p.2.items else 0).sum

/-- The statistics and the number of calls account for some requests and their responses, and
each response is what its request gets alone. -/
structure Accounts (s : Server) (answers : String → Outcome) (visits : List Visit)
    (responses : List Response) (statistics : Statistics) (calls : Nat) : Prop where
  quads : statistics.quads.answered + statistics.quads.failed =
    visits.countP fun v => v.request.asks s .triples
  quadItems : statistics.quads.items = served s .triples visits responses
  business : statistics.business.answered + statistics.business.failed =
    visits.countP fun v => v.request.asks s .business
  businessItems : statistics.business.items = served s .business visits responses
  dereferences : statistics.failedDereferences + (statistics.mediaTypes.map (·.2)).sum = calls
  responses : List.Forall₂ (fun v response => ∀ session,
    Response.ApartFromSession v.session session response (v.request.alone s answers session))
    visits responses

theorem alone_eq (s : Server) (answers : String → Outcome) (r : Request) (session : String) :
    r.alone s answers session = (s.handle session r).result answers := by
  show Id.run (Prod.fst <$> (s.handle session r).run (always answers) {}) = _
  rw [Task.fst_run]
  rfl

/-- Before anything is done, what is to come are the calls of the requests and what is counted
about their responses. -/
theorem toCome_start {s : Server} (answers : String → Outcome) (g : Gauge) {visits : List Visit}
    (hget : ∀ v ∈ visits, v.request.method = "GET") :
    (Pool.start s visits).toCome answers g =
      g.perCall * (Pool.start s visits).callsToCome answers +
        (visits.map fun v => g.total
          (v.request.counted s ((s.handle v.session v.request).result answers))).sum := by
  induction visits with
  | nil => rfl
  | cons v visits ih =>
    obtain ⟨hv, hvisits⟩ := List.forall_mem_cons.mp hget
    have hevents := events_handle s answers hv v.session
    have hrest := ih hvisits
    simp only [Pool.toCome, Pool.callsToCome, Pool.start, List.map_cons, List.sum_cons, hevents,
      g.total_append, g.total_calls, Nat.mul_add] at hrest ⊢
    omega

/-- When all requests are answered, the statistics hold the calls that were made and what is
counted about the responses. -/
theorem read_finished {s : Server} {answers : String → Outcome} {visits : List Visit}
    (hget : ∀ v ∈ visits, v.request.method = "GET") {responses : List Response}
    {statistics : Statistics} {calls : Nat}
    (h : Pool.Run answers (.start s visits) ⟨responses.map .done, statistics, calls⟩) :
    responses = visits.map (fun v => (s.handle v.session v.request).result answers) ∧
      ∀ g : Gauge, g.read statistics = g.perCall * calls +
        (visits.map fun v => g.total
          (v.request.counted s ((s.handle v.session v.request).result answers))).sum := by
  obtain ⟨-, hagree⟩ := h.agree Dict.ordered_nil
  obtain ⟨hcalls, htoCome, hresults⟩ := Pool.finished answers responses statistics calls
  constructor
  · have htasks := hagree.results
    rw [hresults, Pool.start, List.map_map] at htasks
    exact htasks.symm
  · intro g
    have hmade : (Pool.start s visits).callsToCome answers = calls := by
      have hsum := hagree.calls
      rw [hcalls, Nat.add_zero] at hsum
      exact (Nat.zero_add _).symm.trans hsum
    have hsum := hagree.gauges g
    rw [htoCome, Nat.add_zero, toCome_start answers g hget, hmade] at hsum
    have hfresh : g.read (Pool.start s visits).statistics = 0 := g.fresh
    rw [hfresh, Nat.zero_add] at hsum
    exact hsum.symm

theorem sum_countP {α : Type} (p : α → Bool) (xs : List α) :
    (xs.map fun x => if p x then 1 else 0).sum = xs.countP p := by
  induction xs with
  | nil => rfl
  | cons x xs ih =>
    rw [List.map_cons, List.sum_cons, ih, List.countP_cons, Nat.add_comm]

/-- However the steps of some requests are interleaved, once all are answered the statistics
account for them. -/
theorem statistics_account {s : Server} {answers : String → Outcome} {visits : List Visit}
    (hget : ∀ v ∈ visits, v.request.method = "GET") {responses : List Response}
    {statistics : Statistics} {calls : Nat}
    (h : Pool.Run answers (.start s visits) ⟨responses.map .done, statistics, calls⟩) :
    Accounts s answers visits responses statistics calls := by
  obtain ⟨rfl, hread⟩ := read_finished hget h
  have hrequests : ∀ route : Route, route ≠ .health →
      (statistics.tally route).answered + (statistics.tally route).failed =
        visits.countP fun v => v.request.asks s route := by
    intro route hroute
    have hgauge := hread (.requests route)
    rw [← sum_countP]
    simp only [requests_counted s hroute] at hgauge
    exact hgauge.trans (by rw [Gauge.requests, Nat.zero_mul, Nat.zero_add])
  have hitems : ∀ route : Route, route ≠ .health →
      (statistics.tally route).items = served s route visits
        (visits.map fun v => (s.handle v.session v.request).result answers) := by
    intro route hroute
    have hzip : visits.zip (visits.map fun v => (s.handle v.session v.request).result answers) =
        visits.map fun v => (v, (s.handle v.session v.request).result answers) := by
      simpa only [List.map_id, id_eq] using List.zip_map' (f := id) (l := visits)
    have hserved : ∀ v ∈ visits, (Gauge.items route).total
        (v.request.counted s ((s.handle v.session v.request).result answers)) =
          if s.settings.route? v.request.path = some route then
            ((s.handle v.session v.request).result answers).items
          else 0 := fun v hv =>
      (items_counted s hroute _).trans (items_result s answers (hget v hv) hroute v.session)
    rw [served, hzip, List.map_map]
    refine (hread (.items route)).trans ?_
    rw [Gauge.items, Nat.zero_mul, Nat.zero_add]
    exact congrArg List.sum (List.map_congr_left hserved)
  refine ⟨hrequests .triples (by decide), hitems .triples (by decide),
    hrequests .business (by decide), hitems .business (by decide), ?_, ?_⟩
  · have hgauge := hread .dereferences
    have hnothing : (visits.map fun _ => 0).sum = 0 := by simp
    simp only [dereferences_counted, hnothing] at hgauge
    exact hgauge.trans (by rw [Gauge.dereferences, Nat.one_mul, Nat.add_zero])
  · rw [List.forall₂_map_right_iff, List.forall₂_same]
    intro v hv session
    rw [alone_eq]
    exact apart_handle s answers (hget v hv) v.session session

/-- The statement that somebody is a shop. -/
def shop : Graph :=
  [⟨.iri "e:s", rdfType, .iri Record.businessType, none⟩]

/-- Two requests for the shop, one for a source that is not there, and one that names none. The
first and the third may both have called before either call is counted. -/
theorem statistics_account_shop :
    let answers : String → Outcome := fun url =>
      if url = "http://a.b/" then .ok ⟨url, .nquads, shop.map .ok⟩
      else .error (.dereference url "no such source")
    let s : Server := { started := "2026-01-01 00:00:00" }
    let visits : List Visit := [⟨"a", { target := "/triples?url=http://a.b/" }⟩,
      ⟨"b", { target := "/business?url=http://a.b/" }⟩, ⟨"c", { target := "/?url=http://c.d/" }⟩,
      ⟨"d", { target := "/business?url=%20" }⟩]
    (∀ v ∈ visits, v.request.method = "GET") ∧
      ∃ (called : Pool) (responses : List Response) (statistics : Statistics) (calls : Nat),
        Pool.Run answers (.start s visits) called ∧ called.calls = 2 ∧ called.statistics = {} ∧
        Pool.Run answers called ⟨responses.map .done, statistics, calls⟩ ∧
        statistics.quads.answered + statistics.quads.failed = 2 ∧
        statistics.quads.items = served s .triples visits responses ∧
        statistics.business.answered + statistics.business.failed = 1 ∧
        statistics.business.items = served s .business visits responses ∧
        statistics.failedDereferences + (statistics.mediaTypes.map (·.2)).sum = calls := by
  intro answers s visits
  have hget : ∀ v ∈ visits, v.request.method = "GET" := by decide
  have htriples : (visits.countP fun v => v.request.asks s .triples) = 2 := by decide +kernel
  have hbusiness : (visits.countP fun v => v.request.asks s .business) = 1 := by decide +kernel
  have hcalls : ∀ (session target : String), Request.asks { target } s .triples = true →
      ∃ url next, s.handle session { target } = .call url next := by
    intro session target h
    obtain ⟨hroute, url, hurl⟩ := (asks_iff s).mp h
    exact ⟨url, _, handle_triples rfl hroute hurl session⟩
  obtain ⟨url₁, next₁, h₁⟩ := hcalls "a" "/triples?url=http://a.b/" (by decide +kernel)
  obtain ⟨url₃, next₃, h₃⟩ := hcalls "c" "/?url=http://c.d/" (by decide +kernel)
  let second := s.handle "b" { target := "/business?url=http://a.b/" }
  let fourth := s.handle "d" { target := "/business?url=%20" }
  have hstart : Pool.start s visits =
      ⟨[] ++ .call url₁ next₁ :: [second, .call url₃ next₃, fourth], {}, 0⟩ := by
    rw [← h₁, ← h₃]
    rfl
  have hcalled : Pool.Run answers (.start s visits)
      ⟨[next₁ (answers url₁), second] ++ next₃ (answers url₃) :: [fourth], {}, 2⟩ := by
    rw [hstart]
    exact .head .call (.single
      (@Pool.Step.call _ [next₁ (answers url₁), second] [fourth] url₃ next₃ {} 1))
  obtain ⟨statistics, calls, hrun⟩ := Pool.exists_run answers
    ⟨[next₁ (answers url₁), second] ++ next₃ (answers url₃) :: [fourth], {}, 2⟩
  have haccount := statistics_account hget (hcalled.trans hrun)
  exact ⟨hget, _, _, statistics, calls, hcalled, rfl, rfl, hrun, haccount.quads.trans htriples,
    haccount.quadItems, haccount.business.trans hbusiness, haccount.businessItems,
    haccount.dereferences⟩

end LinkedData.Service
