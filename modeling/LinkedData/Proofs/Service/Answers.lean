import LinkedData.Proofs.Service.Performing

/-!
# LinkedData.Proofs.Service.Answers -- a complete answer, or an error that tells nothing

A request for quads or businesses ends in one of three ways: it is refused before anything is
done, it is answered with everything that its source holds, or its source fails and nothing of
it is passed on. An error is a JSON object that repeats the status. Of a failure it tells the
kind and nothing else, so two failures of one kind in one session look the same.
-/

namespace LinkedData.Service

open LinkedData.Json LinkedData.Rdf LinkedData.Source LinkedData.Text

/-! ## Errors -/

/-- The object in the body of the response to a fault. -/
def Fault.json (f : Fault) : Json :=
  .ofPairs [("sessionId", .string f.session), ("httpCode", .number (.integer f.cause.status)),
    ("errorCode", .number (.integer f.cause.code)), ("errorCodeStr", .string f.cause.codeName),
    ("message", .string f.cause.told)]

theorem Fault.parse?_body (f : Fault) : Json.parse? (String.ofList f.body) = some f.json := by
  have hstatus : f.cause.status ≤ maxWord := by
    cases f.cause <;> simp [Cause.status, maxWord]
  have hcode : f.cause.code ≤ maxWord := by
    cases f.cause <;> simp [Cause.code, maxWord]
  have hreads : Reads 1 f.json f.body :=
    reads_object
      (.cons (readsMember (reads_string f.session))
        (.cons (readsMember (reads_nat hstatus))
          (.cons (readsMember (reads_nat hcode))
            (.cons (readsMember (reads_string f.cause.codeName))
              (.cons (readsMember (reads_string f.cause.told)) .nil)))))
  exact hreads.parse?_eq (by decide)

/-- A member of the JSON object in the body of a response. -/
def Response.member? (r : Response) (key : String) : Option Json :=
  r.value?.bind (·.member? key)

/-- A response is a JSON error of a status: an object that names the session, repeats the status,
and says in a number, a name and a message what kind of error it is. -/
structure Response.IsError (r : Response) (session : String) (status : Nat) : Prop where
  status_eq : r.status = status
  isJson : ("content-type", "application/json") ∈ r.headers
  sessionId : r.member? "sessionId" = some (.string session)
  httpCode : r.member? "httpCode" = some (.number (.integer status))
  errorCode : ∃ code : Nat, r.member? "errorCode" = some (.number (.integer code))
  errorName : ∃ name, r.member? "errorCodeStr" = some (.string name)
  message : ∃ message, r.member? "message" = some (.string message)

theorem Fault.value?_answer (f : Fault) : f.answer.value? = some f.json :=
  f.parse?_body

theorem Fault.member?_answer (f : Fault) (key : String) :
    f.answer.member? key = f.json.member? key := by
  rw [Response.member?, value?_answer, Option.bind_some]

/-- The members of the object, one by one. -/
theorem Fault.members_json (f : Fault) :
    f.json.member? "sessionId" = some (.string f.session) ∧
      f.json.member? "httpCode" = some (.number (.integer f.cause.status)) ∧
      f.json.member? "errorCode" = some (.number (.integer f.cause.code)) ∧
      f.json.member? "errorCodeStr" = some (.string f.cause.codeName) ∧
      f.json.member? "message" = some (.string f.cause.told) := by
  simp [json, Json.ofPairs, Json.member?, Dict.ofPairs, Dict.find?_insert]

theorem Fault.isError_answer (f : Fault) : f.answer.IsError f.session f.cause.status := by
  obtain ⟨hsession, hstatus, hcode, hname, hmessage⟩ := f.members_json
  simp only [← f.member?_answer] at hsession hstatus hcode hname hmessage
  exact ⟨rfl, List.mem_cons_self, hsession, hstatus, ⟨_, hcode⟩, ⟨_, hname⟩, ⟨_, hmessage⟩⟩

theorem Cause.codeName_eq {c c' : Cause} (h : c.code = c'.code) : c.codeName = c'.codeName := by
  cases c <;> cases c' <;> first | rfl | cases h

/-- What fails within the service is told in the same words, whatever the cause. -/
theorem Cause.told_eq {c : Cause} (h : c.status = 500) : c.told = genericMessage := by
  cases c <;> first | rfl | cases h

/-- Two failures of one kind look the same in one session. -/
theorem Fault.body_eq {f f' : Fault} (hf : f.cause.status = 500) (hf' : f'.cause.status = 500)
    (hsession : f.session = f'.session) (hcode : f.cause.code = f'.cause.code) :
    f.body = f'.body := by
  rw [body, body, hsession, hf, hf', hcode, Cause.codeName_eq hcode, Cause.told_eq hf,
    Cause.told_eq hf']

/-! ## Requests -/

/-- What there is after a request. -/
structure Handled (σ : Type) where
  response : Response
  statistics : Statistics
  /-- The number of calls made. -/
  calls : Nat
  outside : σ

/-- A request for quads or businesses that names at most one source, to a service whose sources
fail in no other way than that they cannot be dereferenced. -/
structure Exchange (σ : Type) where
  server : Server
  source : Dereferencer (StateM σ)
  failing : ∀ url outside failure,
    Outcome.Fails ((source.dereference url).run.run outside).1 failure →
      ∃ url' message, failure = .dereference url' message
  session : String
  request : Request
  get : request.method = "GET"
  route : Route
  reached : server.settings.route? request.path = some route
  data : route = .triples ∨ route = .business
  named : (request.values "url").length ≤ 1
  /-- The statistics before the request. -/
  statistics : Statistics
  /-- The outside before the request. -/
  outside : σ

namespace Exchange

variable {σ : Type} (x : Exchange σ)

/-- Handles the request. -/
def handled : Handled σ :=
  let r := (((x.server.handle x.session x.request).run x.source.counted x.statistics).run 0).run
    x.outside
  ⟨r.1.1.1, r.1.1.2, r.1.2, r.2⟩

/-- What fetching the graph of a URL comes to. -/
def fetched (url : String) : Except Failure Graph :=
  ((fetchGraph x.source url).run.run x.outside).1

/-- What projecting the businesses of a URL comes to. -/
def projected (url : String) : Except Failure (List Record) :=
  (((Record.projectEntities (engine x.source url x.server.settings.cacheSource)
    x.server.vocabulary x.server.settings.businessType Record.businessShape).run.run none).run
      x.outside).1.1

/-- The work of a route is complete: the text of its items, and the items themselves. -/
inductive Completes (url : String) : List Char → List Json → Prop
  | quads {g : Graph} : x.route = .triples → x.fetched url = .ok g →
      Completes url g.rdfJs (g.map Quad.json)
  | records {records : List Record} : x.route = .business → x.projected url = .ok records →
      Completes url (Record.listChars records) (records.map Record.json)

/-- The work of a route fails. -/
inductive Fails (url : String) : Failure → Prop
  | fetching {failure : Failure} : x.route = .triples → x.fetched url = .error failure →
      Fails url failure
  | projecting {failure : Failure} : x.route = .business → x.projected url = .error failure →
      Fails url failure

end Exchange

/-- How a request can end. -/
inductive Ending where
  | refused
  | complete
  | failed
deriving DecidableEq

/-- A request ends in a way: refused when it names no source, before anything is called or
counted; complete, with all items in order; or failed, with an error in place of all items. -/
def Exchange.EndsIn {σ : Type} (x : Exchange σ) : Ending → Prop
  | .refused =>
    (∀ url ∈ x.request.values "url", trim url.toList = []) ∧
      x.handled.response.IsError x.session 400 ∧
      x.handled.calls = 0 ∧ x.handled.statistics = x.statistics
  | .complete => ∃ url body items,
    x.request.values "url" = [url] ∧ trim url.toList ≠ [] ∧ x.Completes url body items ∧
      x.handled.response.status = 200 ∧ x.handled.response.body = body ∧
      x.handled.response.value? = some (.array items)
  | .failed => ∃ url failure,
    x.request.values "url" = [url] ∧ trim url.toList ≠ [] ∧ x.Fails url failure ∧
      x.handled.response.IsError x.session 500

theorem source?_eq_some {r : Request} {url : String} (h : r.source? = some url) :
    r.values "url" = [url] ∧ trim url.toList ≠ [] := by
  unfold Request.source? at h
  split at h
  · rename_i named hvalues
    split at h
    · cases h
    · rename_i hblank
      cases h
      exact ⟨hvalues, fun hnil => hblank (by rw [hnil]; rfl)⟩
  · cases h

theorem source?_eq_none {r : Request} (h : r.source? = none) (hone : (r.values "url").length ≤ 1) :
    ∀ url ∈ r.values "url", trim url.toList = [] := by
  intro url hurl
  obtain ⟨named, hvalues⟩ := List.length_eq_one_iff.mp
    (Nat.le_antisymm hone (List.length_pos_of_mem hurl))
  rw [hvalues, List.mem_singleton] at hurl
  subst hurl
  rw [Request.source?, hvalues] at h
  by_contra hblank
  simp [hblank] at h

namespace Exchange

variable {σ : Type} (x : Exchange σ)

/-- Counting the calls changes nothing else. -/
theorem run_counted {α : Type} (d : Dereferencer (StateM σ)) (t : Task α) (s : Statistics)
    (calls : Nat) (outside : σ) :
    (((t.run d.counted s).run calls).run outside).1.1 = ((t.run d s).run outside).1 := by
  induction t generalizing s calls outside with
  | done result => rfl
  | call url next ih =>
    exact ih ((d.dereference url).run.run outside).1 s (calls + 1)
      ((d.dereference url).run.run outside).2
  | count event next ih => exact ih (s.record event) calls outside

theorem response_eq :
    x.handled.response =
      (((x.server.handle x.session x.request).perform x.source).run x.outside).1 := by
  rw [← Task.fst_run x.source _ x.statistics]
  exact congrArg Prod.fst (run_counted x.source _ x.statistics 0 x.outside)

/-- A request that names no source is refused at once. -/
theorem handled_refused (h : x.request.source? = none) :
    x.handled = ⟨Fault.answer { session := x.session, cause := .missingParameter "url" },
      x.statistics, 0, x.outside⟩ := by
  have hrefused : x.server.handle x.session x.request =
      .done (Fault.answer { session := x.session, cause := .missingParameter "url" }) := by
    rcases withSource_none h with hfault | ⟨htwo, -⟩
    · rw [handle_get x.get, x.reached]
      rcases x.data with hroute | hroute
      · rw [hroute]
        simp only [hfault]
        rfl
      · rw [hroute]
        simp only [hfault]
        rfl
    · exact absurd htwo (by have := x.named; omega)
  rw [handled, hrefused]
  rfl

/-- A failure to dereference a source, or a property that the vocabulary does not define. -/
def IsOwn (failure : Failure) : Prop :=
  (∃ url message, failure = .dereference url message) ∨ ∃ name, failure = .unknownProperty name

/-- Work that is concluded is answered with all its items, or with the fault that it failed
with. -/
theorem concluded {α : Type} {url : String} {served : Nat → Event} {failed : Event}
    {write : List α → List Char} {work : Task (Except Failure (List α))} {P : List α → Prop}
    (hhandle : x.server.handle x.session x.request =
      Response.shared <$> conclude x.session url served failed write work)
    (hwork : work.Metered IsOwn (Task.Within IsOwn P)) :
    let outcome := ((work.perform x.source).run x.outside).1
    (∃ items, outcome = .ok items ∧ P items ∧
      x.handled.response = (Response.json 200 (write items)).shared) ∨
    ∃ failure, outcome = .error failure ∧ IsOwn failure ∧
      x.handled.response =
        Fault.answer { session := x.session, cause := .ofFailure url failure } := by
  intro outcome
  have hresponse : x.handled.response = (reply x.session url write outcome).shared := by
    rw [response_eq, hhandle, Task.perform_map, perform_conclude]
    rfl
  have houtcome : Task.Within IsOwn P outcome :=
    hwork.of_perform (fun url outside failure hfails => .inl (x.failing url outside failure hfails))
      x.outside
  cases h : outcome with
  | ok items =>
    rw [h] at hresponse houtcome
    exact .inl ⟨items, rfl, houtcome, hresponse⟩
  | error failure =>
    rw [h] at hresponse houtcome
    exact .inr ⟨failure, rfl, houtcome, hresponse⟩

theorem fetched_eq (url : String) :
    x.fetched url =
      (((fetchGraph Task.dereferencer url).run.perform x.source).run x.outside).1 := by
  rw [Task.perform_fetchGraph]
  rfl

theorem projected_eq (url : String) :
    x.projected url = (((businesses x.server url).perform x.source).run x.outside).1 := by
  rw [Task.perform_businesses]
  rfl

/-- A request that names a source is answered with all items of it, or fails. -/
theorem handled_named {url : String} (h : x.request.source? = some url) :
    (∃ body items, x.Completes url body items ∧
      x.handled.response = (Response.json 200 body).shared ∧
      Json.parse? (String.ofList body) = some (.array items)) ∨
    ∃ failure, x.Fails url failure ∧ IsOwn failure ∧
      x.handled.response =
        Fault.answer { session := x.session, cause := .ofFailure url failure } := by
  rcases x.data with hroute | hroute
  · have hreached := x.reached.trans (congrArg some hroute)
    have hwork := Task.metered_fetchGraph (F := IsOwn) url
    rcases x.concluded (handle_triples x.get hreached h x.session) hwork with
      ⟨g, hg, -, hresponse⟩ | ⟨failure, hfailure, hown, hresponse⟩
    · exact .inl ⟨Graph.rdfJs g, g.map Quad.json, .quads hroute ((x.fetched_eq url).trans hg),
        hresponse, parse?_rdfJs g⟩
    · exact .inr ⟨failure, .fetching hroute ((x.fetched_eq url).trans hfailure), hown, hresponse⟩
  · have hreached := x.reached.trans (congrArg some hroute)
    have hwork := Task.metered_businesses (F := IsOwn) (fun name => .inr ⟨name, rfl⟩) x.server url
    rcases x.concluded (handle_business x.get hreached h x.session) hwork with
      ⟨records, hrecords, hdepth, hresponse⟩ | ⟨failure, hfailure, hown, hresponse⟩
    · exact .inl ⟨Record.listChars records, records.map Record.json,
        .records hroute ((x.projected_eq url).trans hrecords), hresponse,
        Record.parse?_listChars hdepth⟩
    · exact .inr ⟨failure, .projecting hroute ((x.projected_eq url).trans hfailure), hown,
        hresponse⟩

theorem status_ofFailure (url : String) {failure : Failure} (h : IsOwn failure) :
    (Cause.ofFailure url failure).status = 500 := by
  rcases h with ⟨_, _, rfl⟩ | ⟨_, rfl⟩ <;> rfl

/-- The response to a request is a complete answer, or tells a fault. -/
theorem answered_or_fault :
    (x.EndsIn .complete ∧ ∃ items, x.handled.response.value? = some (.array items)) ∨
    ∃ f : Fault, f.session = x.session ∧ x.handled.response = f.answer ∧
      (f.cause.status = 400 ∧ x.EndsIn .refused ∨ f.cause.status = 500 ∧ x.EndsIn .failed) := by
  cases hsource : x.request.source? with
  | none =>
    have hhandled := x.handled_refused hsource
    refine .inr ⟨_, rfl, congrArg Handled.response hhandled, .inl ⟨rfl, ?_⟩⟩
    refine ⟨source?_eq_none hsource x.named, ?_, congrArg Handled.calls hhandled,
      congrArg Handled.statistics hhandled⟩
    rw [hhandled]
    exact Fault.isError_answer _
  | some url =>
    obtain ⟨hvalues, hblank⟩ := source?_eq_some hsource
    rcases x.handled_named hsource with
      ⟨body, items, hcompletes, hresponse, hparse⟩ | ⟨failure, hfails, hown, hresponse⟩
    · have hvalue : x.handled.response.value? = some (.array items) := by
        rw [hresponse]
        exact hparse
      refine .inl ⟨⟨url, body, items, hvalues, hblank, hcompletes, ?_, ?_, hvalue⟩, items, hvalue⟩
      · rw [hresponse]
        rfl
      · rw [hresponse]
        rfl
    · have hstatus := status_ofFailure url hown
      refine .inr ⟨_, rfl, hresponse, .inr ⟨hstatus, url, failure, hvalues, hblank, hfails, ?_⟩⟩
      have herror := Fault.isError_answer { session := x.session, cause := .ofFailure url failure }
      rw [hresponse, ← hstatus]
      exact herror

/-- The ending of a request shows in the status of its response. -/
theorem EndsIn.status {ending : Ending} (h : x.EndsIn ending) :
    x.handled.response.status =
      match ending with
      | .refused => 400
      | .complete => 200
      | .failed => 500 := by
  cases ending with
  | refused => exact h.2.1.status_eq
  | complete =>
    obtain ⟨_, _, _, -, -, -, hstatus, -⟩ := h
    exact hstatus
  | failed =>
    obtain ⟨_, _, -, -, -, herror⟩ := h
    exact herror.status_eq

theorem ends_once : ∃! ending, x.EndsIn ending := by
  have hexists : ∃ ending, x.EndsIn ending := by
    rcases x.answered_or_fault with ⟨h, -⟩ | ⟨_, -, -, ⟨-, h⟩ | ⟨-, h⟩⟩
    · exact ⟨_, h⟩
    · exact ⟨_, h⟩
    · exact ⟨_, h⟩
  obtain ⟨ending, hending⟩ := hexists
  refine ⟨ending, hending, fun other hother => ?_⟩
  -- The three statuses differ.
  have hstatus := (EndsIn.status x hother).symm.trans (EndsIn.status x hending)
  cases other <;> cases ending <;> first | rfl | cases hstatus

/-- The status that the body of a response names is the status of the response. -/
theorem httpCode_eq {code : Json} (h : x.handled.response.member? "httpCode" = some code) :
    code = .number (.integer x.handled.response.status) := by
  rcases x.answered_or_fault with ⟨-, items, hvalue⟩ | ⟨f, -, hresponse, -⟩
  · rw [Response.member?, hvalue] at h
    cases h
  · rw [hresponse] at h ⊢
    exact Option.some.inj (h.symm.trans f.isError_answer.httpCode)

/-- Only a complete answer is an array. -/
theorem complete_of_array {items : List Json}
    (h : x.handled.response.value? = some (.array items)) : x.EndsIn .complete := by
  rcases x.answered_or_fault with ⟨hcomplete, -⟩ | ⟨f, -, hresponse, -⟩
  · exact hcomplete
  · -- A fault is told in an object.
    rw [hresponse, f.value?_answer] at h
    cases h

theorem fault_of_status (h : x.handled.response.status = 500) :
    ∃ f : Fault, x.handled.response = f.answer ∧ f.cause.status = 500 := by
  rcases x.answered_or_fault with ⟨hcomplete, -⟩ | ⟨f, -, hresponse, -⟩
  · have hstatus := (EndsIn.status x hcomplete).symm.trans h
    cases hstatus
  · rw [hresponse] at h
    exact ⟨f, hresponse, h⟩

/-- Failures of one kind in one session look the same, whatever was asked for and whatever
happened: the second request may go to another service, for another source, from other sources. -/
theorem body_eq_of_failed {τ : Type} (y : Exchange τ) (hx : x.handled.response.status = 500)
    (hy : y.handled.response.status = 500)
    (hsession : x.handled.response.member? "sessionId" = y.handled.response.member? "sessionId")
    (hcode : x.handled.response.member? "errorCode" = y.handled.response.member? "errorCode") :
    x.handled.response.body = y.handled.response.body := by
  obtain ⟨f, hf, hstatus⟩ := x.fault_of_status hx
  obtain ⟨f', hf', hstatus'⟩ := y.fault_of_status hy
  obtain ⟨hsession₁, -, hcode₁, -⟩ := f.members_json
  obtain ⟨hsession₂, -, hcode₂, -⟩ := f'.members_json
  rw [hf, hf', f.member?_answer, f'.member?_answer] at hsession hcode
  rw [hsession₁, hsession₂] at hsession
  rw [hcode₁, hcode₂] at hcode
  rw [hf, hf']
  refine Fault.body_eq hstatus hstatus' ?_ ?_
  · simpa using hsession
  · exact Int.ofNat.inj (by simpa using hcode)

/-- Every request ends in exactly one way; the status in a body is that of its response; an array
is complete; and two failures of one kind in one session have the same body. -/
theorem one_ending (x : Exchange σ) :
    (∃! ending, x.EndsIn ending) ∧
    (∀ code, x.handled.response.member? "httpCode" = some code →
      code = .number (.integer x.handled.response.status)) ∧
    (∀ items, x.handled.response.value? = some (.array items) → x.EndsIn .complete) ∧
    ∀ {τ : Type} (y : Exchange τ),
      x.handled.response.status = 500 → y.handled.response.status = 500 →
      x.handled.response.member? "sessionId" = y.handled.response.member? "sessionId" →
      x.handled.response.member? "errorCode" = y.handled.response.member? "errorCode" →
      x.handled.response.body = y.handled.response.body :=
  ⟨x.ends_once, fun _ => x.httpCode_eq, fun _ => x.complete_of_array, x.body_eq_of_failed⟩

end Exchange

/-! ## Sources that fail -/

/-- A source that was opened fails with one of the faults that it hands out. -/
theorem mem_of_fails {opened : Opened} {failure : Failure}
    (h : Outcome.Fails (.ok opened) failure) : .error failure ∈ opened.quads := by
  cases h with
  | broken hquads =>
    rw [hquads]
    exact List.mem_append_right _ List.mem_cons_self

theorem fails_ofDocument {url : String} {format : Document.Format} {body : String}
    {failure : Failure} (h : Outcome.Fails (ofDocument url format body) failure) :
    ∃ message, failure = .dereference url message := by
  unfold ofDocument at h
  cases hread : format.read body (some url) with
  | error e =>
    simp only [hread] at h
    cases h
    exact ⟨_, rfl⟩
  | ok reading =>
    simp only [hread] at h
    obtain ⟨item, -, hitem⟩ := List.mem_map.mp (mem_of_fails h)
    cases item with
    | ok q => cases hitem
    | error e =>
      cases hitem
      exact ⟨_, rfl⟩

/-- Sources that are known beforehand fail in no other way than that they cannot be
dereferenced, also when a document cannot be read or quads break off. -/
theorem fails_fixed (url : String) (w : World) (failure : Failure)
    (h : Outcome.Fails ((Dereferencer.fixed.dereference url).run.run w).1 failure) :
    ∃ url' message, failure = .dereference url' message := by
  have hworld : Outcome.Fails (w.opened url) failure := h
  unfold World.opened at hworld
  cases hfind : w.current.find? url with
  | none =>
    simp only [hfind] at hworld
    cases hworld
    exact ⟨_, _, rfl⟩
  | some source =>
    simp only [hfind] at hworld
    cases source with
    | failure message =>
      cases hworld
      exact ⟨_, _, rfl⟩
    | document format body => exact ⟨_, fails_ofDocument hworld⟩
    | quads graph thenFail =>
      rcases List.mem_append.mp (mem_of_fails hworld) with hmem | hmem
      · obtain ⟨q, -, hq⟩ := List.mem_map.mp hmem
        cases hq
      · obtain ⟨message, -, hmessage⟩ := Option.map_eq_some_iff.mp (Option.mem_toList.mp hmem)
        cases hmessage
        exact ⟨_, _, rfl⟩

/-- A request for the quads of a source that cannot be reached. -/
def unreachable : Exchange World where
  server := { started := "2026-01-01 00:00:00" }
  source := .fixed
  failing := fails_fixed
  session := "s"
  request := { target := "/triples?url=http://a.b/" }
  get := rfl
  route := .triples
  reached := by decide
  data := .inl rfl
  named := by decide +kernel
  statistics := {}
  outside := { phases := [[("http://a.b/", .failure "refused")]] }

/-- A request for the businesses of a source that breaks off after a quad. -/
def brokenOff : Exchange World where
  server := { started := "2026-01-01 00:00:00" }
  source := .fixed
  failing := fails_fixed
  session := "s"
  request := { target := "/business?url=http://c.d/" }
  get := rfl
  route := .business
  reached := by decide
  data := .inr rfl
  named := by decide +kernel
  statistics := {}
  outside := { phases := [[("http://c.d/",
    .quads [⟨.iri "e:s", rdfType, .iri Record.businessType, none⟩] (some "timed out"))]] }

/-- The two requests end alike, and nothing tells them apart. -/
theorem one_ending_unreachable :
    unreachable.handled.response.status = 500 ∧ brokenOff.handled.response.status = 500 ∧
      unreachable.handled.response.body = brokenOff.handled.response.body := by
  have hx : unreachable.handled.response =
      Fault.answer { session := "s", cause := .dereference "http://a.b/" "refused" } := by
    decide +kernel
  have hy : brokenOff.handled.response =
      Fault.answer { session := "s", cause := .dereference "http://c.d/" "timed out" } := by
    decide +kernel
  have hxstatus : unreachable.handled.response.status = 500 := congrArg Response.status hx
  have hystatus : brokenOff.handled.response.status = 500 := congrArg Response.status hy
  refine ⟨hxstatus, hystatus, unreachable.one_ending.2.2.2 brokenOff hxstatus hystatus ?_ ?_⟩
  · rw [hx, hy, Fault.member?_answer, Fault.member?_answer]
    exact (Fault.members_json _).1.trans (Fault.members_json _).1.symm
  · rw [hx, hy, Fault.member?_answer, Fault.member?_answer]
    exact (Fault.members_json _).2.2.1.trans (Fault.members_json _).2.2.1.symm

end LinkedData.Service
