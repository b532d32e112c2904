import LinkedData.Rdf.RdfJs
import LinkedData.Record.Projection
import LinkedData.Record.Written
import LinkedData.Service.Exchange
import LinkedData.Service.Fault
import LinkedData.Service.Settings
import LinkedData.Service.Task
import LinkedData.Source.Engine
import LinkedData.Text.Blank

/-!
# LinkedData.Service.Handler -- requests for quads and for businesses

Both kinds of requests name a source in the parameter `url`. A request that names none is
refused before anything is called or counted. An answer is complete: a failure anywhere, also
after the first quads have arrived, gives a fault instead.
-/

namespace LinkedData.Service

open LinkedData.Text

/-- A server: the settings of a service and what they stand for. -/
structure Server where
  settings : Settings := {}
  vocabulary : Vocabulary := .schemaOrg
  /-- When the server started. -/
  started : String
deriving Repr

/-- The response to a fault. -/
def Fault.response (f : Fault) : Response :=
  .json f.cause.status f.body

/-- The source that a request names. A request must not name two, and white space is no
name. -/
def sourceOf (session : String) (r : Request) : Except Response String :=
  match r.values "url" with
  | _ :: _ :: _ =>
    .error (.ofType "text/plain; charset=utf-8" 400
      "Failed to deserialize query string: duplicate field \x60url\x60".toList)
  | [url] =>
    if (trim url.toList).isEmpty then
      .error (Fault.response { session, cause := .missingParameter "url" })
    else .ok url
  | [] => .error (Fault.response { session, cause := .missingParameter "url" })

/-- The response to a failure to answer a request for `url`. -/
def failureResponse (session url : String) (f : Failure) : Response :=
  Fault.response { session, cause := .ofFailure url f }

/-- Answers with all quads of a source. -/
def serveTriples (session url : String) : Task Response := do
  match ← (Source.fetchGraph Task.dereferencer url).run with
  | .ok g =>
    Task.record (.quadsServed g.length)
    return .json 200 (Rdf.Graph.rdfJs g)
  | .error f =>
    Task.record .quadsFailed
    return failureResponse session url f

/-- The records of all businesses of a source. -/
def businesses (s : Server) (url : String) : Task (Except Failure (List Record)) := do
  let engine := Source.engine Task.dereferencer url s.settings.cacheSource
  let (records, _) ← (Record.projectEntities engine s.vocabulary s.settings.businessType
    Record.businessShape).run.run none
  return records

/-- Answers with the records of all businesses of a source. -/
def serveBusiness (s : Server) (session url : String) : Task Response := do
  match ← businesses s url with
  | .ok records =>
    Task.record (.recordsServed records.length)
    return .json 200 (Record.listChars records)
  | .error f =>
    Task.record .recordsFailed
    return failureResponse session url f

/-- Answers a request about its source, unless it is refused. -/
def withSource (session : String) (r : Request) (serve : String → Task Response) :
    Task Response :=
  match sourceOf session r with
  | .ok url => serve url
  | .error refusal => .done refusal

end LinkedData.Service
