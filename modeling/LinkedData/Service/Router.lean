import LinkedData.Service.Handler

/-!
# LinkedData.Service.Router -- which request is answered how

A path either has a route or not, and a route answers the methods GET and HEAD. The answer to
HEAD is the answer to GET without its body. Pages of any origin may use all routes but the
health check, so their responses say so, and every OPTIONS request is answered with what they
may send, whatever its path; a route adds which methods it answers.
-/

namespace LinkedData.Service

open LinkedData.Json

/-- What a path leads to. -/
inductive Route where
  | triples
  | business
  | health
deriving DecidableEq, Repr

/-- The route of a path, if it has one in a service with these settings. -/
def Settings.route? (s : Settings) (path : String) : Option Route :=
  if path = "/healthchecker" then some .health
  else if s.triples ∧ (path = "/" ∨ path = "/triples") then some .triples
  else if s.business ∧ path = "/business" then some .business
  else none

/-- Whether pages of other origins may use what a path leads to. -/
def isShared (route : Option Route) : Bool :=
  route != some .health

/-- Lets pages of any origin use a response. -/
def Response.shared (r : Response) : Response :=
  { r with headers := r.headers ++ [
      ("access-control-allow-origin", "*"),
      ("vary", "origin, access-control-request-method, access-control-request-headers")] }

/-- Says which methods a route answers. -/
def Response.withMethods (r : Response) : Response :=
  { r with headers := r.headers ++ [("allow", "GET,HEAD")] }

/-- What pages of other origins may send to a path. -/
def preflight (route : Option Route) : Response :=
  let response := Response.shared { status := 200, headers := [
    ("access-control-allow-methods", "GET"),
    ("access-control-allow-headers", "content-type")] }
  if route.isSome then response.withMethods else response

/-- The response where there is no route. -/
def notFound : Response :=
  { status := 404 }

/-- The response to a method that a route does not answer. -/
def methodNotAllowed : Response :=
  Response.withMethods { status := 405 }

/-- The response of the health check. -/
def Server.health (s : Server) : Response :=
  .json 200 (objectChars [
    memberChars "message"
      (stringChars ("QuadLens, Version: 0.1.0, Started: UTC " ++ s.started)),
    memberChars "status" (stringChars "success")])

/-- Follows a route. -/
def Server.follow (s : Server) (session : String) (r : Request) : Route → Task Response
  | .triples => withSource session r (serveTriples session)
  | .business => withSource session r (serveBusiness s session)
  | .health => .done s.health

/-- Answers a request whose route is known. -/
def Server.respond (s : Server) (session : String) (r : Request) (route : Option Route) :
    Task Response :=
  match route with
  | none => .done notFound
  | some route =>
    if r.method = "GET" then s.follow session r route
    else if r.method = "HEAD" then do
      let response ← s.follow session r route
      return { response with body := [] }
    else .done methodNotAllowed

/-- Answers a request. -/
def Server.handle (s : Server) (session : String) (r : Request) : Task Response :=
  let route := s.settings.route? r.path
  if !isShared route then s.respond session r route
  else if r.method = "OPTIONS" then .done (preflight route)
  else do
    let response ← s.respond session r route
    return response.shared

end LinkedData.Service
