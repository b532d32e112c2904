import LinkedData.Failure
import LinkedData.Json.Written

/-!
# LinkedData.Service.Fault -- requests that fail

A fault belongs to a session and has a cause. What a client is told is less than what is
known: the client learns the kind of the cause, and in words only what the client can mend.
-/

namespace LinkedData.Service

/-- Why a request, or the service itself, failed. -/
inductive Cause where
  | internal (detail : String)
  | missingParameter (name : String)
  | dereference (url reason : String)
  | query (url reason : String)
  | configuration (detail : String)
deriving DecidableEq, Repr

namespace Cause

/-- The cause behind a failure to answer a request for `url`. -/
def ofFailure (url : String) : Failure → Cause
  | .dereference source reason => .dereference source reason
  | .query reason => .query url reason
  | .missingParameter name => .missingParameter name
  | f => .internal ("url(" ++ url ++ "): " ++ f.message)

/-- All that is known about a cause, in words. -/
def message : Cause → String
  | .internal detail => detail
  | .missingParameter name => "Missing parameter: " ++ name
  | .dereference url reason => "Couldn't dereference url(" ++ url ++ "). Reason: " ++ reason
  | .query url reason => "Query over url(" ++ url ++ ") failed: " ++ reason
  | .configuration detail => "Configuration Error: " ++ detail

/-- The status of the response. -/
def status : Cause → Nat
  | .missingParameter _ => 400
  | .configuration _ => 503
  | _ => 500

/-- The number of a cause's kind. -/
def code : Cause → Nat
  | .internal _ => 2
  | .missingParameter _ => 3
  | .dereference _ _ => 4
  | .query _ _ => 5
  | .configuration _ => 9

/-- The name of a cause's kind. -/
def codeName : Cause → String
  | .internal _ => "InternalError"
  | .missingParameter _ => "BadRequest: MissingParameter"
  | .dereference _ _ => "DereferenceError"
  | .query _ _ => "QueryError"
  | .configuration _ => "ConfigError"

/-- What a client is told when the cause is none of its business. -/
def genericMessage : String :=
  "Something went wrong while getting the URL dereferenced."

/-- What a client is told. -/
def told : Cause → String
  | .missingParameter name => "Missing query parameter: " ++ name
  | .configuration detail => detail
  | _ => genericMessage

end Cause

/-- A failure in a session. -/
structure Fault where
  session : String
  cause : Cause
deriving DecidableEq, Repr

namespace Fault

open LinkedData.Json

/-- The body of the response to a fault. -/
def body (f : Fault) : List Char :=
  objectChars [
    memberChars "sessionId" (stringChars f.session),
    memberChars "httpCode" (toString f.cause.status).toList,
    memberChars "errorCode" (toString f.cause.code).toList,
    memberChars "errorCodeStr" (stringChars f.cause.codeName),
    memberChars "message" (stringChars f.cause.told)]

/-- The response to a fault in one line. -/
def line (f : Fault) : String :=
  f.session ++ ": httpcode(" ++ toString f.cause.status ++ ") errorCode(" ++
    toString f.cause.code ++ "), errorCodeStr(" ++ f.cause.codeName ++ ") message(" ++
    f.cause.told ++ ")"

end Fault

end LinkedData.Service
