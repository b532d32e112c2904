import LinkedData.Text.Percent
import LinkedData.Text.Split

/-!
# LinkedData.Service.Exchange -- requests and responses

The target of a request is a path and a query. The path is taken as it is written; the query
is a form, whose names and values are decoded.
-/

namespace LinkedData.Service

open LinkedData.Text

/-- A request as it arrives. -/
structure Request where
  method : String := "GET"
  target : String
deriving DecidableEq, Repr

/-- What is sent back. -/
structure Response where
  status : Nat
  headers : List (String × String) := []
  body : List Char := []
deriving DecidableEq, Repr

/-- A response of a media type. -/
def Response.ofType (mediaType : String) (status : Nat) (body : List Char) : Response :=
  { status, headers := [("content-type", mediaType)], body }

/-- A response that holds JSON text. -/
def Response.json (status : Nat) (body : List Char) : Response :=
  .ofType "application/json" status body

namespace Request

/-- A target without the server that it may name, and without its fragment. -/
def localTarget (r : Request) : List Char :=
  let target := r.target.toList.takeWhile (· != '#')
  match target with
  | '/' :: _ => target
  | _ =>
    match target.dropWhile (· != ':') with
    | ':' :: '/' :: '/' :: rest => rest.dropWhile fun c => c != '/' && c != '?'
    | _ => target

/-- The path of a request. -/
def path (r : Request) : String :=
  match r.localTarget.takeWhile (· != '?') with
  | [] => "/"
  | p => String.ofList p

/-- The query of a request. -/
def query (r : Request) : List Char :=
  (r.localTarget.dropWhile (· != '?')).drop 1

/-- A form field: what stands before its first equals sign, and what stands after. -/
def field (part : List Char) : String × String :=
  (String.ofList (formDecode (part.takeWhile (· != '='))),
   String.ofList (formDecode ((part.dropWhile (· != '=')).drop 1)))

/-- The fields of a query; nothing between two ampersands is no field. -/
def fields (r : Request) : List (String × String) :=
  ((splitAt '&' r.query).filter fun part => !part.isEmpty).map field

/-- The values of a field. -/
def values (r : Request) (name : String) : List String :=
  (r.fields.filter fun f => f.1 == name).map (·.2)

end Request

end LinkedData.Service
