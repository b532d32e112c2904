import LinkedData.Document.Error

/-!
# LinkedData.Failure -- why a source gives no answer

Dereferencing a source, querying it and projecting records from it can fail; data that is
merely absent is never a failure.
-/

namespace LinkedData

/-- Why there is no answer. -/
inductive Failure where
  /-- A source could not be fetched, or its document could not be read. -/
  | dereference (url message : String)
  | query (message : String)
  /-- A path names a property that the vocabulary does not define. -/
  | unknownProperty (name : String)
  | missingParameter (name : String)
  | document (error : Document.Error)
deriving DecidableEq, Repr

/-- The text of a failure. -/
def Failure.message : Failure → String
  | .dereference url message => "Couldn't dereference (" ++ url ++ "): " ++ message
  | .query message => "Query failed: " ++ message
  | .unknownProperty name => "Unknown property: " ++ name
  | .missingParameter name => "Missing parameter: " ++ name
  | .document e => e.message

end LinkedData
