/-
# LinkedData.Document.Error -- why a document gives no quads

An error names the stage of reading that failed and a detail in words. The words that
introduce each stage are fixed here.
-/

namespace LinkedData.Document

/-- The stage of reading at which a document fails. -/
inductive Stage where
  /-- Reading N-Quads statements. -/
  | statements
  /-- Expanding JSON-LD. -/
  | expansion
  /-- Processing a JSON-LD context. -/
  | context
  /-- Converting expanded JSON-LD into quads. -/
  | conversion
  | iri
  /-- Finding the JSON-LD blocks of a page. -/
  | page
  /-- Choosing a format. -/
  | mediaType
deriving DecidableEq, Repr

/-- The words that introduce an error of a stage. -/
def Stage.label : Stage → String
  | .statements => "N-Quads parse error"
  | .expansion => "JSON-LD expansion error"
  | .context => "Context error"
  | .conversion => "To-RDF conversion error"
  | .iri => "Invalid IRI"
  | .page => "HTML extraction error"
  | .mediaType => "Unsupported media type"

/-- Why a document gives no quads, or no more of them. -/
structure Error where
  stage : Stage
  detail : String
deriving DecidableEq, Repr

/-- The text of an error. -/
def Error.message (e : Error) : String :=
  e.stage.label ++ ": " ++ e.detail

end LinkedData.Document
