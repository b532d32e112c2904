import LinkedData.JsonLd.Conversion
import LinkedData.JsonLd.Expansion
import LinkedData.Vocabulary

/-!
# LinkedData.JsonLd.Document -- quads and vocabularies from JSON-LD

A document is expanded and then converted. Several documents of one source share a
converter, so that none of their blank nodes meet.
-/

namespace LinkedData.JsonLd

/-- Takes a document that was retrieved from `base` into a converter. -/
def convertDocument (base : Option String) (document : Json) : Convert Unit := do
  match expand document base with
  | .ok expanded => Converter.convert expanded
  | .error e => throw e

/-- Takes documents into a converter until one fails. -/
def convertDocuments (base : Option String) : List Json → Convert Unit
  | [] => pure ()
  | document :: rest => do
    convertDocument base document
    convertDocuments base rest

/-- The quads of documents that were retrieved from `base`. -/
def quadsOf (base : Option String) (documents : List Json) :
    Except Document.Error Rdf.Graph :=
  match (convertDocuments base documents).run {} with
  | .ok () c => .ok c.quads
  | .error e _ => .error e

/-- The vocabulary of a context, or of the context of a document: every term with an IRI
that is no keyword. The name `type` keeps its meaning. -/
def vocabularyOf (document : Json) : Except Document.Error Vocabulary := do
  let context ← Context.extend {} ((document.member? "@context").getD document)
  let terms := context.terms.filter fun (name, d) =>
    !d.iri.isEmpty && !isKeyword d.iri && name != "type"
  return terms.foldl (fun v (name, d) => v.insert name d.iri) .base

end LinkedData.JsonLd
