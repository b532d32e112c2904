import LinkedData.Dict
import LinkedData.Failure
import LinkedData.Rdf.Term

/-!
# LinkedData.Vocabulary -- short property names and their predicates

A vocabulary maps the names that paths are made of to predicates. Only names with a mapping
of their own resolve. The name `type` is in every vocabulary.
-/

namespace LinkedData

open LinkedData.Rdf

/-- Predicates by short name. -/
structure Vocabulary where
  terms : Dict Iri
deriving DecidableEq, Repr

namespace Vocabulary

/-- Maps a name, in place of what it was mapped to. -/
def insert (v : Vocabulary) (name : String) (iri : Iri) : Vocabulary :=
  { terms := v.terms.insert name iri }

/-- The vocabulary that only knows `type`. -/
def base : Vocabulary :=
  { terms := [("type", rdfType)] }

/-- The predicate of a name. -/
def find? (v : Vocabulary) (name : String) : Option Iri :=
  v.terms.find? name

/-- The predicate of a name; a name without one is a failure. -/
def resolve (v : Vocabulary) (name : String) : Except Failure Iri :=
  match v.find? name with
  | some iri => .ok iri
  | none => .error (.unknownProperty name)

/-- The predicates of several names, or the failure of the leftmost one without. -/
def resolveAll (v : Vocabulary) (names : List String) : Except Failure (List Iri) :=
  names.mapM v.resolve

/-- The namespace of schema.org. -/
def schemaNamespace : String := "http://schema.org/"

/-- The properties that business records are made of, and some of their neighbours. -/
def schemaProperties : List String :=
  ["additionalType", "address", "addressCountry", "addressLocality", "addressRegion",
   "alternateName", "closes", "dayOfWeek", "description", "email", "faxNumber", "geo",
   "hasMap", "image", "latitude", "legalName", "logo", "longitude", "name", "openingHours",
   "openingHoursSpecification", "opens", "postOfficeBoxNumber", "postalCode", "priceRange",
   "sameAs", "streetAddress", "telephone", "url", "validFrom", "validThrough"]

/-- The vocabulary of those properties in the namespace of schema.org. -/
def schemaOrg : Vocabulary :=
  schemaProperties.foldl (fun v name => v.insert name (schemaNamespace ++ name)) base

end Vocabulary

end LinkedData
