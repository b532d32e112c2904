import LinkedData.Json.Value
import LinkedData.Text.Blank

/-!
# LinkedData.JsonLd.SchemaOrg -- the one context that is at hand

Pages name the context of schema.org by several spellings of its address. All of them stand
for the context document kept here; no other remote context is available.
-/

namespace LinkedData.JsonLd

open LinkedData.Text

/-- The definition of a term by its IRI alone. -/
def idOnly (id : String) : Json :=
  .object [("@id", .string id)]

/-- The definition of a term by its IRI and the type of its values. -/
def idTyped (id type : String) : Json :=
  .object [("@id", .string id), ("@type", .string type)]

/-- The definitions of the context of schema.org. -/
def schemaOrgDefinitions : Json.Members :=
  [("@vocab", .string "http://schema.org/"),
   ("Boolean", idOnly "schema:Boolean"),
   ("Date", idOnly "schema:Date"),
   ("DateTime", idOnly "schema:DateTime"),
   ("HTML", idOnly "rdf:HTML"),
   ("Number", idOnly "schema:Number"),
   ("Text", idOnly "schema:Text"),
   ("Time", idOnly "schema:Time"),
   ("URL", idOnly "schema:URL"),
   ("additionalType", idTyped "schema:additionalType" "@id"),
   ("closes", idTyped "schema:closes" "xsd:time"),
   ("dayOfWeek", idTyped "schema:dayOfWeek" "@vocab"),
   ("dcterms", .string "http://purl.org/dc/terms/"),
   ("hasMap", idTyped "schema:hasMap" "@id"),
   ("id", .string "@id"),
   ("image", idTyped "schema:image" "@id"),
   ("logo", idTyped "schema:logo" "@id"),
   ("opens", idTyped "schema:opens" "xsd:time"),
   ("owl", .string "http://www.w3.org/2002/07/owl#"),
   ("rdf", .string "http://www.w3.org/1999/02/22-rdf-syntax-ns#"),
   ("rdfs", .string "http://www.w3.org/2000/01/rdf-schema#"),
   ("sameAs", idTyped "schema:sameAs" "@id"),
   ("schema", .string "http://schema.org/"),
   ("type", .string "@type"),
   ("url", idTyped "schema:url" "@id"),
   ("validFrom", idTyped "schema:validFrom" "xsd:date"),
   ("validThrough", idTyped "schema:validThrough" "xsd:date"),
   ("xsd", .string "http://www.w3.org/2001/XMLSchema#")]

/-- The spellings of the context's address, without slashes at the end. -/
def schemaOrgAddresses : List String :=
  ["http://schema.org", "https://schema.org",
   "http://schema.org/docs/jsonldcontext.json", "https://schema.org/docs/jsonldcontext.json",
   "http://schema.org/docs/jsonldcontext.jsonld", "https://schema.org/docs/jsonldcontext.jsonld"]

/-- The definitions of the context that an address stands for. -/
def remoteDefinitions? (url : String) : Option Json.Members :=
  if schemaOrgAddresses.contains (String.ofList (dropTailWhile (· == '/') url.toList)) then
    some schemaOrgDefinitions
  else none

/-- The context document that an address stands for. -/
def remoteDocument? (url : String) : Option Json :=
  (remoteDefinitions? url).map fun definitions => .object [("@context", .object definitions)]

end LinkedData.JsonLd
