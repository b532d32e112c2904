import LinkedData.Record.Shape

/-!
# LinkedData.Record.Business -- the record of a local business

Contact details, the postal address as `location`, the coordinates as `geo`, and every
opening hours specification. A specification has a `dayOfWeek` only when the source states
one.
-/

namespace LinkedData.Record

open LinkedData.Rdf

/-- The type of the entities that are projected unless another one is asked for. -/
def businessType : Iri := Vocabulary.schemaNamespace ++ "LocalBusiness"

/-- A text field that is named after the property it shows. -/
def property (name : String) : String × Field :=
  (name, .scalar (.ofDotted name))

/-- The field that shows the entity itself. -/
def uriField : String × Field :=
  ("uri", .identifier)

/-- A postal address. -/
def locationShape : Shape :=
  uriField :: ["streetAddress", "postalCode", "addressLocality", "addressRegion",
    "addressCountry"].map property

/-- Coordinates. -/
def geoShape : Shape :=
  uriField :: ["latitude", "longitude"].map property

/-- A day of the week. -/
def dayShape : Shape :=
  [uriField, property "name"]

/-- An opening hours specification. -/
def openingHoursShape : Shape :=
  uriField :: ["opens", "closes", "validFrom", "validThrough"].map property ++
    [("dayOfWeek", .gated (.ofDotted "dayOfWeek") dayShape)]

/-- A local business. -/
def businessShape : Shape :=
  uriField :: ("types", .all (.ofDotted "type")) ::
    ["name", "description", "telephone", "email", "url"].map property ++
    [("location", .nested (.ofDotted "address") locationShape),
     ("geo", .nested (.ofDotted "geo") geoShape),
     ("openingHoursSpecifications",
       .repeated (.ofDotted "openingHoursSpecification") openingHoursShape)]

end LinkedData.Record
