import LinkedData.JsonLd.Context
import LinkedData.Text.Search

/-!
# LinkedData.JsonLd.Expansion -- documents without contexts

Expansion spells a document out: every key becomes an IRI or a keyword, every reference is
resolved, and every property holds an array of value objects and node objects. Keys that
stand for nothing are dropped. Values are read as the definition of their key says, in the
context that it brings with it.
-/

namespace LinkedData.JsonLd

open LinkedData.Text

/-- An error in expansion. -/
def expansionError (detail : String) : Document.Error :=
  { stage := .expansion, detail }

/-- The keywords that terms can be aliases of. -/
def aliasable : List String :=
  ["@id", "@type", "@graph", "@value", "@language", "@list"]

/-- The keyword that a key stands for. -/
def keywordOf? (c : Context) (key : String) : Option String :=
  if isKeyword key then some key
  else (c.term? key).bind fun d => if aliasable.contains d.iri then some d.iri else none

/-! ## Values -/

/-- A value object with its other members in front, which sort before the value. -/
def valueObject (others : List (String × Json)) (value : Json) : Json :=
  .object (others ++ [("@value", value)])

/-- A reference to a node. -/
def nodeReference (id : String) : Json :=
  .object [("@id", .string id)]

/-- The IRI of a name that stands for a type or a term of the vocabulary; a keyword or a
name without IRI is a reference. -/
def vocabularyIri (c : Context) (s : String) : String :=
  match c.expandIri s with
  | some iri => if isKeyword iri then c.resolve s else iri
  | none => c.resolve s

/-- A string as the value of a property, read by the property's type and language. -/
def expandString (c : Context) (type language : Option String) (s : String) : Json :=
  let plain := match language with
    | some tag => valueObject [("@language", .string tag)] (.string s)
    | none => valueObject [] (.string s)
  match type with
  | none => plain
  | some t =>
    if t = "@id" then nodeReference (c.resolve s)
    else if t = "@vocab" then nodeReference (vocabularyIri c s)
    else if t = "@json" then plain
    else valueObject [("@type", .string t)] (.string s)

/-- The strings of a string or an array. -/
def stringsOf : Json → List String
  | .string s => [s]
  | .array items => items.filterMap Json.string?
  | _ => []

/-- A map from languages to strings as value objects. -/
def expandLanguageMap (members : Json.Members) : List Json :=
  members.flatMap fun (tag, value) =>
    (stringsOf value).map fun s => valueObject [("@language", .string tag)] (.string s)

/-- The types of a node. -/
def expandTypes (c : Context) : Json → Except Document.Error Json
  | .string s => .ok (.array [.string (vocabularyIri c s)])
  | .array items =>
    .ok (.array ((items.filterMap Json.string?).map fun s => .string (vocabularyIri c s)))
  | value => .error (expansionError ("invalid @type value: " ++ value.text))

/-- The members of a value object; others are dropped. -/
def expandValueMembers (c : Context) (members : Json.Members) :
    Except Document.Error Json.Members :=
  members.foldlM (fun result (key, value) =>
    match keywordOf? c key with
    | some "@value" => .ok (result.insert "@value" value)
    | some "@type" =>
      match value with
      | .string t => .ok (result.insert "@type" (.string (c.iriOrSelf t)))
      | _ => .error (expansionError ("invalid value @type: " ++ value.text))
    | some "@language" => .ok (result.insert "@language" value)
    | _ => .ok result) []

/-- A value object; one without a value is nothing. -/
def expandValueObject (c : Context) (members : Json.Members) : Except Document.Error Json := do
  let result ← expandValueMembers c members
  match Dict.find? result "@value" with
  | none => return .null
  | some .null => return .null
  | some _ => return .object result

/-! ## Contexts of objects -/

/-- The context inside an object. -/
def objectContext (c : Context) (members : Json.Members) : Except Document.Error Context :=
  match Dict.find? members "@context" with
  | some value => c.extend value
  | none => .ok c

/-- The context inside a node, with the contexts that its types bring, in order. The types
are looked up in the context before the first of them is applied. -/
def typeContext (c : Context) (members : Json.Members) : Except Document.Error Context :=
  match List.find? (fun m => keywordOf? c m.1 == some "@type") members with
  | none => .ok c
  | some (_, types) =>
    ((stringsOf types).filterMap fun t => (c.term? t).bind (·.context)).foldlM Context.extend c

/-- Whether an object holds a value. -/
def isValueObject (c : Context) (members : Json.Members) : Bool :=
  members.any fun m => keywordOf? c m.1 == some "@value"

/-- Expands an object, given how its entries expand in the context inside it. -/
def expandObject (c : Context) (members : Json.Members)
    (entries : Context → Except Document.Error Json.Members) : Except Document.Error Json := do
  let c ← objectContext c members
  if isValueObject c members then expandValueObject c members
  else
    let result ← entries (← typeContext c members)
    return if result.isEmpty then .null else .object result

/-! ## Properties -/

/-- The IRI of a key that stands for a property. -/
def propertyIri? (c : Context) (key : String) : Option String :=
  (c.expandIri key).filter fun iri =>
    !isKeyword iri &&
      (occursIn "://".toList iri.toList || "urn:".toList.isPrefixOf iri.toList)

/-- The items that an expanded value adds to an array; nothing adds none. -/
def itemsOf : Json → List Json
  | .null => []
  | .array items => items
  | value => [value]

/-- Adds items to the array of a property. -/
def addItems (result : Json.Members) (iri : String) (items : List Json) : Json.Members :=
  match Dict.find? result iri with
  | some (.array earlier) => result.insert iri (.array (earlier ++ items))
  | _ => result.insert iri (.array items)

/-- How the values of a key are read. -/
structure Reading where
  type : Option String := none
  language : Option String := none
  context : Context

/-- Adds the expanded value of a property to a node. -/
def addProperty (result : Json.Members) (iri : String) (value : Json) : Json.Members :=
  match value with
  | .null => result
  | value => addItems result iri (itemsOf value)

/-- Expands the value of a property, given how it expands in a reading. -/
def expandProperty (c : Context) (key : String) (value : Json)
    (read : Reading → Except Document.Error Json) : Except Document.Error Json := do
  let d := c.term? key
  let context ← match d.bind (·.context) with
    | some own => c.extend own
    | none => pure c
  let type := d.bind (·.type)
  match d.bind (·.container), value with
  | some .language, .object byLanguage => return .array (expandLanguageMap byLanguage)
  | some .list, .array _ =>
    return .array [.object [("@list", ← read { type, context })]]
  | _, _ => read { type, language := (d.bind (·.language)).or context.language, context }

/-! ## Documents -/

mutual

/-- Expands the node or nodes of a document; values that belong to no property are dropped. -/
def expandElement (c : Context) : Json → Except Document.Error Json
  | .array items => return .array (← expandElements c items)
  | .object members => expandObject c members fun c => expandEntries c [] members
  | _ => .ok .null

/-- Expands the items of an array into one array. -/
def expandElements (c : Context) : List Json → Except Document.Error (List Json)
  | [] => .ok []
  | item :: rest => do
    let first ← expandElement c item
    return itemsOf first ++ (← expandElements c rest)

/-- Expands the entries of a node onto what has been expanded of it. -/
def expandEntries (c : Context) (result : Json.Members) :
    List (String × Json) → Except Document.Error Json.Members
  | [] => .ok result
  | (key, value) :: rest => do
    let result ←
      if key = "@context" then pure result
      else
        match keywordOf? c key with
        | some "@id" =>
          match value with
          | .string id => pure (result.insert "@id" (.string (c.resolve id)))
          | _ => pure result
        | some "@type" => do
          let types ← expandTypes c value
          pure (result.insert "@type" types)
        | some "@graph" => do
          let nodes ← expandElement c value
          pure (result.insert "@graph" (.array (itemsOf nodes)))
        | some "@list" => do
          let items ← expandValue { context := c } value
          pure (result.insert "@list" items)
        | some _ => pure result
        | none =>
          match propertyIri? c key with
          | none => pure result
          | some iri => do
            let expanded ← expandProperty c key value fun r => expandValue r value
            pure (addProperty result iri expanded)
    expandEntries c result rest

/-- Expands a value of a property. -/
def expandValue (r : Reading) : Json → Except Document.Error Json
  | .array items => return .array (← expandValues r items)
  | .object members => expandObject r.context members fun c => expandEntries c [] members
  | .string s => .ok (expandString r.context r.type r.language s)
  | .number n => .ok (valueObject [] (.number n))
  | .bool b => .ok (valueObject [] (.bool b))
  | .null => .ok .null

/-- Expands the items of an array into one array. -/
def expandValues (r : Reading) : List Json → Except Document.Error (List Json)
  | [] => .ok []
  | item :: rest => do
    let first ← expandValue r item
    return itemsOf first ++ (← expandValues r rest)

end

/-- Expands a document that was retrieved from `base` into an array of nodes. -/
def expand (document : Json) (base : Option String) : Except Document.Error Json := do
  let result ← expandElement (.ofBase base) document
  return .array (itemsOf result)

end LinkedData.JsonLd
