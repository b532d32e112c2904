import LinkedData.Document.Error
import LinkedData.Json.Written
import LinkedData.JsonLd.Context
import LinkedData.Rdf.Term

/-!
# LinkedData.JsonLd.Conversion -- quads from expanded documents

One converter takes expanded documents one after another. It issues blank nodes from a
counter: one for every node object without an identifier, one for every label that a document
writes, and one for every list cell. Labels belong to their document, so the table of labels
is emptied before each one. The quads of a nested node precede the quad that leads to it.

A conversion that fails keeps what it has done.
-/

namespace LinkedData.JsonLd

open LinkedData.Rdf

/-- The state between documents, and inside one. -/
structure Converter where
  /-- The number of blank nodes issued. -/
  issued : Nat := 0
  /-- The blank nodes issued for the labels of the current document. -/
  labels : Dict String := []
  quads : Graph := []
deriving Repr

/-- A step of conversion. -/
abbrev Convert := EStateM Document.Error Converter

namespace Converter

/-- An error in conversion. -/
def error (detail : String) : Document.Error :=
  { stage := .conversion, detail }

/-- The label of the `n`-th blank node. -/
def label (n : Nat) : String :=
  "b" ++ toString n

/-- Issues a blank node. -/
def fresh : Convert String := do
  let c ← get
  set { c with issued := c.issued + 1 }
  return label c.issued

/-- The blank node of a label of the current document. -/
def ofLabel (written : String) : Convert String := do
  match (← get).labels.find? written with
  | some issued => return issued
  | none =>
    let issued ← fresh
    modify fun c => { c with labels := c.labels.insert written issued }
    return issued

/-- The node that an identifier stands for. -/
def nodeOf (id : String) : Convert Node :=
  match blankLabel? id with
  | some written => return .blank (← ofLabel written)
  | none => return .iri id

/-- Adds a quad. -/
def emit (q : Quad) : Convert Unit :=
  modify fun c => { c with quads := c.quads ++ [q] }

/-! ## Literals -/

/-- The text of a value. -/
def lexical : Json → String
  | .string s => s
  | value => value.text

/-- The datatype of a value that does not state one. -/
def nativeType : Json → Iri
  | .bool _ => xsdBoolean
  | .number (.double _) => xsdDouble
  | .number (.integer _) => xsdInteger
  | _ => xsdString

/-- The literal of a value object with these members. -/
def literalOf (value : Json) (members : Json.Members) : Literal :=
  match (Dict.find? members "@language").bind Json.string? with
  | some tag => .tagged (lexical value) tag
  | none =>
    match (Dict.find? members "@type").bind Json.string? with
    | some datatype => .typed (lexical value) datatype
    | none => .typed (lexical value) (nativeType value)

/-! ## Nodes -/

/-- The subject of a node object; one without an identifier is a fresh blank node. -/
def subjectOf (members : Json.Members) : Convert Node :=
  match Dict.find? members "@id" with
  | none => return .blank (← fresh)
  | some (.string id) => nodeOf id
  | some _ => throw (error "@id must be a string")

/-- States the types of a node. -/
def emitTypes (graph : Option Node) (subject : Node) : List String → Convert Unit
  | [] => pure ()
  | type :: rest => do
    let object ← nodeOf type
    emit { subject, predicate := rdfType, object, graph }
    emitTypes graph subject rest

/-- The types of a node object. -/
def typesOf (members : Json.Members) : List String :=
  match Dict.find? members "@type" with
  | some (.array types) => types.filterMap Json.string?
  | _ => []

/-- Begins a node: finds its subject and states its types. -/
def beginNode (graph : Option Node) (members : Json.Members) : Convert Node := do
  let subject ← subjectOf members
  emitTypes graph subject (typesOf members)
  return subject

/-- Links the items of a list from the last one on and returns the first cell. -/
def linkCells (graph : Option Node) : List Term → Convert Node
  | [] => return .iri rdfNil
  | item :: rest => do
    let next ← linkCells graph rest
    let cell : Node := .blank (← fresh)
    emit { subject := cell, predicate := rdfFirst, object := item, graph }
    emit { subject := cell, predicate := rdfRest, object := next, graph }
    return cell

mutual

/-- The object that an item of a property stands for; what is no object stands for none. -/
def objectOf (graph : Option Node) : Json → Convert (Option Term)
  | .object members => do
    match Dict.find? members "@value" with
    | some value => return some (.literal (literalOf value members))
    | none =>
      if Dict.has members "@list" then listIn graph members
      else if members.length = 1 ∧ Dict.has members "@id" then
        return some (.node (← subjectOf members))
      else
        let subject ← beginNode graph members
        properties graph subject members
        return some (.node subject)
  | _ => return none

/-- The list that the member `@list` holds. -/
def listIn (graph : Option Node) : List (String × Json) → Convert (Option Term)
  | [] => return none
  | (key, value) :: rest =>
    if key = "@list" then return some (.node (← listOf graph value)) else listIn graph rest

/-- The first cell of a list. -/
def listOf (graph : Option Node) : Json → Convert Node
  | .array items => do
    let objects ← objectsOf graph items
    linkCells graph objects
  | _ => throw (error "@list must be an array")

/-- The objects that items stand for. -/
def objectsOf (graph : Option Node) : List Json → Convert (List Term)
  | [] => return []
  | item :: rest => do
    let first ← objectOf graph item
    return first.toList ++ (← objectsOf graph rest)

/-- States the properties of a node; keywords are none. -/
def properties (graph : Option Node) (subject : Node) : List (String × Json) → Convert Unit
  | [] => pure ()
  | (key, value) :: rest => do
    if isKeyword key then pure () else property graph subject key value
    properties graph subject rest

/-- States a property with the values of an array. -/
def property (graph : Option Node) (subject : Node) (predicate : Iri) : Json → Convert Unit
  | .array items => propertyItems graph subject predicate items
  | _ => pure ()

/-- States a property with several values. -/
def propertyItems (graph : Option Node) (subject : Node) (predicate : Iri) :
    List Json → Convert Unit
  | [] => pure ()
  | item :: rest => do
    match ← objectOf graph item with
    | some object => emit { subject, predicate, object, graph }
    | none => pure ()
    propertyItems graph subject predicate rest

end

/-- States everything about a node and returns it. -/
def node (graph : Option Node) (members : Json.Members) : Convert Node := do
  let subject ← beginNode graph members
  properties graph subject members
  return subject

/-! ## Documents -/

/-- States everything about several nodes; what is no object is none. -/
def nodes (graph : Option Node) : List Json → Convert Unit
  | [] => pure ()
  | .object members :: rest => do
    let _ ← node graph members
    nodes graph rest
  | _ :: rest => nodes graph rest

/-- The graph that a node with `@graph` names. A node that has properties is stated in the
default graph first. Without an identifier it names the default graph. -/
def graphOf (members : Json.Members) : Convert (Option Node) :=
  match (Dict.find? members "@id").bind Json.string? with
  | none => return none
  | some id =>
    if members.any fun m => m.1 != "@id" && m.1 != "@graph" then
      return some (← node none members)
    else return some (← nodeOf id)

/-- Takes in a node of the top level, with the members of its graph if it has one. -/
def topLevel (members : Json.Members) : Convert Unit := do
  match Dict.find? members "@graph" with
  | none =>
    let _ ← node none members
  | some graphNodes =>
    let graph ← graphOf members
    nodes graph (graphNodes.items?.getD [])

/-- Takes in the nodes of the top level in order. -/
def topLevels : List Json → Convert Unit
  | [] => pure ()
  | .object members :: rest => do
    topLevel members
    topLevels rest
  | _ :: rest => topLevels rest

/-- Takes in an expanded document. -/
def convert : Json → Convert Unit
  | .array items => do
    modify fun c => { c with labels := [] }
    topLevels items
  | _ => throw (error "expanded JSON-LD must be an array")

end Converter

end LinkedData.JsonLd
