import LinkedData.Arrivals
import LinkedData.JsonLd.Conversion

/-!
# LinkedData.Proofs.JsonLd.Account -- what an expanded document says, without a converter

A converter tells blank nodes apart by labels that it issues from a counter. Here they are
told apart by what they stand for: a label that a document writes, the place of a node object
without an identifier, or a cell of the list at a place. The account of a document is the
sequence of the blank nodes that it calls for and of the quads that it states, in order; a
fault stands where the document cannot be read on. No state is involved: what a value says
depends on the value, its place, and the graph that it stands in.
-/

namespace LinkedData.Arrivals

variable {ε α : Type}

/-- What arrives before the first fault. -/
def before : Arrivals ε α → List α
  | [] => []
  | .ok x :: rest => x :: before rest
  | .error _ :: _ => []

/-- The first fault. -/
def fault? : Arrivals ε α → Option ε
  | [] => none
  | .ok _ :: rest => fault? rest
  | .error e :: _ => some e

theorem before_append {a b : Arrivals ε α} (h : a.fault? = none) :
    before (a ++ b) = a.before ++ b.before := by
  induction a with
  | nil => rfl
  | cons item rest ih =>
    cases item with
    | error e => cases h
    | ok x => exact congrArg (x :: ·) (ih h)

theorem fault?_append {a b : Arrivals ε α} (h : a.fault? = none) :
    fault? (a ++ b) = b.fault? := by
  induction a with
  | nil => rfl
  | cons item rest ih =>
    cases item with
    | error e => cases h
    | ok x => exact ih h

theorem fault?_append_eq_none {a b : Arrivals ε α} (ha : a.fault? = none)
    (hb : b.fault? = none) : fault? (a ++ b) = none :=
  (fault?_append ha).trans hb

/-- Nothing that comes after a fault counts. -/
theorem before_append_of_fault {a b : Arrivals ε α} {e : ε} (h : a.fault? = some e) :
    before (a ++ b) = a.before ∧ fault? (a ++ b) = some e := by
  induction a with
  | nil => cases h
  | cons item rest ih =>
    cases item with
    | error e' => exact ⟨rfl, h⟩
    | ok x =>
      obtain ⟨hbefore, hfault⟩ := ih h
      exact ⟨congrArg (x :: ·) hbefore, hfault⟩

end LinkedData.Arrivals

namespace LinkedData.JsonLd

open LinkedData.Rdf

/-! ## Blank nodes by what they stand for -/

/-- A step from a value to a value inside it. -/
inductive Step where
  /-- A node of the top level. -/
  | top (index : Nat)
  /-- A node of the graph of a node. -/
  | member (index : Nat)
  /-- A value of a property: the position of the property, and that of the value. -/
  | value (property index : Nat)
  /-- An item of a list. -/
  | item (index : Nat)
deriving DecidableEq, Repr

/-- Where in a document a value stands: the steps that lead to it, the last one first. -/
abbrev Place := List Step

/-- What a blank node of a document stands for. -/
inductive Source where
  /-- Everything that the document labels with a label. -/
  | written (label : String)
  /-- The node object at a place, which has no identifier. -/
  | object (place : Place)
  /-- The cell of the list at a place that so many cells follow. -/
  | cell (place : Place) (following : Nat)
deriving DecidableEq, Repr

/-- What a blank node stands for, among several documents. -/
structure Origin where
  document : Nat
  source : Source
deriving DecidableEq, Repr

/-- A node whose blank nodes have no labels yet. -/
inductive AbstractNode where
  | iri (iri : Iri)
  | blank (origin : Origin)
deriving DecidableEq, Repr

/-- A term whose blank nodes have no labels yet. -/
inductive AbstractTerm where
  | node (node : AbstractNode)
  | literal (literal : Literal)
deriving DecidableEq, Repr

/-- A quad whose blank nodes have no labels yet. -/
structure AbstractQuad where
  subject : AbstractNode
  predicate : Iri
  object : AbstractTerm
  graph : Option AbstractNode
deriving DecidableEq, Repr

/-! ## Accounts -/

/-- A blank node is called for, or a quad is stated. -/
inductive Event where
  | issue (origin : Origin)
  | state (quad : AbstractQuad)
deriving DecidableEq, Repr

/-- What is called for and stated in order, and the faults in their places. -/
abbrev Account := Arrivals Document.Error Event

/-- The quads that are stated. -/
def stated (events : List Event) : List AbstractQuad :=
  events.filterMap fun
    | .state q => some q
    | .issue _ => none

/-- The quads that an account states. -/
def saidIn (account : Account) : List AbstractQuad :=
  account.filterMap fun
    | .ok (.state q) => some q
    | _ => none

theorem saidIn_append (a b : Account) : saidIn (a ++ b) = saidIn a ++ saidIn b :=
  List.filterMap_append

/-- Without a fault everything counts. -/
theorem stated_before {account : Account} (h : account.fault? = none) :
    stated account.before = saidIn account := by
  induction account with
  | nil => rfl
  | cons item rest ih =>
    cases item with
    | error e => cases h
    | ok event =>
      have hrest := ih h
      cases event with
      | issue o => exact hrest
      | state q => exact congrArg (q :: ·) hrest

/-- A node that is a blank node is called for. -/
def needs : AbstractNode → Account
  | .iri _ => []
  | .blank o => [.ok (.issue o)]

theorem saidIn_needs (node : AbstractNode) : saidIn (needs node) = [] := by
  cases node with
  | iri i => rfl
  | blank o => rfl

/-- States a quad. -/
def states (subject : AbstractNode) (predicate : Iri) (object : AbstractTerm)
    (graph : Option AbstractNode) : Account :=
  [.ok (.state { subject, predicate, object, graph })]

section Nodes

variable (d : Nat)

/-- The node that an identifier stands for in document `d`. -/
def identified (id : String) : AbstractNode :=
  match blankLabel? id with
  | some label => .blank ⟨d, .written label⟩
  | none => .iri id

/-- The node that the node object at a place stands for. -/
def subjectAt (place : Place) (members : Json.Members) : AbstractNode :=
  match Dict.find? members "@id" with
  | some (.string id) => identified d id
  | _ => .blank ⟨d, .object place⟩

/-- Calls for the subject of a node object; an identifier that is no string is a fault. -/
def subjectAccount (place : Place) (members : Json.Members) : Account :=
  match Dict.find? members "@id" with
  | none | some (.string _) => needs (subjectAt d place members)
  | some _ => [.error (Converter.error "@id must be a string")]

/-- States types. -/
def typesAccount (graph : Option AbstractNode) (subject : AbstractNode) : List String → Account
  | [] => []
  | type :: rest =>
    needs (identified d type) ++ states subject rdfType (.node (identified d type)) graph ++
      typesAccount graph subject rest

/-- The subject and the types of a node object. -/
def beginAccount (graph : Option AbstractNode) (place : Place) (members : Json.Members) :
    Account :=
  subjectAccount d place members ++
    typesAccount d graph (subjectAt d place members) (Converter.typesOf members)

/-! ## Objects of properties -/

/-- The first cell of a list of a length, or the empty list. -/
def listHead (place : Place) : Nat → AbstractNode
  | 0 => .iri rdfNil
  | n + 1 => .blank ⟨d, .cell place n⟩

/-- The number of items that stand for objects: those that are JSON objects. -/
def convertible (items : List Json) : Nat :=
  items.countP fun item => item.members?.isSome

/-- The object that the item of a property at a place stands for. -/
def objectAt (place : Place) : Json → Option AbstractTerm
  | .object members =>
    match Dict.find? members "@value" with
    | some value => some (.literal (Converter.literalOf value members))
    | none =>
      match Dict.find? members "@list" with
      | some list => some (.node (listHead d place (convertible (list.items?.getD []))))
      | none => some (.node (subjectAt d place members))
  | _ => none

/-- The objects that the items of a list from the `j`-th one on stand for. -/
def objectsAt (place : Place) (j : Nat) : List Json → List AbstractTerm
  | [] => []
  | item :: rest =>
    (objectAt d (.item j :: place) item).toList ++ objectsAt place (j + 1) rest

/-- Links the cells of a list, the last one first. -/
def cellsAccount (graph : Option AbstractNode) (place : Place) : List AbstractTerm → Account
  | [] => []
  | item :: rest =>
    cellsAccount graph place rest ++
      (needs (listHead d place (rest.length + 1)) ++
        (states (listHead d place (rest.length + 1)) rdfFirst item graph ++
          states (listHead d place (rest.length + 1)) rdfRest (.node (listHead d place rest.length))
            graph))

/-- States that an object is a value of a property, if there is an object. -/
def linkAccount (graph : Option AbstractNode) (subject : AbstractNode) (predicate : Iri) :
    Option AbstractTerm → Account
  | some object => states subject predicate object graph
  | none => []

mutual

/-- What is said before the object that an item stands for can be mentioned. -/
def itemAccount (graph : Option AbstractNode) (place : Place) : Json → Account
  | .object members =>
    match Dict.find? members "@value" with
    | some _ => []
    | none =>
      if Dict.has members "@list" then listMember graph place members
      else
        beginAccount d graph place members ++
          membersAccount graph place (subjectAt d place members) 0 members
  | _ => []

/-- What the member `@list` says. -/
def listMember (graph : Option AbstractNode) (place : Place) :
    List (String × Json) → Account
  | [] => []
  | (key, value) :: rest =>
    if key = "@list" then listAccount graph place value else listMember graph place rest

/-- What a list says: its items, and then its cells. -/
def listAccount (graph : Option AbstractNode) (place : Place) : Json → Account
  | .array items =>
    itemsAccount graph place 0 items ++ cellsAccount d graph place (objectsAt d place 0 items)
  | _ => [.error (Converter.error "@list must be an array")]

/-- What the items of a list from the `j`-th one on say. -/
def itemsAccount (graph : Option AbstractNode) (place : Place) (j : Nat) :
    List Json → Account
  | [] => []
  | item :: rest =>
    itemAccount graph (.item j :: place) item ++ itemsAccount graph place (j + 1) rest

/-- What the properties of a node from the `k`-th member on say; keywords are none. -/
def membersAccount (graph : Option AbstractNode) (place : Place) (subject : AbstractNode)
    (k : Nat) : List (String × Json) → Account
  | [] => []
  | (key, value) :: rest =>
    (if isKeyword key then [] else propertyAccount graph place subject key k value) ++
      membersAccount graph place subject (k + 1) rest

/-- What a property with the values of an array says. -/
def propertyAccount (graph : Option AbstractNode) (place : Place) (subject : AbstractNode)
    (predicate : Iri) (k : Nat) : Json → Account
  | .array items => valuesAccount graph place subject predicate k 0 items
  | _ => []

/-- What the values of a property from the `j`-th one on say. -/
def valuesAccount (graph : Option AbstractNode) (place : Place) (subject : AbstractNode)
    (predicate : Iri) (k j : Nat) : List Json → Account
  | [] => []
  | item :: rest =>
    itemAccount graph (.value k j :: place) item ++
      (linkAccount graph subject predicate (objectAt d (.value k j :: place) item) ++
        valuesAccount graph place subject predicate k (j + 1) rest)

end

/-! ## Documents -/

/-- What a node says. -/
def nodeAccount (graph : Option AbstractNode) (place : Place) (members : Json.Members) :
    Account :=
  beginAccount d graph place members ++
    membersAccount d graph place (subjectAt d place members) 0 members

/-- What the nodes of a graph from the `j`-th one on say; what is no object is none. -/
def nodesAccount (graph : Option AbstractNode) (place : Place) (j : Nat) :
    List Json → Account
  | [] => []
  | .object members :: rest =>
    nodeAccount d graph (.member j :: place) members ++ nodesAccount graph place (j + 1) rest
  | _ :: rest => nodesAccount graph place (j + 1) rest

/-- The graph that a node names; without an identifier it is the default graph. -/
def graphAt (members : Json.Members) : Option AbstractNode :=
  ((Dict.find? members "@id").bind Json.string?).map (identified d)

/-- What is said before the members of the graph of a node: if it has properties, the node
itself. -/
def graphAccount (place : Place) (members : Json.Members) : Account :=
  match (Dict.find? members "@id").bind Json.string? with
  | none => []
  | some id =>
    if members.any fun m => m.1 != "@id" && m.1 != "@graph" then
      nodeAccount d none place members
    else needs (identified d id)

/-- What a node of the top level says. -/
def topAccount (place : Place) (members : Json.Members) : Account :=
  match Dict.find? members "@graph" with
  | none => nodeAccount d none place members
  | some graphNodes =>
    graphAccount d place members ++
      nodesAccount d (graphAt d members) place 0 (graphNodes.items?.getD [])

/-- What the nodes of the top level from the `i`-th one on say. -/
def topsAccount (i : Nat) : List Json → Account
  | [] => []
  | .object members :: rest => topAccount d [.top i] members ++ topsAccount (i + 1) rest
  | _ :: rest => topsAccount (i + 1) rest

/-- What an expanded document says. -/
def documentAccount : Json → Account
  | .array items => topsAccount d 0 items
  | _ => [.error (Converter.error "expanded JSON-LD must be an array")]

end Nodes

end LinkedData.JsonLd
