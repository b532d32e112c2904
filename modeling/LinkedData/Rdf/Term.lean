/-
# LinkedData.Rdf.Term -- what a source says: nodes, literals, statements

A source is read into quads: a subject, a predicate, an object, and the graph the statement
belongs to. The position of a term is in its type: only a node (an IRI or a blank node) can
be a subject or name a graph, only an IRI can be a predicate, and any term can be an object.
A graph is the list of its quads in the order they were observed, duplicates kept.
-/

namespace LinkedData.Rdf

/-- The text of an IRI, without angle brackets. -/
abbrev Iri := String

/-- What a statement can be about: an IRI, or a blank node known only by its label. The
label is kept without its leading `_:`. -/
inductive Node where
  | iri (iri : Iri)
  | blank (label : String)
deriving DecidableEq, Repr, Inhabited

/-- A value with its datatype, and a language tag if it is text in some language. -/
structure Literal where
  value : String
  datatype : Iri
  language : Option String := none
deriving DecidableEq, Repr, Inhabited

/-- Anything a statement can mention. -/
inductive Term where
  | node (node : Node)
  | literal (literal : Literal)
deriving DecidableEq, Repr, Inhabited

/-- A statement and the graph it belongs to; `none` is the default graph. -/
structure Quad where
  subject : Node
  predicate : Iri
  object : Term
  graph : Option Node := none
deriving DecidableEq, Repr, Inhabited

/-- Quads in the order they were observed. -/
abbrev Graph := List Quad

/-! ## Well-known names -/

/-- The datatype of plain strings. -/
def xsdString : Iri := "http://www.w3.org/2001/XMLSchema#string"

/-- The datatype of truth values. -/
def xsdBoolean : Iri := "http://www.w3.org/2001/XMLSchema#boolean"

/-- The datatype of whole numbers. -/
def xsdInteger : Iri := "http://www.w3.org/2001/XMLSchema#integer"

/-- The datatype of floating-point numbers. -/
def xsdDouble : Iri := "http://www.w3.org/2001/XMLSchema#double"

/-- The datatype of text with a language tag. -/
def rdfLangString : Iri := "http://www.w3.org/1999/02/22-rdf-syntax-ns#langString"

/-- The predicate that states a node's type. -/
def rdfType : Iri := "http://www.w3.org/1999/02/22-rdf-syntax-ns#type"

/-- The item of a list cell. -/
def rdfFirst : Iri := "http://www.w3.org/1999/02/22-rdf-syntax-ns#first"

/-- The cells after a list cell. -/
def rdfRest : Iri := "http://www.w3.org/1999/02/22-rdf-syntax-ns#rest"

/-- The empty list. -/
def rdfNil : Iri := "http://www.w3.org/1999/02/22-rdf-syntax-ns#nil"

/-! ## Making and viewing terms -/

namespace Literal

/-- A plain string. -/
def string (value : String) : Literal :=
  { value, datatype := xsdString }

/-- A value of a given datatype. -/
def typed (value : String) (datatype : Iri) : Literal :=
  { value, datatype }

/-- Text in a language. -/
def tagged (value language : String) : Literal :=
  { value, datatype := rdfLangString, language := some language }

end Literal

namespace Term

/-- The term of an IRI. -/
@[match_pattern] def iri (iri : Iri) : Term :=
  .node (.iri iri)

/-- The term of a blank node. -/
@[match_pattern] def blank (label : String) : Term :=
  .node (.blank label)

/-- Whether a term is a literal. -/
def isLiteral : Term → Bool
  | .node _ => false
  | .literal _ => true

/-- The node that a term is, unless it is a literal. -/
def node? : Term → Option Node
  | .node n => some n
  | .literal _ => none

end Term

instance : Coe Node Term := ⟨Term.node⟩

end LinkedData.Rdf
