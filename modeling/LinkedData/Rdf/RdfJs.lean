import LinkedData.Json.Written
import LinkedData.Rdf.Term

/-!
# LinkedData.Rdf.RdfJs -- the RDF/JS form of terms and quads

Every term is a JSON object that names its kind first and its bare value second. A literal
adds its language, which is empty when there is none, and its datatype; a quad adds its four
terms. The default graph is a term of its own kind.
-/

namespace LinkedData.Rdf

open LinkedData.Json

/-- A term of a kind with nothing but a value, and more members after it. -/
def kindChars (kind value : String) (more : List (List Char)) : List Char :=
  objectChars (memberChars "termType" (stringChars kind) ::
    memberChars "value" (stringChars value) :: more)

/-- The RDF/JS form of an IRI. -/
def iriRdfJs (iri : Iri) : List Char :=
  kindChars "NamedNode" iri []

/-- The RDF/JS form of a node. -/
def Node.rdfJs : Node → List Char
  | .iri i => iriRdfJs i
  | .blank label => kindChars "BlankNode" label []

/-- The RDF/JS form of a literal. -/
def Literal.rdfJs (l : Literal) : List Char :=
  kindChars "Literal" l.value
    [memberChars "language" (stringChars (l.language.getD "")),
     memberChars "datatype" (iriRdfJs l.datatype)]

/-- The RDF/JS form of a term. -/
def Term.rdfJs : Term → List Char
  | .node n => n.rdfJs
  | .literal l => l.rdfJs

/-- The RDF/JS form of a graph name. -/
def graphRdfJs : Option Node → List Char
  | none => kindChars "DefaultGraph" "" []
  | some n => n.rdfJs

/-- The RDF/JS form of a quad. -/
def Quad.rdfJs (q : Quad) : List Char :=
  kindChars "Quad" ""
    [memberChars "subject" q.subject.rdfJs, memberChars "predicate" (iriRdfJs q.predicate),
     memberChars "object" q.object.rdfJs, memberChars "graph" (graphRdfJs q.graph)]

/-- The RDF/JS form of a graph: its quads in order. -/
def Graph.rdfJs (g : Graph) : List Char :=
  arrayChars (g.map Quad.rdfJs)

end LinkedData.Rdf
