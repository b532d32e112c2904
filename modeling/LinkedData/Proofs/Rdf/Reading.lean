import LinkedData.Proofs.Json.Reading
import LinkedData.Rdf.RdfJs

/-!
# LinkedData.Proofs.Rdf.Reading -- the RDF/JS form of a graph is read back

The RDF/JS form of a graph is JSON text: an array with one object for every quad, in order.
Nothing of a quad opens more than three objects at once.
-/

namespace LinkedData.Rdf

open LinkedData.Json

/-! ## Values of terms and quads -/

/-- The object of a term of a kind, with more members. -/
def kindJson (kind value : String) (more : List (String × Json)) : Json :=
  .ofPairs (("termType", .string kind) :: ("value", .string value) :: more)

/-- The object of an IRI. -/
def iriJson (iri : Iri) : Json :=
  kindJson "NamedNode" iri []

/-- The object of a node. -/
def Node.json : Node → Json
  | .iri i => iriJson i
  | .blank label => kindJson "BlankNode" label []

/-- The object of a literal. -/
def Literal.json (l : Literal) : Json :=
  kindJson "Literal" l.value
    [("language", .string (l.language.getD "")), ("datatype", iriJson l.datatype)]

/-- The object of a term. -/
def Term.json : Term → Json
  | .node n => n.json
  | .literal l => l.json

/-- The object of a graph name. -/
def graphJson : Option Node → Json
  | none => kindJson "DefaultGraph" "" []
  | some n => n.json

/-- The object of a quad. -/
def Quad.json (q : Quad) : Json :=
  kindJson "Quad" ""
    [("subject", q.subject.json), ("predicate", iriJson q.predicate), ("object", q.object.json),
     ("graph", graphJson q.graph)]

/-! ## Reading -/

theorem reads_kind {depth : Nat} (kind value : String) {more : List (String × Json)}
    {texts : List (List Char)} (h : List.Forall₂ (ReadsMember depth) more texts) :
    Reads (depth + 1) (kindJson kind value more) (kindChars kind value texts) :=
  reads_object (.cons (readsMember ((reads_string kind).mono (Nat.zero_le depth)))
    (.cons (readsMember ((reads_string value).mono (Nat.zero_le depth))) h))

theorem reads_iri (iri : Iri) : Reads 1 (iriJson iri) (iriRdfJs iri) :=
  reads_kind "NamedNode" iri .nil

theorem Node.reads (n : Node) : Reads 1 n.json n.rdfJs := by
  cases n with
  | iri i => exact reads_iri i
  | blank label => exact reads_kind "BlankNode" label .nil

theorem Literal.reads (l : Literal) : Reads 2 l.json l.rdfJs :=
  reads_kind "Literal" l.value
    (.cons (readsMember ((reads_string _).mono (Nat.zero_le 1)))
      (.cons (readsMember (reads_iri l.datatype)) .nil))

theorem Term.reads (t : Term) : Reads 2 t.json t.rdfJs := by
  cases t with
  | node n => exact n.reads.mono (by decide)
  | literal l => exact l.reads

theorem reads_graph (name : Option Node) : Reads 1 (graphJson name) (graphRdfJs name) := by
  cases name with
  | none => exact reads_kind "DefaultGraph" "" .nil
  | some n => exact n.reads

theorem Quad.reads (q : Quad) : Reads 3 q.json q.rdfJs :=
  reads_kind "Quad" ""
    (.cons (readsMember (q.subject.reads.mono (by decide)))
      (.cons (readsMember ((reads_iri q.predicate).mono (by decide)))
        (.cons (readsMember q.object.reads)
          (.cons (readsMember ((reads_graph q.graph).mono (by decide))) .nil))))

/-- The form of a graph is the array of its quads. -/
theorem parse?_rdfJs (g : Graph) :
    Json.parse? (String.ofList g.rdfJs) = some (.array (g.map Quad.json)) := by
  have hquads : List.Forall₂ (Reads 3) (g.map Quad.json) (g.map Quad.rdfJs) := by
    rw [List.forall₂_map_left_iff, List.forall₂_map_right_iff, List.forall₂_same]
    exact fun q _ => q.reads
  exact (reads_array hquads).parse?_eq (by decide)

end LinkedData.Rdf
