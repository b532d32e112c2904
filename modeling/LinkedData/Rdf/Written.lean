import LinkedData.Rdf.Term

/-!
# LinkedData.Rdf.Written -- terms and quads as text

The written form of a term is its N-Quads spelling with as few escapes as possible: in a
literal only the quote, the backslash and the two line breaks are escaped, and the datatype
of a plain string is left out. IRIs and labels are written as they are, so the form reads
back exactly when they hold no character that the grammar reserves.
-/

namespace LinkedData.Rdf

/-- The written form of one character of a literal. -/
def escapedChar (c : Char) : List Char :=
  if c = '"' then ['\\', '"']
  else if c = '\\' then ['\\', '\\']
  else if c = '\n' then ['\\', 'n']
  else if c = '\r' then ['\\', 'r']
  else [c]

/-- A quoted string with its escapes. -/
def quoted (value : String) : List Char :=
  '"' :: value.toList.flatMap escapedChar ++ ['"']

/-- An IRI between angle brackets. -/
def iriChars (iri : Iri) : List Char :=
  '<' :: iri.toList ++ ['>']

/-- The written form of a node. -/
def Node.chars : Node → List Char
  | .iri i => iriChars i
  | .blank label => '_' :: ':' :: label.toList

/-- What follows the closing quote: a language tag, or a datatype other than that of plain
strings. -/
def Literal.suffix (l : Literal) : List Char :=
  match l.language with
  | some tag => '@' :: tag.toList
  | none => if l.datatype = xsdString then [] else '^' :: '^' :: iriChars l.datatype

/-- The written form of a literal. -/
def Literal.chars (l : Literal) : List Char :=
  quoted l.value ++ l.suffix

/-- The written form of a term. -/
def Term.chars : Term → List Char
  | .node n => n.chars
  | .literal l => l.chars

/-- The written form of a graph name; the default graph has none. -/
def graphChars : Option Node → List Char
  | none => []
  | some n => n.chars

/-- The written form of a quad: its terms and a final dot, a space after each term. -/
def Quad.chars (q : Quad) : List Char :=
  let triple := q.subject.chars ++ ' ' :: iriChars q.predicate ++ ' ' :: q.object.chars ++ [' ']
  match q.graph with
  | none => triple ++ ['.']
  | some g => triple ++ g.chars ++ [' ', '.']

/-- The written form of a node as a string. -/
def Node.text (n : Node) : String :=
  String.ofList n.chars

/-- The written form of a term as a string. -/
def Term.text (t : Term) : String :=
  String.ofList t.chars

/-- The written form of a quad as a string. -/
def Quad.text (q : Quad) : String :=
  String.ofList q.chars

/-- A graph as N-Quads: the written form of each quad, ended by a line feed. -/
def Graph.chars (g : Graph) : List Char :=
  g.flatMap fun q => q.chars ++ ['\n']

/-- The bare value of a term: the text of an IRI, a label without its `_:`, or the value of
a literal. -/
def Term.value : Term → String
  | .node (.iri i) => i
  | .node (.blank label) => label
  | .literal l => l.value

end LinkedData.Rdf
