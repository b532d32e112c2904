import LinkedData.Proofs.Dict.Ordered
import LinkedData.Proofs.Rdf.Reading

/-!
# LinkedData.Proofs.Rdf.Decoding -- the RDF/JS form of a graph determines the graph

The terms of RDF/JS text name their kinds, so the text can be taken apart again: `Graph.ofRdfJs?`
reads it as JSON and every object in it as the quad or term of its kind. All that is lost is the
difference between an empty language tag and no tag, since both are written as an empty string.
`Quad.told` is what is left of a quad, and two graphs have the same text exactly when this is the
same for both.
-/

namespace LinkedData.Rdf

/-! ## Taking JSON values apart -/

/-- The string that an object has as a member. -/
def memberText? (j : Json) (key : String) : Option String :=
  (j.member? key).bind Json.string?

/-- The IRI that a value stands for. -/
def iriOfJson? (j : Json) : Option Iri :=
  if memberText? j "termType" = some "NamedNode" then memberText? j "value" else none

/-- The node that a value stands for. -/
def Node.ofJson? (j : Json) : Option Node :=
  if memberText? j "termType" = some "BlankNode" then (memberText? j "value").map .blank
  else (iriOfJson? j).map .iri

/-- The language of a literal; an empty tag is none. -/
def languageOf (tag : String) : Option String :=
  if tag = "" then none else some tag

/-- The literal that a value stands for. -/
def Literal.ofJson? (j : Json) : Option Literal := do
  let value ← memberText? j "value"
  let tag ← memberText? j "language"
  let datatype ← (j.member? "datatype").bind iriOfJson?
  return { value, datatype, language := languageOf tag }

/-- The term that a value stands for. -/
def Term.ofJson? (j : Json) : Option Term :=
  if memberText? j "termType" = some "Literal" then (Literal.ofJson? j).map .literal
  else (Node.ofJson? j).map .node

/-- The graph name that a value stands for. -/
def graphOfJson? (j : Json) : Option (Option Node) :=
  if memberText? j "termType" = some "DefaultGraph" then some none
  else (Node.ofJson? j).map some

/-- The quad that a value stands for. -/
def Quad.ofJson? (j : Json) : Option Quad := do
  let subject ← (j.member? "subject").bind Node.ofJson?
  let predicate ← (j.member? "predicate").bind iriOfJson?
  let object ← (j.member? "object").bind Term.ofJson?
  let graph ← (j.member? "graph").bind graphOfJson?
  return { subject, predicate, object, graph }

/-- The graph that an RDF/JS text stands for. -/
def Graph.ofRdfJs? (text : String) : Option Graph := do
  let items ← (← Json.parse? text).items?
  items.mapM Quad.ofJson?

/-! ## What the text tells -/

/-- A literal as its text tells it. -/
def Literal.told (l : Literal) : Literal :=
  { l with language := languageOf (l.language.getD "") }

/-- A term as its text tells it. -/
def Term.told : Term → Term
  | .node n => .node n
  | .literal l => .literal l.told

/-- A quad as its text tells it. -/
def Quad.told (q : Quad) : Quad :=
  { q with object := q.object.told }

/-- No literal of a graph has an empty language tag. -/
def Graph.HasNoEmptyTag (g : Graph) : Prop :=
  ∀ q ∈ g, ∀ l, q.object = .literal l → l.language ≠ some ""

theorem Literal.told_eq_self {l : Literal} (h : l.language ≠ some "") : l.told = l := by
  obtain ⟨value, datatype, language⟩ := l
  cases language with
  | none => rfl
  | some tag =>
    have htag : tag ≠ "" := fun heq => h (congrArg some heq)
    simp [told, languageOf, htag]

theorem Quad.told_eq_self {q : Quad} (h : ∀ l, q.object = .literal l → l.language ≠ some "") :
    q.told = q := by
  obtain ⟨subject, predicate, object, graph⟩ := q
  cases object with
  | node n => rfl
  | literal l => rw [told, Term.told, Literal.told_eq_self (h l rfl)]

theorem Graph.HasNoEmptyTag.map_told {g : Graph} (h : g.HasNoEmptyTag) : g.map Quad.told = g := by
  rw [List.map_congr_left fun q hq => Quad.told_eq_self (h q hq), List.map_id']

/-! ## Terms and quads are read back -/

theorem member?_kindJson (kind value : String) (more : List (String × Json)) (key : String) :
    (kindJson kind value more).member? key =
      Dict.find? (("termType", .string kind) :: ("value", .string value) :: more).reverse key :=
  Dict.find?_ofPairs _ key

theorem memberText?_kindJson (kind value : String) (more : List (String × Json)) (key : String) :
    memberText? (kindJson kind value more) key =
      (Dict.find? (("termType", .string kind) :: ("value", .string value) :: more).reverse key).bind
        Json.string? := by
  rw [memberText?, member?_kindJson]

theorem kind_iriJson (i : Iri) : memberText? (iriJson i) "termType" = some "NamedNode" := by
  simp [iriJson, memberText?_kindJson, Dict.find?, Json.string?]

theorem iriOfJson?_iriJson (i : Iri) : iriOfJson? (iriJson i) = some i := by
  rw [iriOfJson?, if_pos (kind_iriJson i)]
  simp [iriJson, memberText?_kindJson, Json.string?]

theorem Node.kind_json (n : Node) :
    memberText? n.json "termType" = some "NamedNode" ∨
      memberText? n.json "termType" = some "BlankNode" := by
  cases n with
  | iri i => exact Or.inl (kind_iriJson i)
  | blank label =>
    refine Or.inr ?_
    simp [Node.json, memberText?_kindJson, Dict.find?, Json.string?]

theorem Node.ofJson?_json (n : Node) : Node.ofJson? n.json = some n := by
  cases n with
  | iri i =>
    have hkind : memberText? (Node.iri i).json "termType" ≠ some "BlankNode" := by
      rw [Node.json, kind_iriJson]
      decide
    rw [Node.ofJson?, if_neg hkind, Node.json, iriOfJson?_iriJson]
    rfl
  | blank label =>
    simp [Node.ofJson?, Node.json, memberText?_kindJson, Dict.find?, Json.string?]

theorem Literal.ofJson?_json (l : Literal) : Literal.ofJson? l.json = some l.told := by
  have hvalue : memberText? l.json "value" = some l.value := by
    simp [Literal.json, memberText?_kindJson, Dict.find?, Json.string?]
  have htag : memberText? l.json "language" = some (l.language.getD "") := by
    simp [Literal.json, memberText?_kindJson, Dict.find?, Json.string?]
  have hdatatype : l.json.member? "datatype" = some (iriJson l.datatype) := by
    simp [Literal.json, member?_kindJson]
  simp only [Literal.ofJson?, hvalue, htag, hdatatype, Option.bind_some, iriOfJson?_iriJson]
  rfl

theorem Term.ofJson?_json (t : Term) : Term.ofJson? t.json = some t.told := by
  cases t with
  | node n =>
    have hkind : memberText? n.json "termType" ≠ some "Literal" := by
      rcases n.kind_json with h | h <;> simp [h]
    rw [Term.ofJson?, Term.json, if_neg hkind, Node.ofJson?_json]
    rfl
  | literal l =>
    have hkind : memberText? l.json "termType" = some "Literal" := by
      simp [Literal.json, memberText?_kindJson, Dict.find?, Json.string?]
    rw [Term.ofJson?, Term.json, if_pos hkind, Literal.ofJson?_json]
    rfl

theorem graphOfJson?_graphJson (name : Option Node) :
    graphOfJson? (graphJson name) = some name := by
  cases name with
  | none => simp [graphOfJson?, graphJson, memberText?_kindJson, Dict.find?, Json.string?]
  | some n =>
    have hkind : memberText? n.json "termType" ≠ some "DefaultGraph" := by
      rcases n.kind_json with h | h <;> simp [h]
    rw [graphOfJson?, graphJson, if_neg hkind, Node.ofJson?_json]
    rfl

theorem Quad.ofJson?_json (q : Quad) : Quad.ofJson? q.json = some q.told := by
  simp [Quad.ofJson?, Quad.json, member?_kindJson, Dict.find?, Node.ofJson?_json,
    iriOfJson?_iriJson, Term.ofJson?_json, graphOfJson?_graphJson, Quad.told]

/-- A text is taken apart into the quads of its graph, as far as it tells them. -/
theorem Graph.ofRdfJs?_told (g : Graph) :
    Graph.ofRdfJs? (String.ofList g.rdfJs) = some (g.map Quad.told) := by
  have hquads : (g.map Quad.json).mapM Quad.ofJson? = some (g.map Quad.told) := by
    have hquad : Quad.ofJson? ∘ Quad.json = fun q => pure q.told := funext Quad.ofJson?_json
    rw [List.mapM_map, hquad, List.mapM_pure]
    rfl
  rw [Graph.ofRdfJs?, parse?_rdfJs]
  exact hquads

/-! ## Texts and graphs -/

/-- Nothing is written of a literal but what its text tells. -/
theorem Literal.rdfJs_told (l : Literal) : l.told.rdfJs = l.rdfJs := by
  have htag : (languageOf (l.language.getD "")).getD "" = l.language.getD "" := by
    rw [languageOf]
    split
    · rename_i hempty
      rw [hempty]
      rfl
    · rfl
  rw [Literal.rdfJs, Literal.told, htag]
  rfl

theorem Quad.rdfJs_told (q : Quad) : q.told.rdfJs = q.rdfJs := by
  obtain ⟨subject, predicate, object, graph⟩ := q
  cases object with
  | node n => rfl
  | literal l =>
    rw [Quad.rdfJs, Quad.rdfJs, Quad.told, Term.told, Term.rdfJs, Literal.rdfJs_told]
    rfl

/-- Two graphs have the same text exactly when it tells the same of both. -/
theorem Graph.rdfJs_eq_iff_told {g g' : Graph} :
    String.ofList g.rdfJs = String.ofList g'.rdfJs ↔ g.map Quad.told = g'.map Quad.told := by
  constructor
  · intro h
    have hread := Graph.ofRdfJs?_told g
    rw [h, Graph.ofRdfJs?_told] at hread
    exact (Option.some.inj hread).symm
  · intro h
    have hwritten (g : Graph) : Graph.rdfJs (g.map Quad.told) = g.rdfJs := by
      have hquad : Quad.rdfJs ∘ Quad.told = Quad.rdfJs := funext Quad.rdfJs_told
      rw [Graph.rdfJs, List.map_map, hquad, Graph.rdfJs]
    rw [← hwritten g, h, hwritten]

/-- The text of a graph without empty language tags is taken apart into that graph: the same quads
in the same order, as often as they were there. No other such graph has this text. -/
theorem rdfJs_determines_graph {g : Graph} (hg : g.HasNoEmptyTag) :
    Graph.ofRdfJs? (String.ofList g.rdfJs) = some g ∧
      ∀ g' : Graph, g'.HasNoEmptyTag → String.ofList g'.rdfJs = String.ofList g.rdfJs → g' = g := by
  refine ⟨?_, ?_⟩
  · rw [Graph.ofRdfJs?_told, hg.map_told]
  · intro g' hg' htext
    rw [← hg'.map_told, Graph.rdfJs_eq_iff_told.mp htext, hg.map_told]

/-- A text with a quotation and a line break in English, said of a blank node in a named graph, and
the same value as a plain string in the default graph. -/
def quotedGraph : Graph :=
  [{ subject := .blank "b0", predicate := "http://a.b/p", object := .literal (.tagged "\"a\"\n" "en"),
     graph := some (.iri "http://a.b/g") },
   { subject := .iri "http://a.b/s", predicate := "http://a.b/p",
     object := .literal (.string "\"a\"\n") }]

/-- The graph comes back from its text, and reversing it changes the text. -/
theorem rdfJs_determines_quotedGraph :
    quotedGraph.HasNoEmptyTag ∧ Graph.HasNoEmptyTag quotedGraph.reverse ∧
      Graph.ofRdfJs? (String.ofList quotedGraph.rdfJs) = some quotedGraph ∧
      String.ofList (Graph.rdfJs quotedGraph.reverse) ≠ String.ofList quotedGraph.rdfJs := by
  have htags : quotedGraph.HasNoEmptyTag := by
    intro q hq l hl
    rcases List.mem_pair.mp hq with rfl | rfl <;> cases hl <;> decide
  have hreverse : Graph.HasNoEmptyTag quotedGraph.reverse := fun q hq =>
    htags q (List.mem_reverse.mp hq)
  obtain ⟨hread, hunique⟩ := rdfJs_determines_graph htags
  refine ⟨htags, hreverse, hread, fun heq => ?_⟩
  exact absurd (hunique _ hreverse heq) (by decide)

end LinkedData.Rdf
