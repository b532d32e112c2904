import LinkedData.JsonLd.Document
import LinkedData.Proofs.JsonLd.Bare
import LinkedData.Proofs.JsonLd.Sharing

/-!
# LinkedData.Proofs.JsonLd.Dataset -- datasets written as documents

Every dataset can be written as a document without a context, with a node object for each
quad. Such a document is its own expansion, and it converts into the quads that it was written
from, in order: names of nodes and predicates pass unharmed where nothing defines a term, and
literals get their datatypes back. Only the labels of blank nodes change, each into one of its
own.

What a document cannot carry is excluded by the conditions: an IRI that would be taken for the
label of a blank node, a predicate that would be dropped as a key without an IRI, and text in a
language with a datatype of its own.
-/

namespace LinkedData.Rdf

/-! ## Renaming -/

/-- A node whose label is renamed, if it is a blank node. -/
def Node.rename (f : String → String) : Node → Node
  | .iri i => .iri i
  | .blank label => .blank (f label)

/-- A term whose label is renamed, if it is a blank node. -/
def Term.rename (f : String → String) : Term → Term
  | .node n => .node (n.rename f)
  | .literal l => .literal l

/-- A quad in which the labels of blank nodes are renamed. -/
def Quad.rename (f : String → String) (q : Quad) : Quad where
  subject := q.subject.rename f
  predicate := q.predicate
  object := q.object.rename f
  graph := q.graph.map (Node.rename f)

end LinkedData.Rdf

namespace LinkedData.JsonLd

open LinkedData.Rdf LinkedData.Text

/-! ## Writing a dataset -/

/-- The identifier of a node. -/
def idOf : Node → String
  | .iri i => i
  | .blank label => "_:" ++ label

/-- A literal as a value object. A language stands for its datatype, and the datatype of plain
strings is left out. -/
def literalJson (l : Literal) : Json :=
  match l.language with
  | some tag => .ofPairs [("@value", .string l.value), ("@language", .string tag)]
  | none =>
    if l.datatype = xsdString then .ofPairs [("@value", .string l.value)]
    else .ofPairs [("@value", .string l.value), ("@type", .string l.datatype)]

/-- A term as a reference or a value object. -/
def termJson : Term → Json
  | .node n => .ofPairs [("@id", .string (idOf n))]
  | .literal l => literalJson l

/-- A quad as a node object with one property, which stands in the `@graph` of another one if
the quad does not belong to the default graph. -/
def quadJson (q : Quad) : Json :=
  let node := Json.ofPairs
    [("@id", .string (idOf q.subject)), (q.predicate, .array [termJson q.object])]
  match q.graph with
  | none => node
  | some g => .ofPairs [("@id", .string (idOf g)), ("@graph", .array [node])]

/-- Quads as a document, with a node object for each. -/
def datasetJson (quads : List Quad) : Json :=
  .array (quads.map quadJson)

/-- A node that cannot be taken for another one: its IRI does not begin like a label. -/
def IsCarriableNode : Node → Prop
  | .iri i => ¬ "_:".toList <+: i.toList
  | .blank _ => True

/-- A term that cannot be taken for another one: text in a language has the datatype that goes
with it. -/
def IsCarriableTerm : Term → Prop
  | .node n => IsCarriableNode n
  | .literal l => l.language ≠ none → l.datatype = rdfLangString

/-- A predicate that a key can stand for. -/
def IsCarriablePredicate (p : Iri) : Prop :=
  (BeginsWithScheme p ∧ "://".toList <:+: p.toList) ∨ "urn:".toList <+: p.toList

/-- A quad that a document can carry. -/
structure IsCarriable (q : Quad) : Prop where
  subject : IsCarriableNode q.subject
  predicate : IsCarriablePredicate q.predicate
  object : IsCarriableTerm q.object
  graph : ∀ g, q.graph = some g → IsCarriableNode g

/-! ## The document of a dataset is its own expansion -/

theorem IsCarriablePredicate.isKey {p : Iri} (h : IsCarriablePredicate p) : IsKey p := by
  rcases h with ⟨hscheme, hslashes⟩ | hurn
  · exact isKey_of_scheme hscheme (Or.inl hslashes)
  · obtain ⟨rest, hrest⟩ := hurn
    have hscheme : BeginsWithScheme p := ⟨"urn".toList, rest, hrest.symm, by decide⟩
    exact isKey_of_scheme hscheme (Or.inr ⟨rest, hrest⟩)

/-! ### Literals -/

/-- The members that a literal is written with: a language, a datatype, or neither. -/
theorem literalJson_cases (l : Literal) :
    literalJson l = .object [("@value", .string l.value)] ∧ l.language = none ∧
        l.datatype = xsdString ∨
      literalJson l = .object [("@type", .string l.datatype), ("@value", .string l.value)] ∧
        l.language = none ∨
      ∃ tag, literalJson l = .object [("@language", .string tag), ("@value", .string l.value)] ∧
        l.language = some tag := by
  rw [literalJson]
  cases l.language with
  | some tag =>
    have hlt : "@language" < "@value" := by decide
    exact Or.inr (Or.inr ⟨tag, congrArg Json.object (Dict.ofPairs_before hlt _ _), rfl⟩)
  | none =>
    by_cases htype : l.datatype = xsdString
    · refine Or.inl ⟨?_, rfl, htype⟩
      show ite _ _ _ = _
      rw [if_pos htype]
      rfl
    · refine Or.inr (Or.inl ⟨?_, rfl⟩)
      show ite _ _ _ = _
      rw [if_neg htype]
      have hlt : "@type" < "@value" := by decide
      exact congrArg Json.object (Dict.ofPairs_before hlt _ _)

theorem isNormal_termJson (t : Term) : IsNormal Unrestricted (termJson t) := by
  cases t with
  | node n => exact isNormal_invariant.reference (idOf n)
  | literal l =>
    rw [termJson]
    obtain ⟨heq, -⟩ | ⟨heq, -⟩ | ⟨tag, heq, -⟩ := literalJson_cases l
    · exact heq ▸ isNormal_invariant.plainValue (string_ne_null _)
    · exact heq ▸ isNormal_invariant.valueWith (.type _) (by decide) (string_ne_null _)
    · exact heq ▸ isNormal_invariant.taggedValue tag _

theorem propertyKeys_termJson (t : Term) : propertyKeys (termJson t) = [] := by
  cases t with
  | node n =>
    show propertyKeys (.object [("@id", .string (idOf n))]) = []
    rfl
  | literal l =>
    rw [termJson]
    obtain ⟨heq, -⟩ | ⟨heq, -⟩ | ⟨tag, heq, -⟩ := literalJson_cases l <;> rw [heq] <;> rfl

/-! ### Quads -/

/-- The members of the node object of a quad. -/
def nodeMembers (q : Quad) : Json.Members :=
  [("@id", .string (idOf q.subject)), (q.predicate, .array [termJson q.object])]

/-- The only keyword in it is that of the identifier. -/
theorem ne_of_mem_nodeMembers {q : Quad} (hp : IsKey q.predicate) {key : String}
    (hkeyword : isKeyword key = true) (hne : key ≠ "@id") : ∀ m ∈ nodeMembers q, m.1 ≠ key := by
  intro m hm
  rcases List.mem_pair.mp hm with rfl | rfl
  · exact hne.symm
  · exact hp.ne hkeyword

/-- A quad of the default graph, and a quad of another one. -/
theorem quadJson_eq {q : Quad} (hp : IsKey q.predicate) :
    quadJson q =
      match q.graph with
      | none => .object (nodeMembers q)
      | some g =>
        .object [("@graph", .array [.object (nodeMembers q)]), ("@id", .string (idOf g))] := by
  have hnode : Json.ofPairs
      [("@id", .string (idOf q.subject)), (q.predicate, .array [termJson q.object])] =
      .object (nodeMembers q) :=
    congrArg Json.object (Dict.ofPairs_after hp.after _ _)
  rw [quadJson, hnode]
  cases q.graph with
  | none => rfl
  | some g =>
    have hlt : "@graph" < "@id" := by decide
    exact congrArg Json.object (Dict.ofPairs_before hlt _ _)

theorem isNormal_nodeMembers {q : Quad} (hp : IsKey q.predicate) :
    IsNormal Unrestricted (.object (nodeMembers q)) := by
  refine .node (List.pairwise_pair.mpr hp.after) (List.cons_ne_nil _ _) ?_
  intro m hm
  rcases List.mem_pair.mp hm with rfl | rfl
  · exact .id _
  · exact .property hp.keyword fun item hitem =>
      List.mem_singleton.mp hitem ▸ isNormal_termJson q.object

theorem isNormal_quadJson {q : Quad} (hp : IsKey q.predicate) :
    IsNormal Unrestricted (quadJson q) := by
  rw [quadJson_eq hp]
  cases q.graph with
  | none => exact isNormal_nodeMembers hp
  | some g =>
    have hlt : "@graph" < "@id" := by decide
    refine .node (List.pairwise_pair.mpr hlt) (List.cons_ne_nil _ _) ?_
    intro m hm
    rcases List.mem_pair.mp hm with rfl | rfl
    · exact .graph fun item hitem => List.mem_singleton.mp hitem ▸ isNormal_nodeMembers hp
    · exact .id _

/-- The only property is the predicate. -/
theorem isKey_of_mem_propertyKeys {q : Quad} (hp : IsKey q.predicate) :
    ∀ key ∈ propertyKeys (quadJson q), IsKey key := by
  have hid : ¬ isKeyword "@id" = false := by decide
  have hgraph : ¬ isKeyword "@graph" = false := by decide
  have hnode : ∀ key ∈ propertyKeys (.object (nodeMembers q)), IsKey key := by
    refine forall_propertyKeys_object.mpr fun m hm => ?_
    rcases List.mem_pair.mp hm with rfl | rfl
    · exact ⟨fun h => absurd h hid, fun _ => nofun⟩
    · refine ⟨fun _ => hp, fun _ => forall_propertyKeys_array.mpr ?_⟩
      rw [List.forall_mem_singleton, propertyKeys_termJson]
      exact nofun
  rw [quadJson_eq hp]
  cases q.graph with
  | none => exact hnode
  | some g =>
    show ∀ key ∈ propertyKeys (.object _), IsKey key
    refine forall_propertyKeys_object.mpr fun m hm => ?_
    rcases List.mem_pair.mp hm with rfl | rfl
    · refine ⟨fun h => absurd h hgraph, fun _ => forall_propertyKeys_array.mpr ?_⟩
      exact List.forall_mem_singleton.mpr hnode
    · exact ⟨fun h => absurd h hid, fun _ => nofun⟩

/-- The document of a dataset is its own expansion. -/
theorem expand_datasetJson {quads : List Quad} (h : ∀ q ∈ quads, IsCarriable q) :
    expand (datasetJson quads) none = .ok (datasetJson quads) := by
  have hnormal : IsNormalDocument Unrestricted (datasetJson quads) := by
    refine ⟨_, rfl, List.forall_mem_map.mpr fun q hq => ?_⟩
    exact isNormal_quadJson (h q hq).predicate.isKey
  refine hnormal.expand_eq (forall_propertyKeys_array.mpr (List.forall_mem_map.mpr fun q hq => ?_))
  exact isKey_of_mem_propertyKeys (h q hq).predicate.isKey

/-! ## What the document of a dataset says -/

section Says

variable (d : Nat)

/-- A node of document `d`. -/
def abstractNode : Node → AbstractNode
  | .iri i => .iri i
  | .blank label => .blank ⟨d, .written label⟩

/-- A term of document `d`. -/
def abstractTerm : Term → AbstractTerm
  | .node n => .node (abstractNode d n)
  | .literal l => .literal l

/-- A quad of document `d`. -/
def abstractQuad (q : Quad) : AbstractQuad where
  subject := abstractNode d q.subject
  predicate := q.predicate
  object := abstractTerm d q.object
  graph := q.graph.map (abstractNode d)

variable {d}

/-- The identifier that a node is written with stands for the node. -/
theorem identified_idOf {n : Node} (h : IsCarriableNode n) :
    identified d (idOf n) = abstractNode d n := by
  cases n with
  | iri i =>
    have hlabel : blankLabel? i = none := by
      rw [blankLabel?]
      split
      · rename_i label hi
        exact absurd ⟨label, hi.symm⟩ h
      · rfl
    show identified d i = .iri i
    rw [identified, hlabel]
  | blank label =>
    have hlabel : blankLabel? ("_:" ++ label) = some label := by
      have htext : ("_:" ++ label).toList = '_' :: ':' :: label.toList := String.toList_append
      rw [blankLabel?, htext]
      exact congrArg some String.ofList_toList
    show identified d ("_:" ++ label) = .blank ⟨d, .written label⟩
    rw [identified, hlabel]

/-- The value object that a literal is written with stands for the literal. -/
theorem objectAt_literalJson {l : Literal} (h : IsCarriableTerm (.literal l)) (place : Place) :
    objectAt d place (literalJson l) = some (.literal l) := by
  obtain ⟨value, datatype, language⟩ := l
  obtain ⟨heq, hlanguage, htype⟩ | ⟨heq, hlanguage⟩ | ⟨tag, heq, hlanguage⟩ :=
    literalJson_cases ⟨value, datatype, language⟩
  · cases hlanguage
    cases htype
    rw [heq]
    rfl
  · cases hlanguage
    rw [heq]
    rfl
  · cases hlanguage
    cases h nofun
    rw [heq]
    rfl

theorem objectAt_termJson {t : Term} (h : IsCarriableTerm t) (place : Place) :
    objectAt d place (termJson t) = some (abstractTerm d t) := by
  cases t with
  | node n =>
    show some (AbstractTerm.node (identified d (idOf n))) = _
    rw [identified_idOf h]
    rfl
  | literal l => exact objectAt_literalJson h place

/-- An account has no fault and states some quads. -/
structure Says (account : Account) (quads : List AbstractQuad) : Prop where
  faultless : account.fault? = none
  said : saidIn account = quads

theorem says_nil : Says [] [] :=
  ⟨rfl, rfl⟩

theorem Says.append {a b : Account} {qs qs' : List AbstractQuad} (ha : Says a qs)
    (hb : Says b qs') : Says (a ++ b) (qs ++ qs') :=
  ⟨Arrivals.fault?_append_eq_none ha.faultless hb.faultless, by
    rw [saidIn_append, ha.said, hb.said]⟩

/-- What says nothing can stand in front. -/
theorem Says.after {a b : Account} {qs : List AbstractQuad} (hb : Says b qs) (ha : Says a []) :
    Says (a ++ b) qs :=
  ha.append hb

/-- What says nothing can stand behind. -/
theorem Says.before {a b : Account} {qs : List AbstractQuad} (ha : Says a qs) (hb : Says b []) :
    Says (a ++ b) qs := by
  simpa using ha.append hb

theorem says_needs (n : AbstractNode) : Says (needs n) [] := by
  refine ⟨?_, saidIn_needs n⟩
  cases n with
  | iri i => rfl
  | blank o => rfl

/-- Nothing is said before a reference or a literal is mentioned. -/
theorem says_termJson (g : Option AbstractNode) (place : Place) (t : Term) :
    Says (itemAccount d g place (termJson t)) [] := by
  cases t with
  | node n =>
    show Says (itemAccount d g place (.object [("@id", .string (idOf n))])) []
    rw [itemAccount]
    show Says (ite _ _ _) []
    rw [if_neg (Dict.not_has_iff.mpr rfl), reference_account rfl rfl]
    exact says_needs _
  | literal l =>
    obtain ⟨heq, -⟩ | ⟨heq, -⟩ | ⟨tag, heq, -⟩ := literalJson_cases l
    · rw [termJson, heq, itemAccount]
      exact says_nil
    · rw [termJson, heq, itemAccount]
      exact says_nil
    · rw [termJson, heq, itemAccount]
      exact says_nil

section Quads

variable {q : Quad}

theorem subjectAt_nodeMembers (h : IsCarriable q) (place : Place) :
    subjectAt d place (nodeMembers q) = abstractNode d q.subject :=
  identified_idOf h.subject

/-- A node object with one property states one quad. -/
theorem says_node (h : IsCarriable q) (g : Option AbstractNode) (place : Place) :
    Says (nodeAccount d g place (nodeMembers q))
      [⟨abstractNode d q.subject, q.predicate, abstractTerm d q.object, g⟩] := by
  have hp := h.predicate.isKey
  have htypes : Converter.typesOf (nodeMembers q) = [] := by
    have hother := ne_of_mem_nodeMembers hp (show isKeyword "@type" = true by decide) (by decide)
    rw [Converter.typesOf, Dict.find?_eq_none_of_forall hother]
  have hbegin : Says (beginAccount d g place (nodeMembers q)) [] := by
    rw [beginAccount, htypes]
    exact (says_needs _).append says_nil
  have hvalue : Says (valuesAccount d g place (abstractNode d q.subject) q.predicate 1 0
      [termJson q.object])
      [⟨abstractNode d q.subject, q.predicate, abstractTerm d q.object, g⟩] := by
    rw [valuesAccount, valuesAccount, objectAt_termJson h.object]
    have hlink : Says (linkAccount g (abstractNode d q.subject) q.predicate
        (some (abstractTerm d q.object)))
        [⟨abstractNode d q.subject, q.predicate, abstractTerm d q.object, g⟩] := ⟨rfl, rfl⟩
    exact (hlink.before says_nil).after (says_termJson g _ q.object)
  have hmembers : Says (membersAccount d g place (abstractNode d q.subject) 0 (nodeMembers q))
      [⟨abstractNode d q.subject, q.predicate, abstractTerm d q.object, g⟩] := by
    rw [nodeMembers, membersAccount, membersAccount, membersAccount, if_pos (by decide), hp.keyword,
      if_neg Bool.false_ne_true, propertyAccount]
    exact (hvalue.before says_nil).after says_nil
  rw [nodeAccount, subjectAt_nodeMembers h]
  exact hmembers.after hbegin

/-- The document of a quad states the quad, in the default graph or in that of a node. -/
theorem says_quadJson (h : IsCarriable q) (i : Nat) (rest : List Json) {said : List AbstractQuad}
    (hrest : Says (topsAccount d (i + 1) rest) said) :
    Says (topsAccount d i (quadJson q :: rest)) (abstractQuad d q :: said) := by
  have hp := h.predicate.isKey
  rw [quadJson_eq hp]
  cases hq : q.graph with
  | none =>
    have hother := ne_of_mem_nodeMembers hp (show isKeyword "@graph" = true by decide) (by decide)
    have hnode := says_node (d := d) h none [.top i]
    show Says (topAccount d [.top i] (nodeMembers q) ++ _) _
    rw [topAccount, Dict.find?_eq_none_of_forall hother, abstractQuad, hq]
    exact hnode.append hrest
  | some g =>
    have hid : identified d (idOf g) = abstractNode d g := identified_idOf (h.graph g hq)
    have hnode := says_node (d := d) h (some (abstractNode d g)) [.member 0, .top i]
    have hgraphNode : Says (topAccount d [.top i]
        [("@graph", .array [.object (nodeMembers q)]), ("@id", .string (idOf g))])
        [⟨abstractNode d q.subject, q.predicate, abstractTerm d q.object,
          some (abstractNode d g)⟩] := by
      show Says (needs (identified d (idOf g)) ++
        (nodeAccount d (some (identified d (idOf g))) [.member 0, .top i] (nodeMembers q) ++ [])) _
      rw [hid]
      exact (hnode.before says_nil).after (says_needs _)
    show Says (topAccount d [.top i] _ ++ _) _
    rw [abstractQuad, hq]
    exact hgraphNode.append hrest

end Quads

theorem says_datasetJson {quads : List Quad} (h : ∀ q ∈ quads, IsCarriable q) (i : Nat) :
    Says (topsAccount d i (quads.map quadJson)) (quads.map (abstractQuad d)) := by
  induction quads generalizing i with
  | nil => exact says_nil
  | cons q rest ih =>
    exact says_quadJson (h q (List.mem_cons_self ..)) i _
      (ih (fun q hq => h q (List.mem_cons_of_mem _ hq)) (i + 1))

end Says

/-! ## Conversion gives the dataset back -/

/-- The name of a blank node: the label issued for it, or one that is never issued if there is
none. -/
def nameAmong (os : List Origin) (o : Origin) : String :=
  if o ∈ os then Converter.label (os.idxOf o)
  else
    match o.source with
    | .written label => "_" ++ label
    | _ => ""

/-- Different labels of a document get different names. -/
theorem nameAmong_injective (d : Nat) (os : List Origin) :
    Function.Injective fun label => nameAmong os ⟨d, .written label⟩ := by
  have hissued : ∀ {o : Origin}, o ∈ os → nameAmong os o = Converter.label (os.idxOf o) :=
    fun ho => if_pos ho
  have hother : ∀ {label : String}, (⟨d, .written label⟩ : Origin) ∉ os →
      nameAmong os ⟨d, .written label⟩ = "_" ++ label :=
    fun ho => if_neg ho
  have happart : ∀ (n : Nat) (label : String), Converter.label n ≠ "_" ++ label := by
    intro n label h
    have hchars := congrArg String.toList h
    rw [Converter.label, String.toList_append, String.toList_append] at hchars
    exact absurd (List.cons.inj hchars).1 (by decide)
  intro label label' h
  simp only at h
  -- Issued labels differ among themselves and from all others by their first character.
  by_cases hmem : (⟨d, .written label⟩ : Origin) ∈ os
  · by_cases hmem' : (⟨d, .written label'⟩ : Origin) ∈ os
    · rw [hissued hmem, hissued hmem', label_inj] at h
      have horigin := (List.idxOf_inj hmem).mp h
      injection horigin with _ hsource
      injection hsource
    · rw [hissued hmem, hother hmem'] at h
      exact absurd h (happart _ _)
  · by_cases hmem' : (⟨d, .written label'⟩ : Origin) ∈ os
    · rw [hother hmem, hissued hmem'] at h
      exact absurd h.symm (happart _ _)
    · rw [hother hmem, hother hmem'] at h
      exact (String.append_right_inj "_").mp h

section Under

variable (d : Nat) (name : Origin → String)

theorem abstractNode_under (n : Node) :
    (abstractNode d n).under name = n.rename fun label => name ⟨d, .written label⟩ := by
  cases n with
  | iri i => rfl
  | blank label => rfl

/-- A quad under names of its blank nodes is the quad with its labels renamed. -/
theorem abstractQuad_under (q : Quad) :
    (abstractQuad d q).under name = q.rename fun label => name ⟨d, .written label⟩ := by
  have hobject : (abstractTerm d q.object).under name =
      q.object.rename fun label => name ⟨d, .written label⟩ := by
    cases q.object with
    | node n => exact congrArg Term.node (abstractNode_under d name n)
    | literal l => rfl
  have hgraph : (q.graph.map (abstractNode d)).map (AbstractNode.under name) =
      q.graph.map (Node.rename fun label => name ⟨d, .written label⟩) := by
    cases q.graph with
    | none => rfl
    | some g => exact congrArg some (abstractNode_under d name g)
  rw [AbstractQuad.under, Quad.rename]
  exact congr (congr (congrArg (Quad.mk · q.predicate) (abstractNode_under d name q.subject))
    hobject) hgraph

end Under

/-- Every dataset of quads that a document can carry is the result of a document: of one with a
node object for each quad. The quads come back in order, with the labels of their blank nodes
replaced one for one. -/
theorem quadsOf_datasetJson {quads : List Quad} (h : ∀ q ∈ quads, IsCarriable q) :
    ∃ f : String → String, Function.Injective f ∧
      quadsOf none [datasetJson quads] = .ok (quads.map (Quad.rename f)) := by
  have hdocument : Says (documentAccount 0 (datasetJson quads)) (quads.map (abstractQuad 0)) :=
    says_datasetJson h 0
  obtain ⟨c, ⟨-, qs, hqs, hnames⟩, hends⟩ := convert_adds 0 (datasetJson quads) {}
  rw [hdocument.faultless] at hends
  have hrun : (convertDocument none (datasetJson quads)).run {} = .ok () c := by
    rw [run_convertDocument_of_ok (expand_datasetJson h), hends]
  have hstated : statedBy 0 (datasetJson quads) = quads.map (abstractQuad 0) := by
    rw [statedBy, stated_before hdocument.faultless, hdocument.said]
  rw [hstated] at hnames
  have hlabel : ∀ o s, Issued 0 (blankNodesOf 0 (datasetJson quads)) o s →
      s = nameAmong (blankNodesOf 0 (datasetJson quads)) o := by
    intro o s hs
    rw [nameAmong, if_pos hs.mem, hs.eq_label (nodup_blankNodesOf 0 _), Nat.zero_add]
  -- The label of a blank node is its position among those issued, in the order they are met.
  refine ⟨_, nameAmong_injective 0 (blankNodesOf 0 (datasetJson quads)), ?_⟩
  have hquads : c.quads = qs := hqs
  rw [quadsOf, run_cons_of_ok [] hrun]
  show Except.ok c.quads = _
  rw [hquads, eq_map_of_names hlabel hnames, List.map_map]
  exact congrArg Except.ok (List.map_congr_left fun q _ => abstractQuad_under 0 _ q)

/-! ## A dataset of two graphs -/

/-- Two people know each other, one has a name in a language, and the other one an age in a
graph of its own. -/
def acquaintances : List Quad :=
  [{ subject := .blank "b1", predicate := "http://a.b/knows", object := .node (.blank "b0") },
    { subject := .blank "b0", predicate := "urn:name",
      object := .literal (.tagged "Ada" "en") },
    { subject := .blank "b1", predicate := "http://a.b/age",
      object := .literal (.typed "36" xsdInteger), graph := some (.iri "http://a.b/ages") }]

theorem quadsOf_acquaintances :
    ∃ f : String → String, Function.Injective f ∧
      quadsOf none [datasetJson acquaintances] = .ok (acquaintances.map (Quad.rename f)) := by
  have hknows : IsCarriablePredicate "http://a.b/knows" :=
    Or.inl ⟨⟨"http".toList, "//a.b/knows".toList, by decide, by decide⟩,
      occursIn_iff.mp (by decide)⟩
  have hname : IsCarriablePredicate "urn:name" := Or.inr (by decide)
  have hage : IsCarriablePredicate "http://a.b/age" :=
    Or.inl ⟨⟨"http".toList, "//a.b/age".toList, by decide, by decide⟩,
      occursIn_iff.mp (by decide)⟩
  have hages : IsCarriableNode (.iri "http://a.b/ages") := by
    show ¬ "_:".toList <+: "http://a.b/ages".toList
    decide
  apply quadsOf_datasetJson
  intro q hq
  simp only [acquaintances, List.mem_cons, List.not_mem_nil, or_false] at hq
  rcases hq with rfl | rfl | rfl
  · exact ⟨trivial, hknows, trivial, nofun⟩
  · exact ⟨trivial, hname, fun _ => rfl, nofun⟩
  · refine ⟨trivial, hage, fun hne => absurd rfl hne, ?_⟩
    intro g hg
    cases hg
    exact hages

end LinkedData.JsonLd
