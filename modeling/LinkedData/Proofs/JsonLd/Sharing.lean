import LinkedData.JsonLd.Document
import LinkedData.Proofs.JsonLd.BlankNode

/-!
# LinkedData.Proofs.JsonLd.Sharing -- documents that share a converter

A document says the same whatever converter takes it in; only the numbers of its blank nodes
count on from those issued before. So the quads of documents that share a converter are those
of each document alone, one after another, with the numbers moved on.
-/

namespace LinkedData.JsonLd

open LinkedData.Rdf

/-! ## Moving numbers on -/

/-- A node whose number, if it is a blank node, is moved on by `n`. -/
inductive NodeShift (n : Nat) : Node → Node → Prop
  | iri (i : Iri) : NodeShift n (.iri i) (.iri i)
  | blank (m : Nat) :
      NodeShift n (.blank (Converter.label m)) (.blank (Converter.label (m + n)))

/-- A term whose number, if it is a blank node, is moved on by `n`. -/
inductive TermShift (n : Nat) : Term → Term → Prop
  | node {a b : Node} : NodeShift n a b → TermShift n (.node a) (.node b)
  | literal (l : Literal) : TermShift n (.literal l) (.literal l)

/-- A quad in which the numbers of blank nodes are moved on by `n`. -/
structure QuadShift (n : Nat) (p q : Quad) : Prop where
  subject : NodeShift n p.subject q.subject
  predicate : p.predicate = q.predicate
  object : TermShift n p.object q.object
  graph : Option.Rel (NodeShift n) p.graph q.graph

/-- Quads in the same order, in which the numbers of blank nodes are moved on by `n`. -/
abbrev GraphShift (n : Nat) : Graph → Graph → Prop :=
  List.Forall₂ (QuadShift n)

section Shift

variable {n : Nat} {os : List Origin}

theorem AbstractNode.Names.shift (hos : os.Nodup) {a : AbstractNode} {x y : Node}
    (hx : a.Names (Issued 0 os) x) (hy : a.Names (Issued n os) y) : NodeShift n x y := by
  cases hx with
  | iri i =>
    cases hy
    exact .iri i
  | blank hs =>
    cases hy with
    | blank ht =>
      rw [hs.eq_label hos, ht.eq_label hos, Nat.zero_add, Nat.add_comm n]
      exact .blank _

theorem AbstractTerm.Names.shift (hos : os.Nodup) {a : AbstractTerm} {x y : Term}
    (hx : a.Names (Issued 0 os) x) (hy : a.Names (Issued n os) y) : TermShift n x y := by
  cases hx with
  | literal l =>
    cases hy
    exact .literal l
  | node hs =>
    cases hy with
    | node ht => exact .node (hs.shift hos ht)

/-- One quad, under the labels of two converters. -/
theorem AbstractQuad.Names.shift (hos : os.Nodup) {a : AbstractQuad} {p q : Quad}
    (hp : a.Names (Issued 0 os) p) (hq : a.Names (Issued n os) q) : QuadShift n p q := by
  refine ⟨hp.subject.shift hos hq.subject, hp.predicate.symm.trans hq.predicate,
    hp.object.shift hos hq.object, ?_⟩
  have hgraph := hp.graph
  have hgraph' := hq.graph
  generalize a.graph = g, p.graph = x, q.graph = y at hgraph hgraph'
  cases hgraph with
  | none =>
    cases hgraph'
    exact .none
  | some hs =>
    cases hgraph' with
    | some ht => exact .some (hs.shift hos ht)

theorem graphShift_of_names (hos : os.Nodup) {said : List AbstractQuad} {ps qs : Graph}
    (hp : List.Forall₂ (AbstractQuad.Names (Issued 0 os)) said ps)
    (hq : List.Forall₂ (AbstractQuad.Names (Issued n os)) said qs) : GraphShift n ps qs := by
  induction hp generalizing qs with
  | nil =>
    cases hq
    exact .nil
  | cons h _ ih =>
    cases hq with
    | cons h' hrest => exact .cons (h.shift hos h') (ih hrest)

end Shift

/-! ## Documents that convert -/

section Convert

variable {base : Option String} {document : Json} {c c' : Converter}

theorem run_convertDocument_of_ok {expanded : Json} (h : expand document base = .ok expanded) :
    (convertDocument base document).run c = (Converter.convert expanded).run c := by
  rw [convertDocument, h]

theorem run_convertDocument_of_error {e : Document.Error}
    (h : expand document base = .error e) : (convertDocument base document).run c = .error e c := by
  rw [convertDocument, h]
  rfl

theorem run_cons_of_ok (rest : List Json)
    (h : (convertDocument base document).run c = .ok () c') :
    (convertDocuments base (document :: rest)).run c = (convertDocuments base rest).run c' := by
  rw [convertDocuments, EStateM.run_bind, h]

theorem run_cons_of_error {e : Document.Error} (rest : List Json)
    (h : (convertDocument base document).run c = .error e c') :
    (convertDocuments base (document :: rest)).run c = .error e c' := by
  rw [convertDocuments, EStateM.run_bind, h]

/-- A document that converts alone. -/
theorem ok_of_quadsOf {graph : Graph} (h : quadsOf base [document] = .ok graph) :
    ∃ c, (convertDocument base document).run {} = .ok () c ∧ c.quads = graph := by
  rw [quadsOf] at h
  cases hrun : (convertDocument base document).run {} with
  | error e c =>
    rw [run_cons_of_error [] hrun] at h
    cases h
  | ok _ c =>
    rw [run_cons_of_ok [] hrun] at h
    injection h with h
    exact ⟨c, rfl, h⟩

/-- A document that converts alone converts into every converter, and adds the same quads
there with the numbers moved on. -/
theorem convertDocument_shift {graph : Graph} (h : quadsOf base [document] = .ok graph)
    (c : Converter) :
    ∃ c' part, (convertDocument base document).run c = .ok () c' ∧
      c'.quads = c.quads ++ part ∧ GraphShift c.issued graph part := by
  obtain ⟨c₀, hrun₀, rfl⟩ := ok_of_quadsOf h
  cases hexpand : expand document base with
  | error e =>
    rw [run_convertDocument_of_error hexpand] at hrun₀
    cases hrun₀
  | ok expanded =>
    rw [run_convertDocument_of_ok hexpand] at hrun₀
    rw [run_convertDocument_of_ok hexpand]
    obtain ⟨c₁, hadds₁, hends₁⟩ := convert_adds 0 expanded {}
    obtain ⟨c', hadds, hends⟩ := convert_adds 0 expanded c
    cases hfault : (documentAccount 0 expanded).fault? with
    | some e =>
      rw [hfault, hrun₀] at hends₁
      cases hends₁
    | none =>
      rw [hfault] at hends
      rw [hfault, hrun₀] at hends₁
      cases hends₁
      -- Both converters state the quads of the one account, each under its own labels.
      obtain ⟨part₀, hpart₀, hnames₀⟩ := hadds₁.quads
      obtain ⟨part, hpart, hnames⟩ := hadds.quads
      refine ⟨c', part, hends, hpart, ?_⟩
      rw [hpart₀]
      exact graphShift_of_names (nodup_blankNodesOf 0 expanded) hnames₀ hnames

end Convert

/-- The number of blank nodes issued for documents that a converter takes in. -/
def issuedBy (base : Option String) (documents : List Json) (c : Converter) : Nat :=
  (after (convertDocuments base documents) c).issued

/-- Documents that convert alone convert one after another into any converter; every one adds
its own quads, with the numbers moved on by what was issued before it. -/
theorem convertDocuments_shift {base : Option String} {documents : List Json}
    {graphs : List Graph}
    (h : List.Forall₂ (fun document graph => quadsOf base [document] = .ok graph)
      documents graphs) (c : Converter) :
    ∃ (c' : Converter) (parts : List Graph),
      (convertDocuments base documents).run c = .ok () c' ∧
      c'.quads = c.quads ++ parts.flatten ∧ parts.length = graphs.length ∧
        ∀ i graph part, graphs[i]? = some graph → parts[i]? = some part →
          GraphShift (issuedBy base (documents.take i) c) graph part := by
  induction h generalizing c with
  | nil => exact ⟨c, [], rfl, (List.append_nil _).symm, rfl, nofun⟩
  | @cons document graph rest graphs hdocument _ ih =>
    obtain ⟨c₁, first, hrun, hquads, hfirst⟩ := convertDocument_shift hdocument c
    obtain ⟨c', parts, hrun', hquads', hlen, hparts⟩ := ih c₁
    refine ⟨c', first :: parts, ?_, ?_, ?_, ?_⟩
    · rw [run_cons_of_ok rest hrun, hrun']
    · rw [hquads', hquads, List.flatten_cons, List.append_assoc]
    · rw [List.length_cons, List.length_cons, hlen]
    · intro i g part hg hpart
      cases i with
      | zero =>
        cases hg
        cases hpart
        exact hfirst
      | succ i =>
        -- What was issued before a later document counts on from the first one.
        have hissued : issuedBy base ((document :: rest).take (i + 1)) c =
            issuedBy base (rest.take i) c₁ := by
          rw [issuedBy, issuedBy, after, after, List.take_succ_cons, run_cons_of_ok _ hrun]
        rw [hissued]
        exact hparts i g part hg hpart

/-- The quads of documents that share a converter are those of each document alone, in order,
in which the numbers of blank nodes are moved on by the number issued for the documents
before it. -/
theorem quadsOf_shared {base : Option String} {documents : List Json} {graphs : List Graph}
    (h : List.Forall₂ (fun document graph => quadsOf base [document] = .ok graph)
      documents graphs) :
    ∃ parts : List Graph, quadsOf base documents = .ok parts.flatten ∧
      parts.length = graphs.length ∧
        ∀ i graph part, graphs[i]? = some graph → parts[i]? = some part →
          GraphShift (issuedBy base (documents.take i) {}) graph part := by
  obtain ⟨c', parts, hrun, hquads, hlen, hparts⟩ := convertDocuments_shift h {}
  refine ⟨parts, ?_, hlen, hparts⟩
  rw [quadsOf, hrun]
  exact congrArg Except.ok hquads

/-! ## Two documents -/

/-- Someone without an identifier knows the node that the document labels `x`. -/
def acquaintance : Json :=
  .object [("http://a.b/knows", .object [("@id", .string "_:x")])]

/-- Another node that is labelled `x` has a name. -/
def named : Json :=
  .object [("@id", .string "_:x"), ("http://a.b/name", .string "Ada")]

/-- Both documents write the label `x`, and both alone use the label `b0`. -/
theorem quadsOf_acquaintance_named :
    ∃ parts : List Graph, quadsOf none [acquaintance, named] = .ok parts.flatten ∧
      parts.length = 2 ∧
        ∀ i graph part,
          [[{ subject := .blank "b0", predicate := "http://a.b/knows",
              object := .node (.blank "b1"), graph := none }],
            [{ subject := .blank "b0", predicate := "http://a.b/name",
               object := .literal (.typed "Ada" xsdString), graph := none }]][i]? =
              some graph →
            parts[i]? = some part →
              GraphShift (issuedBy none ([acquaintance, named].take i) {}) graph part :=
  quadsOf_shared (.cons rfl (.cons rfl .nil))

end LinkedData.JsonLd
