import LinkedData.Proofs.JsonLd.Generated
import Mathlib.Data.List.Basic

/-!
# LinkedData.Proofs.JsonLd.BlankNode -- blank nodes of documents taken in one after another

A converter takes in documents and goes on after those that fail. Its quads are then what the
documents say under labels of their blank nodes, and two blank nodes have one label exactly
when they stand for the same thing: for one written label of one document, for one node
object, or for one cell of a list.
-/

namespace LinkedData.JsonLd

open LinkedData.Rdf

/-! ## Quads under labels -/

section Under

/-- A node under labels of its blank nodes. -/
def AbstractNode.under (label : Origin → String) : AbstractNode → Node
  | .iri i => .iri i
  | .blank o => .blank (label o)

/-- A term under labels of its blank nodes. -/
def AbstractTerm.under (label : Origin → String) : AbstractTerm → Term
  | .node n => .node (n.under label)
  | .literal l => .literal l

/-- A quad under labels of its blank nodes. -/
def AbstractQuad.under (label : Origin → String) (a : AbstractQuad) : Quad where
  subject := a.subject.under label
  predicate := a.predicate
  object := a.object.under label
  graph := a.graph.map (AbstractNode.under label)

/-- The blank node that a node is. -/
def AbstractNode.origins : AbstractNode → List Origin
  | .iri _ => []
  | .blank o => [o]

/-- The blank node that a term is. -/
def AbstractTerm.origins : AbstractTerm → List Origin
  | .node n => n.origins
  | .literal _ => []

/-- The blank nodes of a quad. -/
def AbstractQuad.origins (a : AbstractQuad) : List Origin :=
  a.subject.origins ++ a.object.origins ++ (a.graph.map AbstractNode.origins).getD []

variable {R : Naming} {label : Origin → String}

theorem AbstractNode.Names.eq_under (h : ∀ o s, R o s → s = label o) {a : AbstractNode}
    {n : Node} (ha : a.Names R n) : n = a.under label := by
  cases ha with
  | iri i => rfl
  | blank ho => exact congrArg Node.blank (h _ _ ho)

theorem AbstractTerm.Names.eq_under (h : ∀ o s, R o s → s = label o) {a : AbstractTerm}
    {t : Term} (ha : a.Names R t) : t = a.under label := by
  cases ha with
  | node hn => exact congrArg Term.node (hn.eq_under h)
  | literal l => rfl

theorem AbstractQuad.Names.eq_under (h : ∀ o s, R o s → s = label o) {a : AbstractQuad}
    {q : Quad} (ha : a.Names R q) : q = a.under label := by
  obtain ⟨hsubject, hpredicate, hobject, hgraph⟩ := ha
  obtain ⟨subject, predicate, object, graph⟩ := q
  have hsubject' := hsubject.eq_under h
  have hobject' := hobject.eq_under h
  have hgraph' : graph = a.graph.map (AbstractNode.under label) := by
    generalize a.graph = g at hgraph
    cases hgraph with
    | none => rfl
    | some hn => exact congrArg some (hn.eq_under h)
  subst hsubject' hpredicate hobject' hgraph'
  rfl

theorem AbstractNode.Names.named {a : AbstractNode} {n : Node} (ha : a.Names R n) :
    ∀ o ∈ a.origins, ∃ s, R o s := by
  intro o ho
  cases ha with
  | iri i => cases ho
  | blank hs =>
    rw [List.mem_singleton.mp ho]
    exact ⟨_, hs⟩

theorem AbstractQuad.Names.named {a : AbstractQuad} {q : Quad} (ha : a.Names R q) :
    ∀ o ∈ a.origins, ∃ s, R o s := by
  intro o ho
  obtain ⟨hsubject, -, hobject, hgraph⟩ := ha
  obtain ⟨subject, predicate, object, graph⟩ := q
  rcases List.mem_append.mp ho with ho | ho
  · rcases List.mem_append.mp ho with ho | ho
    · exact hsubject.named o ho
    · generalize a.object = t at hobject ho
      cases hobject with
      | node hn => exact hn.named o ho
      | literal l => cases ho
  · generalize a.graph = g at hgraph ho
    cases hgraph with
    | none => cases ho
    | some hn => exact hn.named o ho

end Under

/-! ## Labels -/

/-- Different numbers have different labels. -/
theorem label_inj {m n : Nat} : Converter.label m = Converter.label n ↔ m = n := by
  constructor
  · intro h
    have hrepr : m.repr = n.repr := (String.append_right_inj "b").mp h
    have hdigits : Nat.toDigits 10 m = Nat.toDigits 10 n := by
      rw [← Nat.toList_repr, ← Nat.toList_repr, hrepr]
    rw [← Nat.ofDigitChars_toDigits (b := 10) (n := m) (by decide) (by decide), hdigits,
      Nat.ofDigitChars_toDigits (by decide) (by decide)]
  · rintro rfl
    rfl

/-- In a list of different blank nodes, the position of a blank node gives its label. -/
theorem Issued.eq_label {k : Nat} {os : List Origin} (hos : os.Nodup) {o : Origin} {s : String}
    (h : Issued k os o s) : s = Converter.label (k + os.idxOf o) := by
  obtain ⟨n, hn, rfl⟩ := h
  obtain ⟨hlt, rfl⟩ := List.getElem?_eq_some_iff.mp hn
  rw [hos.idxOf_getElem n hlt]

theorem Issued.mem {k : Nat} {os : List Origin} {o : Origin} {s : String}
    (h : Issued k os o s) : o ∈ os := by
  obtain ⟨n, hn, -⟩ := h
  exact List.mem_of_getElem? hn

/-- What was issued after some blank nodes was issued among all of them. -/
theorem Issued.after {k : Nat} {os os' : List Origin} {o : Origin} {s : String}
    (h : Issued (k + os.length) os' o s) : Issued k (os ++ os') o s := by
  obtain ⟨n, hn, rfl⟩ := h
  refine ⟨os.length + n, ?_, by rw [Nat.add_assoc]⟩
  rw [List.getElem?_append_right (Nat.le_add_right ..), Nat.add_sub_cancel_left, hn]

/-! ## Documents one after another -/

/-- A converter after a computation, whether or not it failed. -/
def after (x : Convert Unit) (c : Converter) : Converter :=
  match x.run c with
  | .ok _ c' => c'
  | .error _ c' => c'

/-- A converter after all of some documents; those that fail leave what they have done. -/
def takeIn (documents : List Json) (c : Converter) : Converter :=
  documents.foldl (fun c document => after (Converter.convert document) c) c

/-- What documents say, the first of which has number `m`. -/
def saidBy (m : Nat) (documents : List Json) : List AbstractQuad :=
  (documents.zipIdx m).flatMap fun p => statedBy p.2 p.1

/-- The blank nodes of documents, the first of which has number `m`. -/
def blankNodesIn (m : Nat) (documents : List Json) : List Origin :=
  (documents.zipIdx m).flatMap fun p => blankNodesOf p.2 p.1

theorem saidBy_cons (m : Nat) (document : Json) (rest : List Json) :
    saidBy m (document :: rest) = statedBy m document ++ saidBy (m + 1) rest := rfl

theorem blankNodesIn_cons (m : Nat) (document : Json) (rest : List Json) :
    blankNodesIn m (document :: rest) = blankNodesOf m document ++ blankNodesIn (m + 1) rest :=
  rfl

theorem after_adds (d : Nat) (document : Json) (c : Converter) :
    Adds d document c (after (Converter.convert document) c) := by
  obtain ⟨c', hadds, hrun⟩ := convert_adds d document c
  rw [after]
  cases hfault : (documentAccount d document).fault? with
  | none =>
    rw [hfault] at hrun
    rw [hrun]
    exact hadds
  | some e =>
    rw [hfault] at hrun
    rw [hrun]
    exact hadds

/-- A run of documents issues their blank nodes and states their quads in order. -/
theorem takeIn_adds (m : Nat) (documents : List Json) (c : Converter) :
    (takeIn documents c).issued = c.issued + (blankNodesIn m documents).length ∧
      ∃ qs, (takeIn documents c).quads = c.quads ++ qs ∧
        List.Forall₂ (AbstractQuad.Names (Issued c.issued (blankNodesIn m documents)))
          (saidBy m documents) qs := by
  induction documents generalizing m c with
  | nil => exact ⟨rfl, [], (List.append_nil _).symm, .nil⟩
  | cons document rest ih =>
    obtain ⟨hissued, qs, hqs, hnames⟩ := after_adds m document c
    obtain ⟨hissued', qs', hqs', hnames'⟩ := ih (m + 1) (after (Converter.convert document) c)
    rw [hissued] at hissued' hnames'
    rw [hqs] at hqs'
    rw [blankNodesIn_cons, saidBy_cons]
    refine ⟨?_, qs ++ qs', ?_, ?_⟩
    · rw [List.length_append, ← Nat.add_assoc]
      exact hissued'
    · rw [← List.append_assoc]
      exact hqs'
    · refine List.rel_append (hnames.imp fun _ _ hq => ?_) (hnames'.imp fun _ _ hq => ?_)
      · exact hq.mono fun _ _ => Issued.mono (List.prefix_append _ _)
      · exact hq.mono fun _ _ => Issued.after

/-- Blank nodes of different documents are different. -/
theorem nodup_blankNodesIn (m : Nat) (documents : List Json) :
    (blankNodesIn m documents).Nodup := by
  rw [blankNodesIn, List.nodup_flatMap]
  constructor
  · rintro ⟨document, d⟩ -
    exact nodup_blankNodesOf d document
  · have hnumbers : ((documents.zipIdx m).map Prod.snd).Nodup := by
      rw [List.zipIdx_map_snd]
      exact List.nodup_range'
    refine (List.pairwise_map.mp hnumbers).imp ?_
    rintro ⟨document, d⟩ ⟨document', d'⟩ hne o ho ho'
    apply hne
    rw [← document_of_mem_blankNodesOf ho, ← document_of_mem_blankNodesOf ho']

/-- Names that determine the label of each blank node give the quads. -/
theorem eq_map_of_names {R : Naming} {label : Origin → String} {said : List AbstractQuad}
    {qs : List Quad} (hlabel : ∀ o s, R o s → s = label o)
    (h : List.Forall₂ (AbstractQuad.Names R) said qs) :
    qs = said.map (AbstractQuad.under label) := by
  induction h with
  | nil => rfl
  | cons hq _ ih => rw [List.map_cons, ← ih, ← hq.eq_under hlabel]

section Numbered

variable {k : Nat} {os : List Origin} {said : List AbstractQuad} {qs : List Quad}

theorem eq_map_under (hos : os.Nodup)
    (h : List.Forall₂ (AbstractQuad.Names (Issued k os)) said qs) :
    qs = said.map (AbstractQuad.under fun o => Converter.label (k + os.idxOf o)) :=
  eq_map_of_names (fun _ _ h => h.eq_label hos) h

theorem mem_of_mem_origins (h : List.Forall₂ (AbstractQuad.Names (Issued k os)) said qs) :
    ∀ o ∈ said.flatMap AbstractQuad.origins, o ∈ os := by
  induction h with
  | nil => exact nofun
  | cons hq _ ih =>
    intro o ho
    rw [List.flatMap_cons] at ho
    rcases List.mem_append.mp ho with ho | ho
    · obtain ⟨s, hs⟩ := hq.named o ho
      exact hs.mem
    · exact ih o ho

end Numbered

/-- The quads after any documents are what the documents say, under labels issued from the
counter, and two blank nodes that occur in them have the same label exactly when they stand
for the same written label of the same document, or for the same node object or cell. -/
theorem same_label_iff_same_origin (documents : List Json) :
    ∃ number : Origin → Nat,
      (takeIn documents {}).quads =
          (saidBy 0 documents).map (AbstractQuad.under fun o => Converter.label (number o)) ∧
        (∀ o ∈ (saidBy 0 documents).flatMap AbstractQuad.origins,
          number o < (takeIn documents {}).issued) ∧
        ∀ o ∈ (saidBy 0 documents).flatMap AbstractQuad.origins,
          ∀ o' ∈ (saidBy 0 documents).flatMap AbstractQuad.origins,
            Converter.label (number o) = Converter.label (number o') ↔ o = o' := by
  obtain ⟨hissued, qs, hqs, hnames⟩ := takeIn_adds 0 documents {}
  have hmem := mem_of_mem_origins hnames
  refine ⟨fun o => 0 + (blankNodesIn 0 documents).idxOf o, ?_, ?_, ?_⟩
  · rw [hqs]
    exact eq_map_under (nodup_blankNodesIn 0 documents) hnames
  · intro o ho
    rw [hissued]
    exact Nat.add_lt_add_left (List.idxOf_lt_length_iff.mpr (hmem o ho)) 0
  · intro o ho o' _
    rw [label_inj, Nat.add_left_cancel_iff]
    exact List.idxOf_inj (hmem o ho)

/-- The label `b0` that a document writes is not the blank node that was issued first. -/
example :
    (takeIn [.array [.object
      [("http://a.b/knows", .array [.object [("@id", .string "_:b0")]])]]] {}).quads =
      [{ subject := .blank "b0", predicate := "http://a.b/knows",
         object := .node (.blank "b1"), graph := none }] := by
  rfl

end LinkedData.JsonLd
