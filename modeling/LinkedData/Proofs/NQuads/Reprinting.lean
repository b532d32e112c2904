import LinkedData.Proofs.NQuads.LineByLine
import LinkedData.Proofs.NQuads.RoundTrip
import LinkedData.Proofs.NQuads.Spelling

/-!
# LinkedData.Proofs.NQuads.Reprinting -- writing what was read

A graph that was read can be written again, but for its IRIs. Labels, language tags and values of
literals come back whatever they were spelled as, since a label or a tag cannot be escaped and every
value is escaped where it must be. An IRI is written as it is. A character that ends an IRI, breaks
it or escapes another one can therefore not stand in the written form; it can stand in what was
read, as an escape in an IRI may name any character.
-/

namespace LinkedData.Rdf

/-! ## The IRIs of a quad -/

/-- The characters that no IRI can be written with. -/
def reserved : List Char :=
  ['>', '<', '"', '\\', ' ', '\n']

theorem isPlainIri_iff {i : Iri} : IsPlainIri i ↔ ∀ c ∈ i.toList, c ∉ reserved := by
  simp [IsPlainIri, reserved]

/-- The IRIs in a node. -/
def Node.iris : Node → List Iri
  | .iri i => [i]
  | .blank _ => []

/-- The IRIs in a term. -/
def Term.iris : Term → List Iri
  | .node n => n.iris
  | .literal l => [l.datatype]

/-- The IRIs in the name of a graph. -/
def graphIris : Option Node → List Iri
  | none => []
  | some n => n.iris

/-- The IRIs in a quad. -/
def Quad.iris (q : Quad) : List Iri :=
  q.subject.iris ++ q.predicate :: (q.object.iris ++ graphIris q.graph)

end LinkedData.Rdf

namespace LinkedData.NQuads

open LinkedData.Rdf LinkedData.Text

/-! ## What is read can be written but for its IRIs -/

section Writable

variable {cs rest : List Char}

theorem literal_representable_iff {l : Literal} (h : literal cs = .ok (l, rest)) :
    l.Representable ↔ IsPlainIri l.datatype := by
  refine ⟨Literal.Representable.datatype, fun hdatatype => ⟨hdatatype, ?_⟩⟩
  obtain ⟨_, value, after, -, -, hsuffix⟩ := literal_eq_ok_iff.mp h
  rcases literalSuffix_eq_ok hsuffix with ⟨tag, rfl, -, hnonempty, hchars⟩ | ⟨_, _, rfl, -⟩ |
    ⟨rfl, -⟩
  · rintro tag ⟨⟩
    exact ⟨⟨hnonempty, hchars⟩, rfl⟩
  · rintro tag ⟨⟩
  · rintro tag ⟨⟩

theorem term_representable_iff {t : Term} (h : term cs = .ok (t, rest)) :
    t.Representable ↔ ∀ i ∈ t.iris, IsPlainIri i := by
  rcases term_eq_ok_iff.mp h with ⟨i, rfl, -⟩ | ⟨label, rfl, hlabel⟩ | ⟨l, rfl, hl⟩
  · show IsPlainIri i ↔ ∀ j ∈ [i], IsPlainIri j
    exact List.forall_mem_singleton.symm
  · obtain ⟨-, hnonempty, hchars, hlast, -⟩ := blankNode_eq_ok hlabel
    exact ⟨fun _ => nofun, fun _ => ⟨hnonempty, hchars, hlast⟩⟩
  · exact (literal_representable_iff hl).trans List.forall_mem_singleton.symm

theorem graphName_representable_iff {g : Option Node} (h : graphName cs = .ok (g, rest)) :
    (∀ n, g = some n → n.Representable) ↔ ∀ i ∈ graphIris g, IsPlainIri i := by
  unfold graphName at h
  split at h
  · cases h
    exact ⟨fun _ => nofun, fun _ => nofun⟩
  · simp only [bind_eq_ok_iff, Prod.exists, pure_eq_ok_iff, node_eq_ok_iff, Prod.mk.injEq] at h
    obtain ⟨n, _, hn, rfl, -⟩ := h
    refine Iff.trans ?_ (term_representable_iff hn)
    exact ⟨fun h => h n rfl, fun h _ heq => Option.some.inj heq ▸ h⟩

/-- A quad that was read can be written exactly when its IRIs can. -/
theorem statement_representable_iff {line : List Char} {q : Quad} (h : statement line = .ok q) :
    q.Representable ↔ ∀ i ∈ q.iris, IsPlainIri i := by
  simp only [statement, bind_eq_ok_iff, Prod.exists, pure_eq_ok_iff, node_eq_ok_iff] at h
  obtain ⟨subject, _, hs, predicate, _, -, object, _, ho, graph, _, hg, -, -, -, -, rfl⟩ := h
  have hsubject := term_representable_iff hs
  have hobject := term_representable_iff ho
  have hgraph := graphName_representable_iff hg
  simp only [Quad.iris, List.forall_mem_append, List.forall_mem_cons]
  constructor
  · intro hq
    exact ⟨hsubject.mp hq.subject, hq.predicate, hobject.mp hq.object, hgraph.mp hq.graph⟩
  · rintro ⟨hsubjects, hpredicate, hobjects, hgraphs⟩
    exact ⟨hsubject.mpr hsubjects, hpredicate, hobject.mpr hobjects, hgraph.mpr hgraphs⟩

end Writable

/-! ## Where reserved characters come from -/

/-- An escape in a text names a character. -/
def EscapedIn (text : List Char) (c : Char) : Prop :=
  ∃ written, CodeEscape written c ∧ '\\' :: written <:+: text

theorem EscapedIn.mono {cs text : List Char} {c : Char} (h : EscapedIn cs c) (hcs : cs <:+: text) :
    EscapedIn text c := by
  obtain ⟨written, hwritten, hwithin⟩ := h
  exact ⟨written, hwritten, hwithin.trans hcs⟩

/-- What a reader leaves of a text on one line is the end of it, and in the IRIs that it read every
reserved character was escaped. -/
structure ReadsIris (cs rest : List Char) (iris : List Iri) : Prop where
  left : rest <:+ cs
  escaped : '\n' ∉ cs → ∀ i ∈ iris, ∀ c ∈ i.toList, c ∈ reserved → EscapedIn cs c

namespace ReadsIris

variable {cs rest after : List Char} {iris more : List Iri}

theorem nothing (h : rest <:+ cs) : ReadsIris cs rest [] :=
  ⟨h, fun _ => nofun⟩

/-- One reader after another. -/
theorem append (h : ReadsIris cs rest iris) (hmore : ReadsIris rest after more) :
    ReadsIris cs after (iris ++ more) := by
  refine ⟨hmore.left.trans h.left, fun hline => List.forall_mem_append.mpr ⟨h.escaped hline, ?_⟩⟩
  intro i hi c hc hreserved
  have hrest : '\n' ∉ rest := fun hmem => hline (h.left.subset hmem)
  exact (hmore.escaped hrest i hi c hc hreserved).mono h.left.isInfix

end ReadsIris

section Readers

variable {cs rest : List Char}

/-- What follows a delimited text is the end of the whole. -/
theorem suffix_delimited (opening closing : Char) (written rest : List Char) :
    rest <:+ opening :: (written ++ closing :: rest) :=
  ((List.suffix_cons closing rest).trans (List.suffix_append _ _)).trans (List.suffix_cons _ _)

theorem readsIris_skipSpace (cs : List Char) : ReadsIris cs (skipSpace cs) [] :=
  .nothing (List.dropWhile_suffix _)

/-- The characters that stand for themselves in an IRI are not reserved; only the line feed is kept
out by the line. -/
theorem Spelled.escapedIn {written text : List Char}
    (h : Spelled IsRawInIri NumericEscape written text) (hline : '\n' ∉ written) :
    ∀ c ∈ text, c ∈ reserved → EscapedIn written c := by
  induction h with
  | nil => exact nofun
  | @raw c written text hraw _ ih =>
    rw [List.mem_cons, not_or] at hline
    refine List.forall_mem_cons.mpr ⟨fun hreserved => absurd hreserved ?_, fun d hd hreserved => ?_⟩
    · obtain ⟨hclose, hescape, hspace, hopen, hquote⟩ := hraw
      simp [reserved, hclose, hescape, hspace, hopen, hquote, Ne.symm hline.1]
    · exact (ih hline.2 d hd hreserved).mono (List.suffix_cons c written).isInfix
  | @escaped e c written text he _ ih =>
    have hrest : '\n' ∉ written := fun hmem => hline (List.mem_append_right _ hmem)
    refine List.forall_mem_cons.mpr ⟨fun _ => ?_, fun d hd hreserved => ?_⟩
    · exact ⟨e, numericEscape_iff.mp he, (List.prefix_append _ _).isInfix⟩
    · exact (ih hrest d hd hreserved).mono (List.suffix_append _ _).isInfix

theorem readsIris_iri {i : Iri} (h : iri cs = .ok (i, rest)) : ReadsIris cs rest [i] := by
  obtain ⟨written, hwritten, rfl⟩ := iri_eq_ok_iff.mp h
  have hinside : written <:+: '<' :: (written ++ '>' :: rest) :=
    (List.prefix_append _ _).isInfix.trans (List.suffix_cons _ _).isInfix
  refine ⟨suffix_delimited _ _ _ _, fun hline => List.forall_mem_singleton.mpr ?_⟩
  intro c hc hreserved
  have hwrittenLine : '\n' ∉ written := fun hmem => hline (hinside.subset hmem)
  exact (hwritten.escapedIn hwrittenLine c hc hreserved).mono hinside

/-- The datatypes that a literal has without naming them are plain. -/
theorem readsIris_datatype (hleft : rest <:+ cs) {i : Iri} (hi : IsPlainIri i) :
    ReadsIris cs rest [i] :=
  ⟨hleft, fun _ => List.forall_mem_singleton.mpr fun c hc hreserved =>
    absurd hreserved (isPlainIri_iff.mp hi c hc)⟩

theorem readsIris_literal {l : Literal} (h : literal cs = .ok (l, rest)) :
    ReadsIris cs rest [l.datatype] := by
  obtain ⟨written, value, after, -, rfl, hsuffix⟩ := literal_eq_ok_iff.mp h
  have hafter : after <:+ '"' :: (written ++ '"' :: after) := suffix_delimited _ _ _ _
  rcases literalSuffix_eq_ok hsuffix with ⟨tag, rfl, rfl, -⟩ | ⟨datatype, text, rfl, rfl, hiri⟩ |
    ⟨rfl, rfl⟩
  · have hrest : rest <:+ '@' :: (tag.toList ++ rest) :=
      (List.suffix_append _ _).trans (List.suffix_cons _ _)
    exact readsIris_datatype (hrest.trans hafter) isPlainIri_rdfLangString
  · have htext : text <:+ '^' :: '^' :: text :=
      (List.suffix_cons _ _).trans (List.suffix_cons _ _)
    exact (ReadsIris.nothing (htext.trans hafter)).append (readsIris_iri hiri)
  · exact readsIris_datatype hafter isPlainIri_xsdString

theorem readsIris_term {t : Term} (h : term cs = .ok (t, rest)) : ReadsIris cs rest t.iris := by
  rcases term_eq_ok_iff.mp h with ⟨i, rfl, hi⟩ | ⟨label, rfl, hlabel⟩ | ⟨l, rfl, hl⟩
  · exact readsIris_iri hi
  · obtain ⟨rfl, -⟩ := blankNode_eq_ok hlabel
    have hrest : rest <:+ '_' :: ':' :: (label.toList ++ rest) :=
      ((List.suffix_append _ _).trans (List.suffix_cons _ _)).trans (List.suffix_cons _ _)
    exact .nothing hrest
  · exact readsIris_literal hl

theorem readsIris_graphName {g : Option Node} (h : graphName cs = .ok (g, rest)) :
    ReadsIris cs rest (graphIris g) := by
  unfold graphName at h
  split at h
  · cases h
    exact .nothing (List.suffix_refl _)
  · simp only [bind_eq_ok_iff, Prod.exists, pure_eq_ok_iff, node_eq_ok_iff, Prod.mk.injEq] at h
    obtain ⟨n, after, hn, rfl, rfl⟩ := h
    have hread := (readsIris_term hn).append (readsIris_skipSpace after)
    rwa [List.append_nil] at hread

/-- What a statement holds in its IRIs that cannot be written was escaped on its line. -/
theorem escapedIn_of_statement {line : List Char} {q : Quad} (h : statement line = .ok q)
    (hline : '\n' ∉ line) : ∀ i ∈ q.iris, ∀ c ∈ i.toList, c ∈ reserved → EscapedIn line c := by
  simp only [statement, bind_eq_ok_iff, Prod.exists, pure_eq_ok_iff, node_eq_ok_iff] at h
  obtain ⟨subject, afterSubject, hs, predicate, afterPredicate, hp, object, afterObject, ho,
    graph, afterGraph, hg, -, -, -, -, rfl⟩ := h
  have hread := (((readsIris_term hs).append (readsIris_skipSpace afterSubject)).append
    ((readsIris_iri hp).append (readsIris_skipSpace afterPredicate))).append
    (((readsIris_term ho).append (readsIris_skipSpace afterObject)).append
      (readsIris_graphName hg))
  have hiris : Quad.iris ⟨subject, predicate, object, graph⟩ =
      subject.iris ++ [] ++ ([predicate] ++ []) ++ (object.iris ++ [] ++ graphIris graph) := by
    simp [Quad.iris]
  rw [hiris]
  exact hread.escaped hline

end Readers

/-! ## Documents -/

/-- The lines that are read one by one are stretches of the text without a line feed. -/
theorem isInfix_of_mem_statementLines {count : Nat} {cs : List Char} {line : List Char × Nat}
    (h : line ∈ statementLines count cs) : line.1 <:+: cs ∧ '\n' ∉ line.1 := by
  induction hlength : cs.length using Nat.strong_induction_on generalizing count cs with
  | _ length ih =>
    subst hlength
    have hfirst : (Lines.splitLine cs).1 <+: cs := List.takeWhile_prefix _
    have hrest : (Lines.splitLine cs).2 <:+ cs :=
      (List.drop_suffix _ _).trans (List.dropWhile_suffix _)
    have htrim := trim_isInfix (Lines.splitLine cs).1
    by_cases hne : cs = []
    · subst hne
      rw [statementLines_of_not_mem List.not_mem_nil] at h
      cases h
    rw [statementLines_splitLine, List.mem_append] at h
    rcases h with h | h
    · split at h
      · cases h
      · rw [List.mem_singleton.mp h]
        refine ⟨htrim.trans hfirst.isInfix, fun hmem => ?_⟩
        exact absurd (List.mem_takeWhile_imp (htrim.subset hmem)) (by decide)
    · obtain ⟨hwithin, hfeed⟩ := ih _ (Lines.splitLine_length hne) h rfl
      exact ⟨hwithin.trans hrest.isInfix, hfeed⟩

/-- Each quad of a document stands on a line of it. -/
theorem statement_of_mem {text : String} {g : Graph} (h : parse text = .ok g) {q : Quad}
    (hq : q ∈ g) : ∃ line, line <:+: text.toList ∧ '\n' ∉ line ∧ statement line = .ok q := by
  have hlines : readLines 0 text.toList = g.map .ok := by
    rw [← Lines.toList_eq_readLines, ← Arrivals.collect_eq_ok_iff]
    exact h
  have hread : .ok q ∈ (statementLines 0 text.toList).map readLine := by
    have hmem : .ok q ∈ readLines 0 text.toList := hlines ▸ List.mem_map_of_mem hq
    exact (Arrivals.upToFault_isPrefix _).subset hmem
  obtain ⟨line, hmem, hline⟩ := List.mem_map.mp hread
  obtain ⟨hwithin, hfeed⟩ := isInfix_of_mem_statementLines hmem
  refine ⟨line.1, hwithin, hfeed, ?_⟩
  rw [readLine] at hline
  cases hstatement : statement line.1 with
  | error fault =>
    rw [hstatement] at hline
    cases hline
  | ok q' =>
    rw [hstatement] at hline
    cases hline
    rfl

/-- A graph that was read from a document reads back from its written form exactly when no IRI in it
holds a reserved character: everything else that can be read can be written. A reserved character in
an IRI was escaped in the document. -/
theorem parse_written_iff_plain {text : String} {g : Graph} (h : parse text = .ok g) :
    (parse (String.ofList (Graph.chars g)) = .ok g ↔ ∀ q ∈ g, ∀ i ∈ q.iris, IsPlainIri i) ∧
      ∀ q ∈ g, ∀ i ∈ q.iris, ∀ c ∈ i.toList, c ∈ reserved → EscapedIn text.toList c := by
  refine ⟨?_, fun q hq i hi c hc hreserved => ?_⟩
  · rw [parse, Arrivals.collect_eq_ok_iff, Lines.ofText, String.toList_ofList, toList_written_iff]
    refine forall₂_congr fun q hq => ?_
    obtain ⟨line, -, -, hline⟩ := statement_of_mem h hq
    exact statement_representable_iff hline
  · obtain ⟨line, hwithin, hfeed, hline⟩ := statement_of_mem h hq
    exact (escapedIn_of_statement hline hfeed i hi c hc hreserved).mono hwithin

/-- A document with an escaped letter in an IRI, an escaped bracket in a value, and comments. -/
def escapedDocument : String :=
  "# note\n<http://a.b/\\u00e9> <http://a.b/p> \"\\u003E\"@en . # end"

/-- The document reads as one quad, which reads back from its written form. -/
theorem parse_written_escapedDocument :
    ∃ g, parse escapedDocument = .ok g ∧ (∀ q ∈ g, ∀ i ∈ q.iris, IsPlainIri i) ∧
      parse (String.ofList (Graph.chars g)) = .ok g := by
  let q : Quad :=
    { subject := .iri "http://a.b/é", predicate := "http://a.b/p",
      object := .literal (.tagged ">" "en") }
  have hread : parse escapedDocument = .ok [q] := by decide +kernel
  have hplain : ∀ q' ∈ [q], ∀ i ∈ q'.iris, IsPlainIri i := by
    simp [q, Quad.iris, Node.iris, Term.iris, graphIris, Literal.tagged, IsPlainIri, rdfLangString]
  exact ⟨[q], hread, hplain, (parse_written_iff_plain hread).1.mpr hplain⟩

/-- A bracket that an IRI holds as an escape is written as the bracket that closes the IRI. -/
theorem parse_written_bracket_fails :
    ∃ g, parse "<http://a.b/\\u003E> <http://a.b/p> <http://a.b/o> ." = .ok g ∧
      parse (String.ofList (Graph.chars g)) =
        .error { line := 1, fault := .expected '<' (some '>') } := by
  let q : Quad :=
    { subject := .iri "http://a.b/>", predicate := "http://a.b/p", object := .iri "http://a.b/o" }
  exact ⟨[q], by decide +kernel, by decide +kernel⟩

end LinkedData.NQuads
