import LinkedData.Proofs.NQuads.Grammar
import LinkedData.Proofs.NQuads.Lines
import LinkedData.Proofs.Text.Step
import LinkedData.Rdf.Written

/-!
# LinkedData.Proofs.NQuads.RoundTrip -- which graphs read back from their written form

A written quad is read back as itself exactly when it is `Representable`: its IRIs hold none
of the characters that end, break or escape an IRI, its labels are labels, and its language
tags are tags of texts in a language. Values of literals are free, as they are escaped.

That a quad is representable if it reads back needs the reader to be faithful to positions.
Whatever it reads from a prefix of the written form must be what is written there: an escape
takes more characters than it stands for, and the closing bracket comes too late for it.
-/

namespace LinkedData.Rdf

open LinkedData.NQuads

/-! ## What can be written -/

/-- An IRI with no character that ends it, breaks it or escapes another one. -/
def IsPlainIri (i : Iri) : Prop :=
  ∀ c ∈ i.toList, c ≠ '>' ∧ c ≠ '<' ∧ c ≠ '"' ∧ c ≠ '\\' ∧ c ≠ ' ' ∧ c ≠ '\n'

theorem isPlainIri_xsdString : IsPlainIri xsdString := by
  simp [IsPlainIri, xsdString]

theorem isPlainIri_rdfLangString : IsPlainIri rdfLangString := by
  simp [IsPlainIri, rdfLangString]

/-- A run of letters, digits and `_ - .` that does not end in a dot. -/
structure IsLabel (label : String) : Prop where
  nonempty : label.toList ≠ []
  chars : ∀ c ∈ label.toList, isLabelChar c = true
  last : ∀ c ∈ label.toList.getLast?, (c == '.') = false

/-- A run of ASCII letters, digits and hyphens. -/
structure IsTag (tag : String) : Prop where
  nonempty : tag.toList ≠ []
  chars : ∀ c ∈ tag.toList, isTagChar c = true

/-- A node that can be written. -/
def Node.Representable : Node → Prop
  | .iri i => IsPlainIri i
  | .blank label => IsLabel label

/-- A literal that can be written; its value may be any string. -/
structure Literal.Representable (l : Literal) : Prop where
  datatype : IsPlainIri l.datatype
  language : ∀ tag, l.language = some tag → IsTag tag ∧ l.datatype = rdfLangString

/-- A term that can be written. -/
def Term.Representable : Term → Prop
  | .node n => n.Representable
  | .literal l => l.Representable

/-- A quad that can be written. -/
structure Quad.Representable (q : Quad) : Prop where
  subject : q.subject.Representable
  predicate : IsPlainIri q.predicate
  object : q.object.Representable
  graph : ∀ n, q.graph = some n → n.Representable

/-- What follows the object of a written quad and its space. -/
def graphTail : Option Node → List Char
  | none => ['.']
  | some n => n.chars ++ ' ' :: ['.']

theorem Quad.chars_eq (q : Quad) :
    q.chars = q.subject.chars ++ ' ' :: (iriChars q.predicate ++ ' ' ::
      (q.object.chars ++ ' ' :: graphTail q.graph)) := by
  unfold Quad.chars graphTail
  cases q.graph <;> simp

/-- The first character of a written node. -/
theorem Node.chars_eq_cons (n : Node) : ∃ c cs, n.chars = c :: cs ∧ (c = '<' ∨ c = '_') := by
  cases n with
  | iri i => exact ⟨'<', _, rfl, Or.inl rfl⟩
  | blank label => exact ⟨'_', _, rfl, Or.inr rfl⟩

theorem Quad.chars_eq_cons (q : Quad) : ∃ c cs, q.chars = c :: cs ∧ (c = '<' ∨ c = '_') := by
  obtain ⟨c, cs, hcs, hc⟩ := q.subject.chars_eq_cons
  rw [Quad.chars_eq, hcs, List.cons_append]
  exact ⟨c, _, rfl, hc⟩

/-- A written term does not start with a space or a tab. -/
theorem Term.chars_eq_cons (t : Term) : ∃ c cs, t.chars = c :: cs ∧ c ≠ ' ' ∧ c ≠ '\t' := by
  cases t with
  | node n =>
    obtain ⟨c, cs, hcs, hc⟩ := n.chars_eq_cons
    rcases hc with rfl | rfl
    · exact ⟨'<', cs, hcs, by decide, by decide⟩
    · exact ⟨'_', cs, hcs, by decide, by decide⟩
  | literal l => exact ⟨'"', _, rfl, by decide, by decide⟩

end LinkedData.Rdf

namespace LinkedData.NQuads

open LinkedData.Rdf LinkedData.Text

/-! ## Reading what was written -/

theorem spelled_self {raw : Char → Prop} {escape : List Char → Char → Prop} {text : List Char}
    (h : ∀ c ∈ text, raw c) : Spelled raw escape text text := by
  induction text with
  | nil => exact .nil
  | cons c text ih =>
    obtain ⟨hc, htext⟩ := List.forall_mem_cons.mp h
    exact .raw hc (ih htext)

theorem iri_written {i : Iri} (h : IsPlainIri i) (rest : List Char) :
    iri (iriChars i ++ rest) = .ok (i, rest) := by
  have hspelled : Spelled IsRawInIri NumericEscape i.toList i.toList := by
    apply spelled_self
    intro c hc
    obtain ⟨hclose, hopen, hquote, hescape, hspace, -⟩ := h c hc
    exact ⟨hclose, hescape, hspace, hopen, hquote⟩
  exact iri_eq_ok_iff.mpr ⟨i.toList, hspelled, by simp [iriChars]⟩

theorem blankNode_written {label : String} (h : IsLabel label) {rest : List Char}
    (hrest : EndsLabel rest) :
    blankNode ('_' :: ':' :: (label.toList ++ rest)) = .ok (label, rest) := by
  have hlabel := labelOf_append h.chars h.last hrest
  have hnonempty : label.toList.isEmpty = false := by simpa using h.nonempty
  rw [blankNode, expect, if_pos rfl, ok_bind, expect, if_pos rfl, ok_bind]
  simp only [hlabel, hnonempty, Bool.false_eq_true, if_false, List.drop_left,
    String.ofList_toList]
  rfl

/-- The escaped form of a value spells the value. -/
theorem spelled_escaped (value : List Char) :
    Spelled IsRawInLiteral LiteralEscape (value.flatMap escapedChar) value := by
  induction value with
  | nil => exact .nil
  | cons c value ih =>
    rw [List.flatMap_cons]
    unfold escapedChar
    split
    · rename_i hc
      exact .escaped (.letter (by rw [hc]; rfl)) ih
    · rename_i hquote
      split
      · rename_i hc
        exact .escaped (.letter (by rw [hc]; rfl)) ih
      · rename_i hescape
        split
        · rename_i hc
          exact .escaped (.letter (by rw [hc]; rfl)) ih
        · split
          · rename_i hc
            exact .escaped (.letter (by rw [hc]; rfl)) ih
          · exact .raw ⟨hquote, hescape⟩ ih

theorem Literal.chars_append (l : Literal) (rest : List Char) :
    l.chars ++ rest = '"' :: (l.value.toList.flatMap escapedChar ++ '"' :: (l.suffix ++ rest)) := by
  simp [Literal.chars, quoted]

theorem literal_written {l : Literal} (h : l.Representable) (rest : List Char) :
    literal (l.chars ++ ' ' :: rest) = .ok (l, ' ' :: rest) := by
  obtain ⟨value, datatype, language⟩ := l
  have hsuffix : literalSuffix value
      (Literal.suffix ⟨value, datatype, language⟩ ++ ' ' :: rest) =
        .ok (⟨value, datatype, language⟩, ' ' :: rest) := by
    cases language with
    | some tag =>
      obtain ⟨htag, hdatatype⟩ := h.language tag rfl
      have hstops : StopsAt isTagChar (' ' :: rest) := stopsAt_cons.mpr (by decide)
      have hnonempty : tag.toList.isEmpty = false := by simpa using htag.nonempty
      simp only at hdatatype
      subst hdatatype
      simp only [Literal.suffix, List.cons_append, literalSuffix, takeWhile_run htag.chars hstops,
        dropWhile_run htag.chars hstops, hnonempty, Bool.false_eq_true, if_false,
        String.ofList_toList, Literal.tagged]
    | none =>
      by_cases hstring : datatype = xsdString
      · subst hstring
        simp only [Literal.suffix, if_true, List.nil_append, literalSuffix, Literal.string]
        rfl
      · simp only [Literal.suffix, hstring, if_false, List.cons_append, literalSuffix, expect,
          if_true, ok_bind, iri_written h.datatype, Literal.typed]
        rfl
  refine literal_eq_ok_iff.mpr ⟨_, value.toList, _, spelled_escaped value.toList,
    Literal.chars_append _ _, ?_⟩
  rw [String.ofList_toList]
  exact hsuffix

theorem term_written {t : Term} (h : t.Representable) (rest : List Char) :
    term (t.chars ++ ' ' :: rest) = .ok (t, ' ' :: rest) := by
  rw [term_eq_ok_iff]
  match t, h with
  | .node (.iri i), h => exact Or.inl ⟨i, rfl, iri_written h _⟩
  | .node (.blank label), h =>
    have hspace : EndsLabel (' ' :: rest) := endsLabel_of_stopsAt (stopsAt_cons.mpr (by decide))
    exact Or.inr (Or.inl ⟨label, rfl, blankNode_written h hspace⟩)
  | .literal l, h => exact Or.inr (Or.inr ⟨l, rfl, literal_written h rest⟩)

theorem node_written {n : Node} (h : n.Representable) (fault : Fault) (rest : List Char) :
    node fault (n.chars ++ ' ' :: rest) = .ok (n, ' ' :: rest) :=
  node_eq_ok_iff.mpr (term_written (t := .node n) h rest)

theorem skipSpace_space {c : Char} (hspace : c ≠ ' ') (htab : c ≠ '\t') (cs : List Char) :
    skipSpace (' ' :: c :: cs) = c :: cs := by
  simp [skipSpace, hspace, htab]

theorem skipSpace_space_term (t : Term) (rest : List Char) :
    skipSpace (' ' :: (t.chars ++ rest)) = t.chars ++ rest := by
  obtain ⟨c, cs, hcs, hspace, htab⟩ := t.chars_eq_cons
  rw [hcs, List.cons_append]
  exact skipSpace_space hspace htab (cs ++ rest)

theorem graphName_written {g : Option Node} (h : ∀ n, g = some n → n.Representable) :
    graphName (graphTail g) = .ok (g, ['.']) := by
  cases g with
  | none => rfl
  | some n =>
    obtain ⟨c, cs, hcs, hc⟩ := n.chars_eq_cons
    have hread := node_written (h n rfl) .literalGraph ['.']
    have hdot : c ≠ '.' := by rcases hc with rfl | rfl <;> decide
    rw [graphTail]
    rw [hcs, List.cons_append] at hread ⊢
    rw [graphName.eq_2 _ (fun _ heq => hdot (List.cons.inj heq).1), hread, ok_bind]
    rfl

theorem statement_written {q : Quad} (h : q.Representable) : statement q.chars = .ok q := by
  have hpredicate : ∀ rest, skipSpace (' ' :: (iriChars q.predicate ++ rest)) =
      iriChars q.predicate ++ rest := skipSpace_space_term (.iri q.predicate)
  have hgraph : skipSpace (' ' :: graphTail q.graph) = graphTail q.graph := by
    cases q.graph with
    | none => exact skipSpace_space (by decide) (by decide) _
    | some n => exact skipSpace_space_term (.node n) _
  rw [Quad.chars_eq]
  simp only [statement, node_written h.subject, ok_bind, hpredicate, iri_written h.predicate,
    skipSpace_space_term, term_written h.object, hgraph, graphName_written h.graph, expect,
    if_true]
  rfl

/-! ## Reading faithfully -/

theorem NumericEscape.close_not_mem {written : List Char} {c : Char}
    (h : NumericEscape written c) : '>' ∉ written := by
  have hletter : ∀ {letter : Char} {n : Nat}, escapeWidth? letter = some n → letter ≠ '>' := by
    rintro letter n hwidth rfl
    cases hwidth
  have hdigits : ∀ {digits : List Char}, AreHexDigits digits → '>' ∉ digits := by
    intro digits hdigits hmem
    have := hdigits '>' hmem
    revert this
    decide
  cases h with
  | scalar hwidth hall =>
    simp only [List.mem_cons, not_or]
    exact ⟨(hletter hwidth).symm, hdigits hall⟩
  | pair hwidth hall _ _ hlow =>
    simp only [List.mem_cons, List.mem_append, not_or]
    exact ⟨(hletter hwidth).symm, hdigits hall, by decide, by decide, hdigits hlow⟩

/-- A spelled IRI does not go beyond its closing bracket, and unless it stands for itself it is
longer than what it spells. -/
theorem Spelled.iri {written text : List Char}
    (h : Spelled IsRawInIri NumericEscape written text) :
    '>' ∉ written ∧
      (written = text ∧ (∀ c ∈ text, IsRawInIri c) ∨ text.length < written.length) := by
  induction h with
  | nil => simp
  | raw hc _ ih =>
    obtain ⟨hclose, hcases⟩ := ih
    refine ⟨by simp [hclose, hc.1.symm], ?_⟩
    rcases hcases with ⟨rfl, hraw⟩ | hlonger
    · exact Or.inl ⟨rfl, List.forall_mem_cons.mpr ⟨hc, hraw⟩⟩
    · exact Or.inr (by simpa using hlonger)
  | @escaped e c written text he _ ih =>
    obtain ⟨hclose, hcases⟩ := ih
    refine ⟨by simp [hclose, he.close_not_mem], Or.inr ?_⟩
    -- The backslash and at least one more character stand for a single one.
    have hle : text.length ≤ written.length := by
      rcases hcases with ⟨rfl, -⟩ | hlonger
      · exact le_refl _
      · exact le_of_lt hlonger
    have hpos : e ≠ [] := by
      rintro rfl
      cases he
    have := List.length_pos_iff.mpr hpos
    simp only [List.cons_append, List.length_cons, List.length_append]
    omega

/-- What is left of a line, where `text` is what is left of the text that the line is cut
from. -/
structure OnLine (line text : List Char) : Prop where
  front : line <+: text
  unbroken : '\n' ∉ line

theorem OnLine.drop {c d : Char} {line text : List Char} (h : OnLine (c :: line) (d :: text)) :
    OnLine line text :=
  ⟨(List.cons_prefix_cons.mp h.front).2, fun hmem => h.unbroken (List.mem_cons_of_mem _ hmem)⟩

theorem OnLine.dropAll {taken line text : List Char} (h : OnLine (taken ++ line) (taken ++ text)) :
    OnLine line text :=
  ⟨(List.prefix_append_right_inj taken).mp h.front,
    fun hmem => h.unbroken (List.mem_append_right _ hmem)⟩

/-- What is read as an IRI from the written form of that IRI is all of it. -/
theorem iri_faithful {i : Iri} {cs rest more : List Char} (h : iri cs = .ok (i, rest))
    (hcs : OnLine cs (iriChars i ++ more)) : IsPlainIri i ∧ OnLine rest more := by
  obtain ⟨written, hwritten, rfl⟩ := iri_eq_ok_iff.mp h
  obtain ⟨hclose, hcases⟩ := hwritten.iri
  -- Behind the opening bracket, both texts are some spelling up to a closing bracket.
  have hbody : OnLine (written ++ '>' :: rest) (i.toList ++ '>' :: more) := by
    have htext : iriChars i ++ more = '<' :: (i.toList ++ '>' :: more) := by simp [iriChars]
    rw [htext] at hcs
    exact hcs.drop
  rcases hcases with ⟨heq, hraw⟩ | hlonger
  · rw [heq] at hbody
    refine ⟨?_, hbody.dropAll.drop⟩
    intro c hc
    obtain ⟨hclose, hescape, hspace, hopen, hquote⟩ := hraw c hc
    refine ⟨hclose, hopen, hquote, hescape, hspace, ?_⟩
    rintro rfl
    exact hbody.unbroken (List.mem_append_left _ hc)
  · -- A longer spelling would have to contain the bracket that closes the written form.
    have hlength : (i.toList ++ ['>']).length ≤ written.length := by
      rw [List.length_append]
      exact hlonger
    have hclosed : i.toList ++ ['>'] <+: i.toList ++ '>' :: more := by simp
    have hinside : i.toList ++ ['>'] <+: written :=
      List.prefix_of_prefix_length_le hclosed ((List.prefix_append _ _).trans hbody.front) hlength
    exact absurd (hinside.subset (by simp)) hclose

theorem blankNode_faithful {label : String} {cs rest more : List Char}
    (h : blankNode cs = .ok (label, rest))
    (hcs : OnLine cs (Node.chars (.blank label) ++ more)) : IsLabel label ∧ OnLine rest more := by
  obtain ⟨rfl, hnonempty, hchars, hlast, -⟩ := blankNode_eq_ok h
  exact ⟨⟨hnonempty, hchars, hlast⟩, hcs.drop.drop.dropAll⟩

/-- The value of a literal is spelled as it was read and as it is written, up to the same
quote. -/
theorem literalBody_faithful {written value after : List Char} {l : Literal} {more : List Char}
    (hwritten : Spelled IsRawInLiteral LiteralEscape written value)
    (hcs : OnLine ('"' :: (written ++ '"' :: after)) (l.chars ++ more))
    (hvalue : value = l.value.toList) : OnLine after (l.suffix ++ more) := by
  obtain ⟨⟨extra, hextra⟩, hline⟩ := hcs
  -- One text has two readings, and reading is a function.
  have hread : literalBody (written ++ '"' :: (after ++ extra)) = .ok (value, after ++ extra) :=
    literalBody_eq_ok_iff.mpr ⟨written, hwritten, rfl⟩
  have hwrite : literalBody (l.value.toList.flatMap escapedChar ++ '"' :: (l.suffix ++ more)) =
      .ok (l.value.toList, l.suffix ++ more) :=
    literalBody_eq_ok_iff.mpr ⟨_, spelled_escaped _, rfl⟩
  rw [Literal.chars_append, List.cons_append, List.append_assoc, List.cons_append] at hextra
  injection hextra with _ hextra
  rw [hextra, hwrite, hvalue] at hread
  simp only [Except.ok.injEq, Prod.mk.injEq, true_and] at hread
  refine ⟨⟨extra, hread.symm⟩, ?_⟩
  intro hmem
  exact hline (by simp [hmem])

/-- What is read as a literal from the written form of that literal is all of it. -/
theorem literal_faithful {l : Literal} {cs rest more : List Char} (h : literal cs = .ok (l, rest))
    (hcs : OnLine cs (l.chars ++ ' ' :: more)) :
    l.Representable ∧ OnLine rest (' ' :: more) := by
  obtain ⟨written, value, after, hwritten, rfl, hsuffix⟩ := literal_eq_ok_iff.mp h
  have hafter := literalBody_faithful hwritten hcs
  rcases literalSuffix_eq_ok hsuffix with ⟨tag, rfl, rfl, hnonempty, hchars⟩ |
    ⟨datatype, afterCarets, rfl, rfl, hiri⟩ | ⟨rfl, rfl⟩
  · have hrest := (hafter String.toList_ofList.symm).drop.dropAll
    refine ⟨⟨isPlainIri_rdfLangString, ?_⟩, hrest⟩
    rintro tag ⟨⟩
    exact ⟨⟨hnonempty, hchars⟩, rfl⟩
  · have hrest := hafter String.toList_ofList.symm
    by_cases hstring : datatype = xsdString
    · -- Nothing is written of the datatype of plain strings, so there was nothing to read.
      have hspace : OnLine ('^' :: '^' :: afterCarets) (' ' :: more) := by
        simpa [Literal.suffix, Literal.typed, hstring] using hrest
      obtain ⟨heq, -⟩ := List.cons_prefix_cons.mp hspace.front
      exact absurd heq (by decide)
    · have hcarets : OnLine ('^' :: '^' :: afterCarets)
          ('^' :: '^' :: (iriChars datatype ++ ' ' :: more)) := by
        simpa [Literal.suffix, Literal.typed, hstring] using hrest
      obtain ⟨hdatatype, hmore⟩ := iri_faithful hiri hcarets.drop.drop
      refine ⟨⟨hdatatype, ?_⟩, hmore⟩
      rintro tag ⟨⟩
  · have hrest := hafter String.toList_ofList.symm
    refine ⟨⟨isPlainIri_xsdString, ?_⟩, ?_⟩
    · rintro tag ⟨⟩
    · simpa [Literal.suffix, Literal.string] using hrest

theorem term_faithful {t : Term} {cs rest more : List Char} (h : term cs = .ok (t, rest))
    (hcs : OnLine cs (t.chars ++ ' ' :: more)) : t.Representable ∧ OnLine rest (' ' :: more) := by
  rcases term_eq_ok_iff.mp h with ⟨i, rfl, hi⟩ | ⟨label, rfl, hlabel⟩ | ⟨l, rfl, hl⟩
  · exact iri_faithful hi hcs
  · exact blankNode_faithful hlabel hcs
  · exact literal_faithful hl hcs

theorem OnLine.skipSpace {c : Char} {line text : List Char} (hspace : c ≠ ' ') (htab : c ≠ '\t')
    (h : OnLine line (' ' :: c :: text)) : OnLine (skipSpace line) (c :: text) := by
  cases line with
  | nil => exact ⟨List.nil_prefix, by simp [NQuads.skipSpace]⟩
  | cons d line =>
    obtain ⟨rfl, hfront⟩ := List.cons_prefix_cons.mp h.front
    cases line with
    | nil => exact ⟨by simp [NQuads.skipSpace], by simp [NQuads.skipSpace]⟩
    | cons e line =>
      obtain ⟨rfl, -⟩ := List.cons_prefix_cons.mp hfront
      rw [skipSpace_space hspace htab]
      exact h.drop

theorem OnLine.skipSpace_term {t : Term} {line text : List Char}
    (h : OnLine line (' ' :: (t.chars ++ text))) :
    OnLine (NQuads.skipSpace line) (t.chars ++ text) := by
  obtain ⟨c, cs, hcs, hspace, htab⟩ := t.chars_eq_cons
  rw [hcs, List.cons_append] at h ⊢
  exact h.skipSpace hspace htab

theorem graphName_faithful {g : Option Node} {cs rest : List Char}
    (h : graphName cs = .ok (g, rest)) (hcs : OnLine cs (graphTail g)) :
    ∀ n, g = some n → n.Representable := by
  rintro n rfl
  unfold graphName at h
  split at h
  · cases h
  · simp only [bind_eq_ok_iff, Prod.exists, pure_eq_ok_iff, node_eq_ok_iff, Prod.mk.injEq,
      Option.some.injEq] at h
    obtain ⟨n', _, hn, rfl, -⟩ := h
    exact (term_faithful hn hcs).1

/-- A quad that is read from the front of its written form, within one line, can be written. -/
theorem statement_faithful {line : List Char} {q : Quad} (h : statement line = .ok q)
    (hline : OnLine line q.chars) : q.Representable := by
  simp only [statement, bind_eq_ok_iff, Prod.exists, pure_eq_ok_iff, node_eq_ok_iff] at h
  obtain ⟨subject, afterSubject, hs, predicate, afterPredicate, hp, object, afterObject, ho,
    graph, afterGraph, hg, -, -, -, -, rfl⟩ := h
  rw [Quad.chars_eq] at hline
  obtain ⟨hsubject, hline⟩ := term_faithful hs hline
  obtain ⟨hpredicate, hline⟩ := iri_faithful hp (hline.skipSpace_term (t := .iri predicate))
  obtain ⟨hobject, hline⟩ := term_faithful ho hline.skipSpace_term
  have htail : OnLine (skipSpace afterObject) (graphTail graph) := by
    cases graph with
    | none => exact hline.skipSpace (by decide) (by decide)
    | some n => exact hline.skipSpace_term (t := .node n)
  exact ⟨hsubject, hpredicate, hobject, graphName_faithful hg htail⟩

/-! ## Documents -/

theorem lineFeed_not_mem_label {label : String} (h : IsLabel label) : '\n' ∉ label.toList :=
  fun hmem => absurd (h.chars _ hmem) (by decide)

theorem lineFeed_not_mem_iri {i : Iri} (h : IsPlainIri i) : '\n' ∉ iriChars i := by
  have hiri : '\n' ∉ i.toList := fun hmem => (h _ hmem).2.2.2.2.2 rfl
  simp [iriChars, hiri]

theorem lineFeed_not_mem_node {n : Node} (h : n.Representable) : '\n' ∉ n.chars := by
  cases n with
  | iri i => exact lineFeed_not_mem_iri h
  | blank label => simp [Node.chars, lineFeed_not_mem_label h]

/-- The escapes of a literal leave no line feed in it. -/
theorem lineFeed_not_mem_literal {l : Literal} (h : l.Representable) : '\n' ∉ l.chars := by
  have hescaped : ∀ c, '\n' ∉ escapedChar c := by
    intro c
    unfold escapedChar
    split
    · decide
    · split
      · decide
      · split
        · decide
        · rename_i hfeed
          split
          · decide
          · simpa using Ne.symm hfeed
  have hsuffix : '\n' ∉ l.suffix := by
    unfold Literal.suffix
    split
    · rename_i tag hlanguage
      have htag : '\n' ∉ tag.toList := fun hmem =>
        absurd ((h.language tag hlanguage).1.chars _ hmem) (by decide)
      simp [htag]
    · split
      · simp
      · simp [lineFeed_not_mem_iri h.datatype]
  simp [Literal.chars, quoted, hescaped, hsuffix]

theorem lineFeed_not_mem_term {t : Term} (h : t.Representable) : '\n' ∉ t.chars := by
  cases t with
  | node n => exact lineFeed_not_mem_node h
  | literal l => exact lineFeed_not_mem_literal h

theorem lineFeed_not_mem_quad {q : Quad} (h : q.Representable) : '\n' ∉ q.chars := by
  have hgraph : '\n' ∉ graphTail q.graph := by
    unfold graphTail
    split
    · decide
    · rename_i n hn
      simp [lineFeed_not_mem_node (h.graph n hn)]
  rw [Quad.chars_eq]
  simp [lineFeed_not_mem_node h.subject, lineFeed_not_mem_iri h.predicate,
    lineFeed_not_mem_term h.object, hgraph]

/-- A written quad is a line without white space at its ends. -/
theorem trim_quad (q : Quad) : trim q.chars = q.chars := by
  apply trim_eq_self
  · obtain ⟨c, cs, hcs, hc⟩ := q.chars_eq_cons
    rw [hcs, stopsAt_cons]
    rcases hc with rfl | rfl
    · decide
    · decide
  · obtain ⟨front, hfront⟩ : ∃ front, q.chars = front ++ ['.'] := by
      unfold Quad.chars
      cases q.graph with
      | none => exact ⟨_, rfl⟩
      | some g =>
        exact ⟨q.subject.chars ++ ' ' :: iriChars q.predicate ++ ' ' :: q.object.chars ++ [' '] ++
          g.chars ++ [' '], by simp⟩
    rw [hfront, List.getLast?_concat]
    rintro c ⟨⟩
    decide

/-- The first line of a written graph starts as its first quad does, also when it ends within it. -/
theorem firstLine_written (q : Quad) (rest : List Char) :
    OnLine (trim (Lines.splitLine (q.chars ++ '\n' :: rest)).1) q.chars ∧
      isSkipped (trim (Lines.splitLine (q.chars ++ '\n' :: rest)).1) = false := by
  obtain ⟨c, cs, hcs, hc⟩ := q.chars_eq_cons
  -- The first character keeps the line from being trimmed, cut or passed over at its front.
  have hblank : isBlank c = false ∧ (c != '\n') = true ∧ c ≠ '#' := by
    rcases hc with rfl | rfl
    · decide
    · decide
  have hfirst : (Lines.splitLine (c :: cs ++ '\n' :: rest)).1 =
      c :: (cs ++ '\n' :: rest).takeWhile (· != '\n') := by
    exact List.takeWhile_cons_of_pos (p := (· != '\n')) hblank.2.1
  have hfront : (cs ++ '\n' :: rest).takeWhile (· != '\n') <+: cs := by
    rw [List.takeWhile_append, takeWhile_eq_nil (stopsAt_cons.mpr (by decide))]
    split
    · simp
    · exact List.takeWhile_prefix _
  obtain ⟨tail, htail, htailFront⟩ := trim_cons hblank.1
    ((cs ++ '\n' :: rest).takeWhile (· != '\n'))
  rw [hcs, hfirst, htail]
  refine ⟨⟨List.cons_prefix_cons.mpr ⟨rfl, htailFront.trans hfront⟩, ?_⟩, ?_⟩
  · intro hmem
    rcases List.mem_cons.mp hmem with rfl | hmem
    · exact absurd hblank.2.1 (by decide)
    · exact absurd (List.mem_takeWhile_imp (htailFront.subset hmem)) (by decide)
  · simp [isSkipped, hblank.2.2]

/-- The first quad of a written graph is read back, and then the others, exactly when it can be
written. -/
theorem toList_written_cons (q : Quad) (g : Graph) (count : Nat) :
    Lines.toList { rest := Graph.chars (q :: g), count } = (q :: g).map .ok ↔
      q.Representable ∧ Lines.toList { rest := Graph.chars g, count := count + 1 } = g.map .ok := by
  have htext : Graph.chars (q :: g) = q.chars ++ '\n' :: Graph.chars g := by
    simp [Graph.chars]
  obtain ⟨hfront, hskip⟩ := firstLine_written q (Graph.chars g)
  have hitems := Lines.toList_of_line count (by simp) hskip
  rw [htext, hitems]
  constructor
  · intro hread
    split at hread
    · rename_i q' hq'
      injection hread with hhead htail
      injection hhead with hhead
      -- Only now is it known that the first line was all of the first quad.
      have hrepresentable := statement_faithful (hhead ▸ hq') hfront
      rw [Lines.splitLine_line (lineFeed_not_mem_quad hrepresentable)] at htail
      exact ⟨hrepresentable, htail⟩
    · injection hread with hhead
      cases hhead
  · rintro ⟨hrepresentable, hrest⟩
    rw [Lines.splitLine_line (lineFeed_not_mem_quad hrepresentable), trim_quad,
      statement_written hrepresentable]
    simp only [hrest, List.map_cons]

theorem toList_written_iff (g : Graph) (count : Nat) :
    Lines.toList { rest := Graph.chars g, count } = g.map .ok ↔ ∀ q ∈ g, q.Representable := by
  induction g generalizing count with
  | nil =>
    have hend : Lines.toList { rest := [], count } = [] := Lines.toList_eq_nil (by
      rw [Lines.next, Lines.advance]
      rfl)
    simpa [Graph.chars] using hend
  | cons q g ih => rw [toList_written_cons, ih, List.forall_mem_cons]

/-- A graph reads back from its written form exactly when each of its quads can be written:
the same quads, in the same order, as often as they were there. -/
theorem parse_written_iff_representable (g : Graph) :
    parse (String.ofList (Graph.chars g)) = .ok g ↔ ∀ q ∈ g, q.Representable := by
  rw [parse, Arrivals.collect_eq_ok_iff, Lines.ofText, String.toList_ofList]
  exact toList_written_iff g 0

end LinkedData.NQuads
