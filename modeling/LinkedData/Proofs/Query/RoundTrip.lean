import LinkedData.Proofs.Dict.Ordered
import LinkedData.Proofs.Query.Grammar
import LinkedData.Proofs.Query.Layout
import LinkedData.Query.Written

/-!
# LinkedData.Proofs.Query.RoundTrip -- which queries read back from their written form

A query is `Expressible` when its names, labels and tags are made of the characters of their
kind, its IRIs do not hold the bracket that ends them, its predicates can be predicates, and
its scope has a spelling. These are the queries that read back from their written form, and
they are all the queries that are ever read: whatever the layout, the prefixes and the letter
case of a query text, the query read from it is written and read back as itself.
-/

namespace LinkedData.Query

open LinkedData.Rdf LinkedData.Text

/-! ## What can be written -/

/-- A name of a variable. -/
structure IsVariable (name : String) : Prop where
  nonempty : name.toList ≠ []
  chars : ∀ c ∈ name.toList, isVariableChar c = true

/-- A label of a blank node, perhaps empty. -/
structure IsBlankLabel (label : String) : Prop where
  chars : ∀ c ∈ label.toList, isNameChar c = true
  last : ∀ c ∈ label.toList.getLast?, c ≠ '.'

/-- A language tag. -/
structure IsLanguage (tag : String) : Prop where
  nonempty : tag.toList ≠ []
  chars : ∀ c ∈ tag.toList, isLanguageChar c = true

/-- An IRI without the bracket that ends it. -/
def IsClosedIri (i : Iri) : Prop :=
  '>' ∉ i.toList

/-- A literal that can be written; its value may be any string. -/
structure ExpressibleLiteral (l : Literal) : Prop where
  datatype : IsClosedIri l.datatype
  language : ∀ tag, l.language = some tag → IsLanguage tag ∧ l.datatype = rdfLangString

/-- A term that can be written. -/
def ExpressibleTerm : Term → Prop
  | .node (.iri i) => IsClosedIri i
  | .node (.blank label) => IsBlankLabel label
  | .literal l => ExpressibleLiteral l

/-- A position that can be written. -/
def Slot.Expressible : Slot → Prop
  | .variable name => IsVariable name
  | .term t => ExpressibleTerm t

/-- A pattern that can be written. -/
structure Pattern.Expressible (p : Pattern) : Prop where
  subject : p.subject.Expressible
  predicate : p.predicate.Expressible
  object : p.object.Expressible
  isPredicate : p.predicate.IsPredicate

/-- A scope that can be written: the default graph, or one named graph. -/
def Scope.Expressible : Scope → Prop
  | .defaultGraph => True
  | .named i => IsClosedIri i
  | .everywhere => False

/-- A query that can be written. -/
structure Select.Expressible (q : Select) : Prop where
  selected : ∀ name ∈ q.selected, IsVariable name
  patterns : ∀ p ∈ q.patterns, p.Expressible
  scope : q.scope.Expressible

theorem isClosedIri_wellKnown : IsClosedIri xsdString ∧ IsClosedIri xsdBoolean ∧
    IsClosedIri xsdInteger ∧ IsClosedIri rdfLangString ∧ IsClosedIri rdfType := by
  unfold IsClosedIri
  decide

theorem isName_blank_iff {label : String} :
    IsName ('_' :: ':' :: label.toList) ↔ IsBlankLabel label := by
  have hlast : ('_' :: ':' :: label.toList).getLast? = some (label.toList.getLast?.getD ':') := by
    simp [List.getLast?_cons]
  constructor
  · rintro ⟨-, hchars, -, hdot⟩
    refine ⟨fun c hc => hchars c (by simp [hc]), ?_⟩
    intro c hc
    rw [hlast, Option.mem_def.mp hc] at hdot
    simpa using hdot c rfl
  · rintro ⟨hchars, hdot⟩
    refine ⟨by simp, ?_, ?_, ?_⟩
    · intro c hc
      rcases List.mem_cons.mp hc with rfl | hc
      · decide
      · rcases List.mem_cons.mp hc with rfl | hc
        · decide
        · exact hchars c hc
    · rintro c ⟨⟩
      decide
    · rintro c hc
      rw [hlast] at hc
      cases hc
      cases hend : label.toList.getLast? with
      | none => decide
      | some d => simpa using hdot d hend

/-! ## Everything that is read can be written -/

/-- The prefixes stand for IRIs that can be written. -/
def ClosedPrefixes (prefixes : Prefixes) : Prop :=
  ∀ name i, prefixes.find? name = some i → IsClosedIri i

theorem Declares.closed {prefixes declared : Prefixes} {words : List Token}
    (h : Declares prefixes words declared) (hwords : ∀ t ∈ words, t.Occurs)
    (hprefixes : ClosedPrefixes prefixes) : ClosedPrefixes declared := by
  induction h with
  | done => exact hprefixes
  | @declare w name i words prefixes declared _ _ ih =>
    have hi : IsClosedIri i := hwords (.iri i) (by simp)
    apply ih
    · intro t ht
      exact hwords t (by simp [ht])
    · intro name' i' hfind
      rw [Dict.find?_insert] at hfind
      split at hfind
      · cases hfind
        exact hi
      · exact hprefixes name' i' hfind

section Reading

variable {prefixes : Prefixes}

theorem TermWords.expressible (hprefixes : ClosedPrefixes prefixes) {words : List Token} {t : Term}
    (h : TermWords prefixes words t) (hwords : ∀ u ∈ words, u.Occurs) : ExpressibleTerm t := by
  obtain ⟨hstring, hboolean, hinteger, hlanguage, htype⟩ := isClosedIri_wellKnown
  have huntagged : ∀ {value datatype}, IsClosedIri datatype →
      ExpressibleLiteral (.typed value datatype) := by
    intro value datatype hdatatype
    refine ⟨hdatatype, ?_⟩
    rintro tag ⟨⟩
  induction h with
  | iri i => exact hwords (.iri i) (by simp)
  | @prefixed name space tail hspace =>
    -- Neither the IRI of the prefix nor the characters of a name hold the bracket.
    have hclosed := hprefixes _ _ hspace
    obtain ⟨hname, -, -⟩ := hwords (.prefixed name tail) (by simp)
    show '>' ∉ (space ++ tail).toList
    rw [String.toList_append, List.mem_append, not_or]
    refine ⟨hclosed, ?_⟩
    intro hmem
    exact absurd (hname.chars '>' (by simp [hmem])) (by decide)
  | blank label => exact isName_blank_iff.mp (hwords (.blank label) (by simp))
  | type => exact htype
  | boolean => exact huntagged hboolean
  | integer => exact huntagged hinteger
  | string => exact huntagged hstring
  | tagged value tag =>
    obtain ⟨hne, hchars⟩ := hwords (.language tag) (by simp)
    refine ⟨hlanguage, ?_⟩
    rintro tag ⟨⟩
    exact ⟨⟨hne, hchars⟩, rfl⟩
  | typed value _ ih => exact huntagged (ih fun u hu => hwords u (by simp [hu]))

theorem SlotWords.expressible (hprefixes : ClosedPrefixes prefixes) {words : List Token} {s : Slot}
    (h : SlotWords prefixes words s) (hwords : ∀ u ∈ words, u.Occurs) : s.Expressible := by
  cases h with
  | var name =>
    obtain ⟨hne, hchars⟩ := hwords (.variable name) (by simp)
    exact ⟨hne, hchars⟩
  | term ht => exact ht.expressible hprefixes hwords

theorem PatternWords.expressible (hprefixes : ClosedPrefixes prefixes) {words : List Token}
    {p : Pattern} (h : PatternWords prefixes words p) (hwords : ∀ u ∈ words, u.Occurs) :
    p.Expressible := by
  obtain ⟨hs, hp, hpredicate, ho⟩ := h
  simp only [List.forall_mem_append] at hwords
  exact ⟨hs.expressible hprefixes hwords.1.1, hp.expressible hprefixes hwords.1.2,
    ho.expressible hprefixes hwords.2, hpredicate⟩

theorem PatternsWords.expressible (hprefixes : ClosedPrefixes prefixes) {words : List Token}
    {ps : List Pattern} (h : PatternsWords prefixes words ps) (hwords : ∀ u ∈ words, u.Occurs) :
    ∀ p ∈ ps, p.Expressible := by
  induction h with
  | empty => simp
  | last hp =>
    rw [List.forall_mem_singleton]
    exact hp.expressible hprefixes hwords
  | more hp _ ih =>
    simp only [List.forall_mem_append, List.forall_mem_cons] at hwords
    rw [List.forall_mem_cons]
    exact ⟨hp.expressible hprefixes hwords.1, ih hwords.2.2⟩

theorem GroupWords.expressible (hprefixes : ClosedPrefixes prefixes) {words : List Token}
    {scope : Scope} {ps : List Pattern} (h : GroupWords prefixes words scope ps)
    (hwords : ∀ u ∈ words, u.Occurs) : scope.Expressible ∧ ∀ p ∈ ps, p.Expressible := by
  cases h with
  | patterns hps => exact ⟨trivial, hps.expressible hprefixes hwords⟩
  | graph _ hname hps =>
    simp only [List.forall_mem_append, List.forall_mem_cons] at hwords
    obtain ⟨-, hnameWords, -, hinner, -⟩ := hwords
    exact ⟨hname.expressible hprefixes hnameWords, hps.expressible hprefixes hinner⟩

end Reading

theorem SelectionWords.expressible {words : List Token} {selected : List String}
    (h : SelectionWords words selected) (hwords : ∀ u ∈ words, u.Occurs) :
    ∀ name ∈ selected, IsVariable name := by
  cases h with
  | star => simp
  | names =>
    intro name hname
    obtain ⟨hne, hchars⟩ := hwords (.variable name) (List.mem_map_of_mem hname)
    exact ⟨hne, hchars⟩

theorem QueryWords.expressible {words : List Token} {q : Select} (h : QueryWords words q)
    (hwords : ∀ u ∈ words, u.Occurs) : q.Expressible := by
  obtain ⟨hdeclares, -, -, hselection, -, hgroup⟩ := h
  simp only [List.forall_mem_append, List.forall_mem_cons] at hwords
  obtain ⟨hdeclarationWords, -, -, hselectionWords, -, -, hgroupWords, -⟩ := hwords
  have hprefixes := hdeclares.closed hdeclarationWords (by rintro name i ⟨⟩)
  obtain ⟨hscope, hpatterns⟩ := hgroup.expressible hprefixes hgroupWords
  exact ⟨hselection.expressible hselectionWords, hpatterns, hscope⟩

/-! ## The words of the written form -/

/-- The words that a literal is written with. -/
def literalTokens (l : Literal) : List Token :=
  match l.language with
  | some tag => [.string l.value, .language tag]
  | none =>
    if l.datatype = xsdString then [.string l.value]
    else [.string l.value, .caret, .iri l.datatype]

/-- The words that a term is written with. -/
def termTokens : Term → List Token
  | .node (.iri i) => [.iri i]
  | .node (.blank label) => [.blank label]
  | .literal l => literalTokens l

/-- The words that a position is written with. -/
def Slot.tokens : Slot → List Token
  | .variable name => [.variable name]
  | .term t => termTokens t

/-- The words that a pattern is written with, without its dot. -/
def Pattern.tokens (p : Pattern) : List Token :=
  p.subject.tokens ++ p.predicate.tokens ++ p.object.tokens

/-- The words that patterns are written with, a dot after each. -/
def patternsTokens : List Pattern → List Token
  | [] => []
  | p :: ps => p.tokens ++ .dot :: patternsTokens ps

/-- The words between the outer braces of a written query. -/
def Select.groupTokens (q : Select) : List Token :=
  match q.scope with
  | .named i =>
    .word "GRAPH" :: ([.iri i] ++ .openBrace :: (patternsTokens q.patterns ++ [.closeBrace]))
  | _ => patternsTokens q.patterns

/-- The words of what is selected. -/
def selectionTokens : List String → List Token
  | [] => [.star]
  | name :: names => (name :: names).map .variable

/-- The words that a query is written with. -/
def Select.tokens (q : Select) : List Token :=
  .word "SELECT" :: ((if q.distinct then [.word "DISTINCT"] else []) ++
    (selectionTokens q.selected ++
      ([.word "WHERE"] ++ .openBrace :: (q.groupTokens ++ [.closeBrace]))))

/-! ### They make up the query -/

theorem termWords_tokens {t : Term} (h : ExpressibleTerm t) (prefixes : Prefixes) :
    TermWords prefixes (termTokens t) t := by
  match t, h with
  | .node (.iri i), _ => exact .iri i
  | .node (.blank label), _ => exact .blank label
  | .literal ⟨value, datatype, some tag⟩, h =>
    obtain ⟨-, hdatatype⟩ := h.language tag rfl
    simp only at hdatatype
    subst hdatatype
    exact .tagged value tag
  | .literal ⟨value, datatype, none⟩, h =>
    simp only [termTokens, literalTokens]
    by_cases hstring : datatype = xsdString
    · rw [if_pos hstring, hstring]
      exact .string value
    · rw [if_neg hstring]
      exact .typed value (.iri datatype)

theorem slotWords_tokens {s : Slot} (h : s.Expressible) (prefixes : Prefixes) :
    SlotWords prefixes s.tokens s := by
  match s, h with
  | .variable name, _ => exact .var name
  | .term t, h => exact .term (termWords_tokens h prefixes)

theorem patternsWords_tokens {ps : List Pattern} (h : ∀ p ∈ ps, p.Expressible)
    (prefixes : Prefixes) : PatternsWords prefixes (patternsTokens ps) ps := by
  induction ps with
  | nil => exact .empty
  | cons p ps ih =>
    obtain ⟨hp, hps⟩ := List.forall_mem_cons.mp h
    have hpattern : PatternWords prefixes p.tokens p :=
      .slots (slotWords_tokens hp.subject prefixes) (slotWords_tokens hp.predicate prefixes)
        hp.isPredicate (slotWords_tokens hp.object prefixes)
    exact .more hpattern (ih hps)

theorem groupWords_tokens {q : Select} (h : q.Expressible) (prefixes : Prefixes) :
    GroupWords prefixes q.groupTokens q.scope q.patterns := by
  have hpatterns := patternsWords_tokens h.patterns prefixes
  have hscope := h.scope
  unfold Select.groupTokens
  cases hcases : q.scope with
  | defaultGraph => exact .patterns hpatterns
  | named i => exact .graph (by decide) (.iri i) hpatterns
  | everywhere =>
    rw [hcases] at hscope
    exact hscope.elim

theorem selectionWords_tokens (selected : List String) :
    SelectionWords (selectionTokens selected) selected := by
  cases selected with
  | nil => exact .star
  | cons name names => exact .names (List.cons_ne_nil name names)

theorem queryWords_tokens {q : Select} (h : q.Expressible) : QueryWords q.tokens q := by
  have hdistinct : OptionalKeyword "DISTINCT" (if q.distinct then [.word "DISTINCT"] else [])
      q.distinct := by
    cases q.distinct with
    | false => exact .absent
    | true => exact .present (by decide)
  exact .query (.done []) (by decide) hdistinct (selectionWords_tokens q.selected)
    (.present (by decide)) (groupWords_tokens h [])

/-! ### They are laid out in the written form -/

theorem Layout.space {ts : List Token} {cs : List Char} (h : Layout ts cs) :
    Layout ts (' ' :: cs) :=
  .blank (by decide) h

/-- A word with a space behind it. -/
theorem Layout.spaced {t : Token} {ts : List Token} {cs : List Char} (ht : t.Occurs)
    (h : Layout ts cs) : Layout (t :: ts) (t.chars ++ ' ' :: cs) :=
  .word ht (Token.endsBefore_blank (by decide) cs t) h.space

section Written

variable {ts : List Token} {cs : List Char} (hrest : Layout ts cs)

include hrest

theorem literal_layout {l : Literal} (h : ExpressibleLiteral l) :
    Layout (literalTokens l ++ ts) (l.chars ++ ' ' :: cs) := by
  obtain ⟨value, datatype, language⟩ := l
  cases language with
  | some tag =>
    obtain ⟨⟨hne, hchars⟩, -⟩ := h.language tag rfl
    -- The tag comes right behind the string, and only the space ends it.
    have htag : Layout (.language tag :: ts) ((Token.language tag).chars ++ ' ' :: cs) :=
      hrest.spaced ⟨hne, hchars⟩
    have hstring := Layout.word (t := .string value) trivial trivial htag
    simpa [literalTokens, Literal.chars, Literal.suffix, Token.chars] using hstring
  | none =>
    by_cases hstring : datatype = xsdString
    · have hspaced := hrest.spaced (t := .string value) trivial
      simpa [literalTokens, Literal.chars, Literal.suffix, Token.chars, hstring] using hspaced
    · have hiri := hrest.spaced (t := .iri datatype) h.datatype
      have hcaret := Layout.word (t := .caret) trivial trivial hiri
      have htyped := Layout.word (t := .string value) trivial trivial hcaret
      simpa [literalTokens, Literal.chars, Literal.suffix, Token.chars, hstring] using htyped

theorem term_layout {t : Term} (h : ExpressibleTerm t) :
    Layout (termTokens t ++ ts) (t.chars ++ ' ' :: cs) := by
  match t, h with
  | .node (.iri i), h => exact hrest.spaced (t := .iri i) h
  | .node (.blank label), h => exact hrest.spaced (t := .blank label) (isName_blank_iff.mpr h)
  | .literal l, h => exact literal_layout hrest h

theorem slot_layout {s : Slot} (h : s.Expressible) :
    Layout (s.tokens ++ ts) (s.chars ++ ' ' :: cs) := by
  match s, h with
  | .variable name, h => exact hrest.spaced (t := .variable name) ⟨h.nonempty, h.chars⟩
  | .term t, h => exact term_layout hrest h

theorem pattern_layout {p : Pattern} (h : p.Expressible) :
    Layout (p.tokens ++ .dot :: ts) (p.chars ++ ' ' :: cs) := by
  have hdot := hrest.spaced (t := .dot) trivial
  have hobject := slot_layout hdot h.object
  have hpredicate := slot_layout hobject h.predicate
  have hsubject := slot_layout hpredicate h.subject
  simpa [Pattern.tokens, Pattern.chars, Token.chars] using hsubject

theorem selection_layout {selected : List String} (h : ∀ name ∈ selected, IsVariable name) :
    Layout (selectionTokens selected ++ ts) (selectionChars selected ++ ' ' :: cs) := by
  induction selected using selectionChars.induct with
  | case1 => exact hrest.spaced (t := .star) trivial
  | case2 name =>
    obtain ⟨hname, -⟩ := List.forall_mem_cons.mp h
    exact hrest.spaced (t := .variable name) ⟨hname.nonempty, hname.chars⟩
  | case3 name next names ih =>
    obtain ⟨hname, hnames⟩ := List.forall_mem_cons.mp h
    have hspaced := (ih hnames).spaced (t := .variable name) ⟨hname.nonempty, hname.chars⟩
    simpa [selectionTokens, selectionChars, Token.chars] using hspaced

end Written

theorem patterns_layout {ps : List Pattern} (h : ∀ p ∈ ps, p.Expressible) {ts : List Token}
    {cs : List Char} (hrest : Layout ts cs) :
    Layout (patternsTokens ps ++ ts) (patternsChars ps ++ cs) := by
  induction ps with
  | nil => exact hrest
  | cons p ps ih =>
    obtain ⟨hp, hps⟩ := List.forall_mem_cons.mp h
    have hpattern := pattern_layout (ih hps) hp
    simpa [patternsTokens, patternsChars] using hpattern

/-- What stands between the outer braces of a written query. -/
def Select.groupChars (q : Select) : List Char :=
  match q.scope with
  | .named i =>
    "GRAPH ".toList ++ iriChars i ++ [' ', '{', ' '] ++ patternsChars q.patterns ++ ['}', ' ']
  | _ => patternsChars q.patterns

theorem Select.chars_eq (q : Select) :
    q.chars = "SELECT ".toList ++ (if q.distinct then "DISTINCT ".toList else []) ++
      selectionChars q.selected ++ " WHERE ".toList ++ ['{', ' '] ++ q.groupChars ++ ['}'] := by
  unfold Select.chars Select.groupChars
  cases q.scope <;> rfl

theorem group_layout {q : Select} (h : q.Expressible) {ts : List Token} {cs : List Char}
    (hrest : Layout ts cs) : Layout (q.groupTokens ++ ts) (q.groupChars ++ cs) := by
  have hscope := h.scope
  unfold Select.groupTokens Select.groupChars
  cases hcases : q.scope with
  | defaultGraph => exact patterns_layout h.patterns hrest
  | named i =>
    rw [hcases] at hscope
    have hclose := hrest.spaced (t := .closeBrace) trivial
    have hpatterns := patterns_layout h.patterns hclose
    have hopen := hpatterns.spaced (t := .openBrace) trivial
    have hname := hopen.spaced (t := .iri i) hscope
    have hgraph : (Token.word "GRAPH").Occurs := Token.occurs_word (by decide) (by decide)
    simpa [Token.chars] using hname.spaced hgraph
  | everywhere =>
    rw [hcases] at hscope
    exact hscope.elim

theorem query_layout {q : Select} (h : q.Expressible) : Layout q.tokens q.chars := by
  have hselect : (Token.word "SELECT").Occurs := Token.occurs_word (by decide) (by decide)
  have hdistinct : (Token.word "DISTINCT").Occurs := Token.occurs_word (by decide) (by decide)
  have hwhere : (Token.word "WHERE").Occurs := Token.occurs_word (by decide) (by decide)
  -- The words are laid out from the last one to the first.
  have hclose : Layout [.closeBrace] ['}'] := .word (t := .closeBrace) trivial trivial .done
  have hopen := (group_layout h hclose).spaced (t := .openBrace) trivial
  have hselection := selection_layout (hopen.spaced hwhere) h.selected
  rw [Select.tokens, Select.chars_eq]
  cases q.distinct with
  | false => simpa [Token.chars] using hselection.spaced hselect
  | true => simpa [Token.chars] using (hselection.spaced hdistinct).spaced hselect

/-! ## The round trip -/

theorem parse_text {q : Select} (h : q.Expressible) : parse q.text = .ok q := by
  rw [parse, Select.text, String.toList_ofList, (query_layout h).tokenize_eq, ok_bind]
  exact query_eq_ok_iff.mpr (queryWords_tokens h)

theorem expressible_of_parse {text : String} {q : Select} (h : parse text = .ok q) :
    q.Expressible := by
  obtain ⟨tokens, htokens, hquery⟩ := bind_eq_ok_iff.mp h
  exact (query_eq_ok_iff.mp hquery).expressible (tokenize_occurs htokens)

/-- A query reads back from its written form exactly when it is expressible, and only such
queries are ever read: to write a query that was read and to read it again changes nothing. -/
theorem parse_text_iff_expressible :
    (∀ q : Select, parse q.text = .ok q ↔ q.Expressible) ∧
      ∀ (text : String) (q : Select), parse text = .ok q →
        q.Expressible ∧ parse q.text = .ok q := by
  refine ⟨fun q => ⟨expressible_of_parse, parse_text⟩, ?_⟩
  intro text q h
  exact ⟨expressible_of_parse h, parse_text (expressible_of_parse h)⟩

/-- A text with a prefix, keywords in small letters, no `WHERE` and no final dot. -/
theorem parse_text_of_short_forms :
    ∃ q, parse "prefix s: <http://s.org/> select ?who { ?who a s:Shop }" = .ok q ∧
      q.Expressible ∧ parse q.text = .ok q := by
  have hread : parse "prefix s: <http://s.org/> select ?who { ?who a s:Shop }" = .ok
      { selected := ["who"]
        patterns :=
          [⟨.variable "who", .term (.iri rdfType), .term (.iri "http://s.org/Shop")⟩] } := by
    decide +kernel
  exact ⟨_, hread, parse_text_iff_expressible.2 _ _ hread⟩

end LinkedData.Query
