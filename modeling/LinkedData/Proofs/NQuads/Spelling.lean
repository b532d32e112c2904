import LinkedData.Proofs.NQuads.RoundTrip

/-!
# LinkedData.Proofs.NQuads.Spelling -- which lines are statements

A statement has many spellings: characters may be escaped or not, terms may touch or stand
apart, and a comment may follow. `SpellsStatement` is the grammar of all of them. It speaks of
texts alone: every part of a spelling is a text that begins with something, and what follows
that. Reading a line gives a quad exactly when the line is a spelling of it.

Only a blank node looks beyond itself. Its label is the longest run of label characters but
for the dots at the end of the run, so what follows a label are these dots and then no
character of labels.
-/

namespace LinkedData.NQuads

open LinkedData.Rdf LinkedData.Text

/-! ## The grammar -/

/-- The letter of a numeric escape and its digits: four after `u`, and eight after `U`. -/
inductive IsCode : Char → List Char → Prop
  | short {digits : List Char} : digits.length = 4 → AreHexDigits digits → IsCode 'u' digits
  | long {digits : List Char} : digits.length = 8 → AreHexDigits digits → IsCode 'U' digits

/-- What follows the backslash of a numeric escape, and the character that it names: the one
with this number, or the one whose surrogate halves are written in two escapes. -/
inductive CodeEscape : List Char → Char → Prop
  | scalar {letter : Char} {digits : List Char} {c : Char} :
      IsCode letter digits → c.toNat = hexNumber digits → CodeEscape (letter :: digits) c
  | pair {letter : Char} {high low : List Char} {c : Char} (a b : Nat) :
      IsCode letter high → IsCode 'u' low →
      hexNumber high = 0xD800 + a → a < 0x400 → hexNumber low = 0xDC00 + b → b < 0x400 →
      c.toNat = 0x10000 + 0x400 * a + b →
      CodeEscape (letter :: (high ++ '\\' :: 'u' :: low)) c

/-- The escapes of a single letter, and the characters that they stand for. -/
def letterEscapes : List (Char × Char) :=
  [('t', '\t'), ('b', '\x08'), ('n', '\n'), ('r', '\r'), ('f', '\x0c'), ('"', '"'),
    ('\'', '\''), ('\\', '\\')]

/-- What follows the backslash of an escape in a literal, and the character that it names. -/
inductive ValueEscape : List Char → Char → Prop
  | letter {c d : Char} : (c, d) ∈ letterEscapes → ValueEscape [c] d
  | code {written : List Char} {d : Char} : CodeEscape written d → ValueEscape written d

/-- Spaces and tabs, or nothing. -/
def IsGap (gap : List Char) : Prop :=
  ∀ c ∈ gap, c = ' ' ∨ c = '\t'

/-- A text begins with an IRI between angle brackets, and `rest` follows. -/
inductive SpellsIri : List Char → Iri → List Char → Prop
  | bracketed {written : List Char} {i : Iri} (rest : List Char) :
      Spelled IsRawInIri CodeEscape written i.toList →
      SpellsIri ('<' :: (written ++ '>' :: rest)) i rest

/-- A text begins with an IRI or a blank node, and `rest` follows. -/
inductive SpellsNode : List Char → Node → List Char → Prop
  | iri {text rest : List Char} {i : Iri} : SpellsIri text i rest → SpellsNode text (.iri i) rest
  | blank {label : String} {rest : List Char} : IsLabel label → EndsLabel rest →
      SpellsNode ('_' :: ':' :: (label.toList ++ rest)) (.blank label) rest

/-- A text begins with what may follow the closing quote of a literal: nothing, a language
tag, or a datatype. -/
inductive SpellsSuffix : List Char → Literal → List Char → Prop
  | string (value : String) (rest : List Char) : SpellsSuffix rest (.string value) rest
  | tagged (value : String) {tag : String} (rest : List Char) : IsTag tag →
      SpellsSuffix ('@' :: (tag.toList ++ rest)) (.tagged value tag) rest
  | typed (value : String) {text rest : List Char} {datatype : Iri} :
      SpellsIri text datatype rest →
      SpellsSuffix ('^' :: '^' :: text) (.typed value datatype) rest

/-- A text begins with a literal, and `rest` follows. -/
inductive SpellsLiteral : List Char → Literal → List Char → Prop
  | quoted {written after rest : List Char} {l : Literal} :
      Spelled IsRawInLiteral ValueEscape written l.value.toList → SpellsSuffix after l rest →
      SpellsLiteral ('"' :: (written ++ '"' :: after)) l rest

/-- A text begins with a term, and `rest` follows. -/
inductive SpellsTerm : List Char → Term → List Char → Prop
  | node {text rest : List Char} {n : Node} :
      SpellsNode text n rest → SpellsTerm text (.node n) rest
  | literal {text rest : List Char} {l : Literal} :
      SpellsLiteral text l rest → SpellsTerm text (.literal l) rest

/-- A text begins with a graph name and a gap, or with nothing for the default graph, and
`rest` follows. -/
inductive SpellsGraph : List Char → Option Node → List Char → Prop
  | default (rest : List Char) : SpellsGraph rest none rest
  | named {text gap rest : List Char} {n : Node} : SpellsNode text n (gap ++ rest) → IsGap gap →
      SpellsGraph text (some n) rest

/-- Nothing, or a comment. -/
def IsLineEnd (rest : List Char) : Prop :=
  ∀ c ∈ rest.head?, c = '#'

/-- A line is a spelling of a quad: its terms in order, perhaps without a graph name, then a
dot, a gap after each of them, and perhaps a comment. -/
inductive SpellsStatement : List Char → Quad → Prop
  | terms {line predicate object graph gap₁ gap₂ gap₃ gap₄ rest : List Char} {q : Quad} :
      SpellsNode line q.subject (gap₁ ++ predicate) → IsGap gap₁ →
      SpellsIri predicate q.predicate (gap₂ ++ object) → IsGap gap₂ →
      SpellsTerm object q.object (gap₃ ++ graph) → IsGap gap₃ →
      SpellsGraph graph q.graph ('.' :: (gap₄ ++ rest)) → IsGap gap₄ → IsLineEnd rest →
      SpellsStatement line q

/-! ## Escapes -/

theorem escapeWidth?_eq_some_iff {letter : Char} {digits : List Char} :
    escapeWidth? letter = some digits.length ∧ AreHexDigits digits ↔ IsCode letter digits := by
  constructor
  · rintro ⟨hwidth, hdigits⟩
    unfold escapeWidth? at hwidth
    split at hwidth
    · rename_i hletter
      subst hletter
      exact .short (Option.some.inj hwidth).symm hdigits
    · split at hwidth
      · rename_i hletter
        subst hletter
        exact .long (Option.some.inj hwidth).symm hdigits
      · cases hwidth
  · rintro (⟨hlength, hdigits⟩ | ⟨hlength, hdigits⟩)
    · exact ⟨congrArg some hlength.symm, hdigits⟩
    · exact ⟨congrArg some hlength.symm, hdigits⟩

theorem toNat_ofNat {n : Nat} (h : n.isValidChar) : (Char.ofNat n).toNat = n := by
  rw [Char.ofNat, dif_pos h]
  rfl

theorem isHighSurrogate_iff {n : Nat} :
    isHighSurrogate n = true ↔ ∃ a, n = 0xD800 + a ∧ a < 0x400 := by
  simp only [isHighSurrogate, Bool.and_eq_true, decide_eq_true_eq]
  constructor
  · intro h
    exact ⟨n - 0xD800, by omega, by omega⟩
  · rintro ⟨a, rfl, ha⟩
    omega

theorem isLowSurrogate_iff {n : Nat} :
    isLowSurrogate n = true ↔ ∃ b, n = 0xDC00 + b ∧ b < 0x400 := by
  simp only [isLowSurrogate, Bool.and_eq_true, decide_eq_true_eq]
  constructor
  · intro h
    exact ⟨n - 0xDC00, by omega, by omega⟩
  · rintro ⟨b, rfl, hb⟩
    omega

/-- Two halves always join to a character beyond the first plane. -/
theorem toNat_joinSurrogates {a b : Nat} (ha : a < 0x400) (hb : b < 0x400) :
    (joinSurrogates (0xD800 + a) (0xDC00 + b)).toNat = 0x10000 + 0x400 * a + b := by
  have hvalid : (0x10000 + (0xD800 + a - 0xD800) * 0x400 + (0xDC00 + b - 0xDC00)).isValidChar := by
    refine Or.inr ⟨?_, ?_⟩ <;> omega
  rw [joinSurrogates, toNat_ofNat hvalid]
  omega

theorem numericEscape_iff {written : List Char} {c : Char} :
    NumericEscape written c ↔ CodeEscape written c := by
  constructor
  · intro h
    cases h with
    | scalar hwidth hdigits _ hvalid =>
      exact .scalar (escapeWidth?_eq_some_iff.mp ⟨hwidth, hdigits⟩) (toNat_ofNat hvalid)
    | pair hwidth hdigits hhigh hlength hlow hislow =>
      obtain ⟨a, hhighNumber, ha⟩ := isHighSurrogate_iff.mp hhigh
      obtain ⟨b, hlowNumber, hb⟩ := isLowSurrogate_iff.mp hislow
      refine .pair a b (escapeWidth?_eq_some_iff.mp ⟨hwidth, hdigits⟩) (.short hlength hlow)
        hhighNumber ha hlowNumber hb ?_
      rw [hhighNumber, hlowNumber, toNat_joinSurrogates ha hb]
  · intro h
    cases h with
    | @scalar letter digits c hcode hc =>
      obtain ⟨hwidth, hdigits⟩ := escapeWidth?_eq_some_iff.mpr hcode
      have hvalid : (hexNumber digits).isValidChar := hc ▸ c.valid
      -- No character has the number of a surrogate half.
      have hhigh : isHighSurrogate (hexNumber digits) = false := by
        rw [Bool.eq_false_iff]
        intro hhigh
        obtain ⟨a, ha, hlt⟩ := isHighSurrogate_iff.mp hhigh
        rw [ha] at hvalid
        rcases hvalid with h | ⟨h, -⟩ <;> omega
      rw [← Char.ofNat_toNat c, hc]
      exact .scalar hwidth hdigits hhigh hvalid
    | pair a b hcode hlowCode hhigh ha hlow hb hc =>
      obtain ⟨hwidth, hdigits⟩ := escapeWidth?_eq_some_iff.mpr hcode
      cases hlowCode with
      | short hlength hlowDigits =>
        have heq := Char.toNat_inj.mp (hc.trans (toNat_joinSurrogates ha hb).symm)
        rw [heq, ← hhigh, ← hlow]
        exact .pair hwidth hdigits (isHighSurrogate_iff.mpr ⟨a, hhigh, ha⟩) hlength hlowDigits
          (isLowSurrogate_iff.mpr ⟨b, hlow, hb⟩)

theorem letterEscape?_eq_some_iff {c d : Char} :
    letterEscape? c = some d ↔ (c, d) ∈ letterEscapes := by
  simp only [letterEscape?, letterEscapes, List.mem_cons, Prod.mk.injEq, List.not_mem_nil, or_false]
  grind

theorem literalEscape_iff {written : List Char} {c : Char} :
    LiteralEscape written c ↔ ValueEscape written c := by
  constructor
  · rintro (hletter | hnumeric)
    · exact .letter (letterEscape?_eq_some_iff.mp hletter)
    · exact .code (numericEscape_iff.mp hnumeric)
  · rintro (hletter | hcode)
    · exact .letter (letterEscape?_eq_some_iff.mpr hletter)
    · exact .numeric (numericEscape_iff.mpr hcode)

theorem Spelled.imp {raw : Char → Prop} {escape escape' : List Char → Char → Prop}
    (h : ∀ e c, escape e c → escape' e c) {written text : List Char}
    (hspelled : Spelled raw escape written text) : Spelled raw escape' written text := by
  induction hspelled with
  | nil => exact .nil
  | raw hc _ ih => exact .raw hc ih
  | escaped he _ ih => exact .escaped (h _ _ he) ih

/-! ## Terms -/

theorem iri_eq_ok_iff_spells {cs rest : List Char} {i : Iri} :
    iri cs = .ok (i, rest) ↔ SpellsIri cs i rest := by
  rw [iri_eq_ok_iff]
  constructor
  · rintro ⟨written, hwritten, rfl⟩
    exact .bracketed rest (hwritten.imp fun _ _ => numericEscape_iff.mp)
  · rintro ⟨_, hwritten⟩
    exact ⟨_, hwritten.imp fun _ _ => numericEscape_iff.mpr, rfl⟩

theorem blankNode_eq_ok_iff {cs rest : List Char} {label : String} :
    blankNode cs = .ok (label, rest) ↔
      IsLabel label ∧ EndsLabel rest ∧ cs = '_' :: ':' :: (label.toList ++ rest) := by
  constructor
  · intro h
    obtain ⟨hcs, hnonempty, hchars, hlast, hrest⟩ := blankNode_eq_ok h
    exact ⟨⟨hnonempty, hchars, hlast⟩, hrest, hcs⟩
  · rintro ⟨hlabel, hrest, rfl⟩
    exact blankNode_written hlabel hrest

/-- A text on which a literal may border: a gap, the name of a graph, or the dot. -/
def EndsLiteral (rest : List Char) : Prop :=
  ∀ c ∈ rest.head?, c ∈ [' ', '\t', '<', '_', '.']

theorem literalSuffix_sound {value : String} {cs rest : List Char} {l : Literal}
    (h : literalSuffix value cs = .ok (l, rest)) : l.value = value ∧ SpellsSuffix cs l rest := by
  rcases literalSuffix_eq_ok h with ⟨tag, rfl, rfl, hnonempty, hchars⟩ |
    ⟨datatype, after, rfl, rfl, hiri⟩ | ⟨rfl, rfl⟩
  · exact ⟨rfl, .tagged value rest ⟨hnonempty, hchars⟩⟩
  · exact ⟨rfl, .typed value (iri_eq_ok_iff_spells.mp hiri)⟩
  · exact ⟨rfl, .string value cs⟩

theorem literalSuffix_complete {cs rest : List Char} {l : Literal} (h : SpellsSuffix cs l rest)
    (hrest : EndsLiteral rest) : literalSuffix l.value cs = .ok (l, rest) := by
  cases h with
  | string value =>
    unfold literalSuffix
    split
    · exact absurd (hrest '@' rfl) (by decide)
    · exact absurd (hrest '^' rfl) (by decide)
    · rfl
  | @tagged value tag _ htag =>
    have hstops : StopsAt isTagChar rest := by
      intro c hc
      have hmem := hrest c hc
      revert hmem
      simp only [List.mem_cons, List.not_mem_nil, or_false]
      rintro (rfl | rfl | rfl | rfl | rfl) <;> decide
    have hnonempty : tag.toList.isEmpty = false := by simpa using htag.nonempty
    simp only [literalSuffix, takeWhile_run htag.chars hstops, dropWhile_run htag.chars hstops,
      hnonempty, Bool.false_eq_true, if_false, String.ofList_toList]
    rfl
  | @typed value text _ datatype hiri =>
    have hread := iri_eq_ok_iff_spells.mpr hiri
    simp only [literalSuffix, expect, if_true, ok_bind, hread]
    rfl

theorem literal_sound {cs rest : List Char} {l : Literal} (h : literal cs = .ok (l, rest)) :
    SpellsLiteral cs l rest := by
  obtain ⟨written, value, after, hwritten, rfl, hsuffix⟩ := literal_eq_ok_iff.mp h
  obtain ⟨hvalue, hspells⟩ := literalSuffix_sound hsuffix
  refine .quoted ?_ hspells
  rw [hvalue, String.toList_ofList]
  exact hwritten.imp fun _ _ => literalEscape_iff.mp

theorem literal_complete {cs rest : List Char} {l : Literal} (h : SpellsLiteral cs l rest)
    (hrest : EndsLiteral rest) : literal cs = .ok (l, rest) := by
  cases h with
  | @quoted written after _ _ hwritten hsuffix =>
    refine literal_eq_ok_iff.mpr ⟨written, l.value.toList, after,
      hwritten.imp fun _ _ => literalEscape_iff.mpr, rfl, ?_⟩
    rw [String.ofList_toList]
    exact literalSuffix_complete hsuffix hrest

theorem term_node_eq_ok_iff {cs rest : List Char} {n : Node} :
    term cs = .ok (.node n, rest) ↔ SpellsNode cs n rest := by
  rw [term_eq_ok_iff]
  constructor
  · rintro (⟨i, heq, hi⟩ | ⟨label, heq, hblank⟩ | ⟨l, heq, -⟩)
    · cases heq
      exact .iri (iri_eq_ok_iff_spells.mp hi)
    · cases heq
      obtain ⟨hlabel, hrest, rfl⟩ := blankNode_eq_ok_iff.mp hblank
      exact .blank hlabel hrest
    · cases heq
  · rintro (hi | ⟨hlabel, hrest⟩)
    · exact Or.inl ⟨_, rfl, iri_eq_ok_iff_spells.mpr hi⟩
    · exact Or.inr (Or.inl ⟨_, rfl, blankNode_eq_ok_iff.mpr ⟨hlabel, hrest, rfl⟩⟩)

theorem node_eq_ok_iff_spells {fault : Fault} {cs rest : List Char} {n : Node} :
    node fault cs = .ok (n, rest) ↔ SpellsNode cs n rest :=
  node_eq_ok_iff.trans term_node_eq_ok_iff

theorem term_sound {cs rest : List Char} {t : Term} (h : term cs = .ok (t, rest)) :
    SpellsTerm cs t rest := by
  cases t with
  | node n => exact .node (term_node_eq_ok_iff.mp h)
  | literal l =>
    rcases term_eq_ok_iff.mp h with ⟨i, heq, -⟩ | ⟨label, heq, -⟩ | ⟨l', heq, hl⟩
    · cases heq
    · cases heq
    · cases heq
      exact .literal (literal_sound hl)

theorem term_complete {cs rest : List Char} {t : Term} (h : SpellsTerm cs t rest)
    (hrest : EndsLiteral rest) : term cs = .ok (t, rest) := by
  cases h with
  | node hnode => exact term_node_eq_ok_iff.mpr hnode
  | literal hl => exact term_eq_ok_iff.mpr (Or.inr (Or.inr ⟨_, rfl, literal_complete hl hrest⟩))

/-! ## Gaps and what may border on them -/

/-- The characters of gaps. -/
def isSpace (c : Char) : Bool :=
  c == ' ' || c == '\t'

theorem isGap_iff {gap : List Char} : IsGap gap ↔ ∀ c ∈ gap, isSpace c = true := by
  simp [IsGap, isSpace]

/-- A gap is skipped up to what follows it. -/
theorem skipSpace_gap {gap rest : List Char} (hgap : IsGap gap) (hrest : StopsAt isSpace rest) :
    skipSpace (gap ++ rest) = rest :=
  dropWhile_run (isGap_iff.mp hgap) hrest

theorem exists_gap (cs : List Char) : ∃ gap, IsGap gap ∧ cs = gap ++ skipSpace cs :=
  ⟨cs.takeWhile isSpace, isGap_iff.mpr fun _ hc => List.mem_takeWhile_imp hc,
    List.takeWhile_append_dropWhile.symm⟩

/-- A text begins with one of some characters. -/
def StartsIn (starts cs : List Char) : Prop :=
  ∃ c ∈ starts, cs.head? = some c

theorem StartsIn.stopsAt {starts cs : List Char} {p : Char → Bool} (h : StartsIn starts cs)
    (hp : (starts.any p) = false) : StopsAt p cs := by
  obtain ⟨c, hc, hhead⟩ := h
  intro d hd
  rw [hhead] at hd
  cases hd
  simpa using List.any_eq_false.mp hp c hc

theorem SpellsIri.start {cs rest : List Char} {i : Iri} (h : SpellsIri cs i rest) :
    StartsIn ['<'] cs := by
  cases h
  exact ⟨'<', by decide, rfl⟩

theorem SpellsNode.start {cs rest : List Char} {n : Node} (h : SpellsNode cs n rest) :
    StartsIn ['<', '_'] cs := by
  cases h with
  | iri hi =>
    cases hi
    exact ⟨'<', by decide, rfl⟩
  | blank => exact ⟨'_', by decide, rfl⟩

theorem StartsIn.imp {starts more cs : List Char} (h : StartsIn starts cs)
    (hmore : starts ⊆ more) : StartsIn more cs := by
  obtain ⟨c, hc, hhead⟩ := h
  exact ⟨c, hmore hc, hhead⟩

theorem SpellsTerm.start {cs rest : List Char} {t : Term} (h : SpellsTerm cs t rest) :
    StartsIn ['<', '_', '"'] cs := by
  cases h with
  | node hn => exact hn.start.imp (by decide)
  | literal hl =>
    cases hl
    exact ⟨'"', by decide, rfl⟩

theorem SpellsGraph.start {cs rest : List Char} {g : Option Node}
    (h : SpellsGraph cs g ('.' :: rest)) : StartsIn ['<', '_', '.'] cs := by
  cases h with
  | default => exact ⟨'.', by decide, rfl⟩
  | named hn => exact hn.start.imp (by decide)

/-- Neither the name of a graph nor the dot can be taken for a part of the literal in front. -/
theorem endsLiteral_gap {gap graph rest : List Char} {g : Option Node} (hgap : IsGap gap)
    (hgraph : SpellsGraph graph g ('.' :: rest)) : EndsLiteral (gap ++ graph) := by
  intro c hc
  cases gap with
  | nil =>
    obtain ⟨d, hd, hhead⟩ := hgraph.start
    rw [List.nil_append, hhead] at hc
    cases hc
    have hmore : ['<', '_', '.'] ⊆ [' ', '\t', '<', '_', '.'] := by decide
    exact hmore hd
  | cons d gap =>
    cases hc
    rcases hgap c (List.mem_cons_self ..) with rfl | rfl <;> decide

/-! ## Statements -/

theorem graphName_sound {cs rest : List Char} {g : Option Node}
    (h : graphName cs = .ok (g, rest)) : SpellsGraph cs g rest := by
  unfold graphName at h
  split at h
  · cases h
    exact .default _
  · simp only [bind_eq_ok_iff, Prod.exists, pure_eq_ok_iff, Prod.mk.injEq] at h
    obtain ⟨n, after, hn, rfl, rfl⟩ := h
    obtain ⟨gap, hgap, hafter⟩ := exists_gap after
    rw [hafter, node_eq_ok_iff_spells] at hn
    exact .named hn hgap

theorem graphName_complete {cs rest : List Char} {g : Option Node}
    (h : SpellsGraph cs g ('.' :: rest)) : graphName cs = .ok (g, '.' :: rest) := by
  cases h with
  | default => rfl
  | named hn hgap =>
    have hnoDot : ∀ tail, cs = '.' :: tail → False := by
      rintro tail rfl
      have hstops : StopsAt (· == '.') ('.' :: tail) := hn.start.stopsAt (by decide)
      exact absurd (stopsAt_cons.mp hstops) (by decide)
    have hdot : StopsAt isSpace ('.' :: rest) := stopsAt_cons.mpr (by decide)
    have hskip := skipSpace_gap hgap hdot
    rw [graphName.eq_2 _ hnoDot, node_eq_ok_iff_spells.mpr hn, ok_bind]
    exact congrArg (fun left => Except.ok (_, left)) hskip

theorem endOfLine_eq_ok_iff {cs : List Char} : endOfLine cs = .ok () ↔ IsLineEnd cs := by
  cases cs with
  | nil => simp [endOfLine, IsLineEnd]
  | cons c cs =>
    by_cases hc : c = '#'
    · simp [endOfLine, IsLineEnd, hc]
    · simp [endOfLine, IsLineEnd, hc]

theorem IsLineEnd.stopsAt {rest : List Char} (h : IsLineEnd rest) : StopsAt isSpace rest := by
  intro c hc
  rw [h c hc]
  decide

/-- A line is read as a quad exactly when it is a spelling of that quad. -/
theorem statement_eq_ok_iff {line : List Char} {q : Quad} :
    statement line = .ok q ↔ SpellsStatement line q := by
  constructor
  · intro h
    simp only [statement, bind_eq_ok_iff, Prod.exists, pure_eq_ok_iff, expect_eq_ok_iff] at h
    obtain ⟨subject, afterSubject, hs, predicate, afterPredicate, hp, object, afterObject, ho,
      graph, afterGraph, hg, afterDot, rfl, _, hend, rfl⟩ := h
    -- What is skipped between two terms is the gap between them.
    obtain ⟨gap₁, hgap₁, heq₁⟩ := exists_gap afterSubject
    obtain ⟨gap₂, hgap₂, heq₂⟩ := exists_gap afterPredicate
    obtain ⟨gap₃, hgap₃, heq₃⟩ := exists_gap afterObject
    obtain ⟨gap₄, hgap₄, heq₄⟩ := exists_gap afterDot
    rw [heq₁] at hs
    rw [heq₂] at hp
    rw [heq₃] at ho
    rw [heq₄] at hg
    exact .terms (node_eq_ok_iff_spells.mp hs) hgap₁ (iri_eq_ok_iff_spells.mp hp) hgap₂
      (term_sound ho) hgap₃ (graphName_sound hg) hgap₄ (endOfLine_eq_ok_iff.mp hend)
  · intro h
    cases h with
    | terms hs hgap₁ hp hgap₂ ho hgap₃ hg hgap₄ hend =>
      have hskip₁ := skipSpace_gap hgap₁ (hp.start.stopsAt (by decide))
      have hskip₂ := skipSpace_gap hgap₂ (ho.start.stopsAt (by decide))
      have hskip₃ := skipSpace_gap hgap₃ (hg.start.stopsAt (by decide))
      have hskip₄ := skipSpace_gap hgap₄ hend.stopsAt
      simp only [statement, node_eq_ok_iff_spells.mpr hs, ok_bind, hskip₁,
        iri_eq_ok_iff_spells.mpr hp, hskip₂, term_complete ho (endsLiteral_gap hgap₃ hg), hskip₃,
        graphName_complete hg, expect, if_true, hskip₄, endOfLine_eq_ok_iff.mpr hend]
      rfl

end LinkedData.NQuads
