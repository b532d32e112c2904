import LinkedData.Proofs.Text.Step
import LinkedData.Query.Parser
import Mathlib.Data.List.Basic

/-!
# LinkedData.Proofs.Query.Grammar -- the words that make up a query

The grammar of queries as relations between lists of words and what they stand for, and the
reader as a decision procedure for it: a reader that succeeds has taken words of its own part
of the grammar off the front, and words of that part are taken off when what follows does not
prolong them. A query is read from exactly the lists that the grammar derives it from.
-/

namespace LinkedData.Query

open LinkedData.Rdf LinkedData.Text

/-! ## The grammar -/

/-- The words of a term. -/
inductive TermWords (prefixes : Prefixes) : List Token → Term → Prop
  | iri (i : Iri) : TermWords prefixes [.iri i] (.iri i)
  | prefixed {name space : String} (tail : String) :
      prefixes.find? name = some space →
      TermWords prefixes [.prefixed name tail] (.iri (space ++ tail))
  | blank (label : String) : TermWords prefixes [.blank label] (.blank label)
  | type : TermWords prefixes [.word "a"] (.iri rdfType)
  | boolean {w : String} :
      w = "true" ∨ w = "false" → TermWords prefixes [.word w] (.literal (.typed w xsdBoolean))
  | integer {w : String} :
      (∀ c ∈ w.toList, c.isDigit = true) →
      TermWords prefixes [.word w] (.literal (.typed w xsdInteger))
  | string (value : String) : TermWords prefixes [.string value] (.literal (.string value))
  | tagged (value tag : String) :
      TermWords prefixes [.string value, .language tag] (.literal (.tagged value tag))
  | typed {words : List Token} {datatype : Iri} (value : String) :
      TermWords prefixes words (.iri datatype) →
      TermWords prefixes (.string value :: .caret :: words) (.literal (.typed value datatype))

/-- The words of a position. -/
inductive SlotWords (prefixes : Prefixes) : List Token → Slot → Prop
  | var (name : String) : SlotWords prefixes [.variable name] (.variable name)
  | term {words : List Token} {t : Term} :
      TermWords prefixes words t → SlotWords prefixes words (.term t)

/-- What can stand in the place of a predicate: a variable or an IRI. -/
def Slot.IsPredicate : Slot → Prop
  | .variable _ => True
  | .term (.iri _) => True
  | .term _ => False

/-- The words of a pattern. -/
inductive PatternWords (prefixes : Prefixes) : List Token → Pattern → Prop
  | slots {ss ps os : List Token} {s p o : Slot} :
      SlotWords prefixes ss s → SlotWords prefixes ps p → p.IsPredicate →
      SlotWords prefixes os o → PatternWords prefixes (ss ++ ps ++ os) ⟨s, p, o⟩

/-- The words of patterns; the last dot may be left out. -/
inductive PatternsWords (prefixes : Prefixes) : List Token → List Pattern → Prop
  | empty : PatternsWords prefixes [] []
  | last {words : List Token} {p : Pattern} :
      PatternWords prefixes words p → PatternsWords prefixes words [p]
  | more {words rest : List Token} {p : Pattern} {ps : List Pattern} :
      PatternWords prefixes words p → PatternsWords prefixes rest ps →
      PatternsWords prefixes (words ++ .dot :: rest) (p :: ps)

/-- The words between the outer braces. -/
inductive GroupWords (prefixes : Prefixes) : List Token → Scope → List Pattern → Prop
  | patterns {words : List Token} {ps : List Pattern} :
      PatternsWords prefixes words ps → GroupWords prefixes words .defaultGraph ps
  | graph {w : String} {name words : List Token} {i : Iri} {ps : List Pattern} :
      isKeyword "GRAPH" w = true → TermWords prefixes name (.iri i) →
      PatternsWords prefixes words ps →
      GroupWords prefixes (.word w :: (name ++ .openBrace :: (words ++ [.closeBrace])))
        (.named i) ps

/-- The words of prefix declarations, which turn one meaning of prefixes into another. -/
inductive Declares : Prefixes → List Token → Prefixes → Prop
  | done (prefixes : Prefixes) : Declares prefixes [] prefixes
  | declare {w name : String} {i : Iri} {words : List Token} {prefixes declared : Prefixes} :
      isKeyword "PREFIX" w = true → Declares (prefixes.insert name i) words declared →
      Declares prefixes (.word w :: .prefixed name "" :: .iri i :: words) declared

/-- A keyword that may be left out, and whether it is there. -/
inductive OptionalKeyword (keyword : String) : List Token → Bool → Prop
  | absent : OptionalKeyword keyword [] false
  | present {w : String} :
      isKeyword keyword w = true → OptionalKeyword keyword [.word w] true

/-- The words of what is selected. -/
inductive SelectionWords : List Token → List String → Prop
  | star : SelectionWords [.star] []
  | names {names : List String} :
      names ≠ [] → SelectionWords (names.map .variable) names

/-- The words of a query. -/
inductive QueryWords : List Token → Select → Prop
  | query {declarations distinctly selection place group : List Token} {w : String}
      {prefixes : Prefixes} {distinct placed : Bool} {selected : List String} {scope : Scope}
      {patterns : List Pattern} :
      Declares [] declarations prefixes → isKeyword "SELECT" w = true →
      OptionalKeyword "DISTINCT" distinctly distinct → SelectionWords selection selected →
      OptionalKeyword "WHERE" place placed → GroupWords prefixes group scope patterns →
      QueryWords (declarations ++ .word w :: (distinctly ++ (selection ++
        (place ++ .openBrace :: (group ++ [.closeBrace])))))
        { selected, distinct, patterns, scope }

/-! ## Terms and positions -/

/-- A word that gives the string in front of it a language tag or a datatype. -/
def Token.prolongsString : Token → Bool
  | .language _ | .caret => true
  | _ => false

/-- What follows does not belong to a string in front of it. -/
def EndsString (rest : List Token) : Prop :=
  ∀ u ∈ rest.head?, u.prolongsString = false

theorem endsString_cons {u : Token} (h : u.prolongsString = false) (rest : List Token) :
    EndsString (u :: rest) := by
  rintro v ⟨⟩
  exact h

theorem wordTerm?_eq_some {prefixes : Prefixes} {w : String} {t : Term}
    (h : wordTerm? w = some t) : TermWords prefixes [.word w] t := by
  unfold wordTerm? at h
  split at h
  · rename_i hw
    cases h
    subst hw
    exact .type
  · split at h
    · rename_i hw
      cases h
      exact .boolean hw
    · split at h
      · rename_i hw
        cases h
        exact .integer (by simpa using hw)
      · cases h

theorem wordTerm?_integer {w : String} (h : ∀ c ∈ w.toList, c.isDigit = true) :
    wordTerm? w = some (.literal (.typed w xsdInteger)) := by
  have hall : w.toList.all Char.isDigit = true := by simpa using h
  have hne : ∀ v : String, v.toList.all Char.isDigit = false → w ≠ v := by
    rintro v hv rfl
    rw [hall] at hv
    cases hv
  rw [wordTerm?, if_neg (hne "a" (by decide)),
    if_neg (not_or.mpr ⟨hne "true" (by decide), hne "false" (by decide)⟩), if_pos hall]

theorem term_sound {prefixes : Prefixes} {tokens rest : List Token} {t : Term}
    (h : term prefixes tokens = .ok (t, rest)) :
    ∃ words, tokens = words ++ rest ∧ TermWords prefixes words t := by
  fun_induction term prefixes tokens generalizing t rest with
  | case1 => cases h
  | case2 i tail =>
    cases h
    exact ⟨[.iri i], rfl, .iri i⟩
  | case3 name tail after space hspace =>
    cases h
    exact ⟨[.prefixed name tail], rfl, .prefixed tail hspace⟩
  | case4 => cases h
  | case5 label after =>
    cases h
    exact ⟨[.blank label], rfl, .blank label⟩
  | case6 w after t' hw =>
    cases h
    exact ⟨[.word w], rfl, wordTerm?_eq_some hw⟩
  | case7 => cases h
  | case8 value tag after =>
    cases h
    exact ⟨[.string value, .language tag], rfl, .tagged value tag⟩
  | case9 => cases h
  | case10 value after datatype after' hdatatype ih =>
    cases h
    obtain ⟨words, rfl, hwords⟩ := ih hdatatype
    exact ⟨.string value :: .caret :: words, rfl, .typed value hwords⟩
  | case11 => cases h
  | case12 value after =>
    cases h
    exact ⟨[.string value], rfl, .string value⟩
  | case13 => cases h

theorem term_complete {prefixes : Prefixes} {words rest : List Token} {t : Term}
    (h : TermWords prefixes words t) (hrest : EndsString rest) :
    term prefixes (words ++ rest) = .ok (t, rest) := by
  induction h with
  | iri i => rfl
  | prefixed tail hspace => simp only [List.cons_append, List.nil_append, term, hspace]
  | blank label => rfl
  | type => rfl
  | boolean hw =>
    rcases hw with rfl | rfl
    · rfl
    · rfl
  | integer hw => simp only [List.cons_append, List.nil_append, term, wordTerm?_integer hw]
  | string value =>
    refine term.eq_8 prefixes value rest ?_ ?_
    · rintro tag tail rfl
      cases hrest _ rfl
    · rintro tail rfl
      cases hrest _ rfl
  | tagged value tag => rfl
  | typed value _ ih => simp only [List.cons_append, term, ih]

theorem slot_sound {prefixes : Prefixes} {tokens rest : List Token} {s : Slot}
    (h : slot prefixes tokens = .ok (s, rest)) :
    ∃ words, tokens = words ++ rest ∧ SlotWords prefixes words s := by
  unfold slot at h
  split at h
  · rename_i name after
    cases h
    exact ⟨[.variable name], rfl, .var name⟩
  · obtain ⟨⟨t, after⟩, ht, hs⟩ := map_eq_ok_iff.mp h
    cases hs
    obtain ⟨words, hwords, hterm⟩ := term_sound ht
    exact ⟨words, hwords, .term hterm⟩

/-- A word that a position can start with, apart from the keyword that names a graph. -/
def Token.StartsSlot : Token → Prop
  | .word w => isKeyword "GRAPH" w = false
  | .iri _ | .prefixed _ _ | .variable _ | .blank _ | .string _ => True
  | .language _ | .caret | .star | .dot | .openBrace | .closeBrace => False

theorem isKeyword_of_digits {w : String} (h : ∀ c ∈ w.toList, c.isDigit = true) :
    isKeyword "GRAPH" w = false := by
  rw [isKeyword, beq_eq_false_iff_ne]
  intro hkeyword
  -- Digits have no other letter case, so none of them becomes the first letter.
  have hletter : 'G' ∈ w.toList.map Char.toUpper := by
    rw [hkeyword]
    decide
  obtain ⟨c, hc, hupper⟩ := List.mem_map.mp hletter
  have hdigit := h c hc
  simp only [Char.isDigit, Bool.and_eq_true, decide_eq_true_eq, ge_iff_le,
    UInt32.le_iff_toNat_le] at hdigit
  have hsame : c.toUpper = c := by
    refine dif_neg ?_
    rintro ⟨hlow, -⟩
    simp only [UInt32.le_iff_toNat_le] at hlow
    have : (97 : Nat) ≤ c.val.toNat := hlow
    have : c.val.toNat ≤ 57 := hdigit.2
    omega
  rw [hsame] at hupper
  rw [hupper] at hdigit
  exact absurd hdigit.2 (by decide)

theorem TermWords.start {prefixes : Prefixes} {words : List Token} {t : Term}
    (h : TermWords prefixes words t) : ∃ u tail, words = u :: tail ∧ u.StartsSlot := by
  cases h with
  | type => exact ⟨_, _, rfl, rfl⟩
  | boolean hw =>
    rcases hw with rfl | rfl
    · exact ⟨_, _, rfl, rfl⟩
    · exact ⟨_, _, rfl, rfl⟩
  | integer hw => exact ⟨_, _, rfl, isKeyword_of_digits hw⟩
  | _ => exact ⟨_, _, rfl, trivial⟩

theorem SlotWords.start {prefixes : Prefixes} {words : List Token} {s : Slot}
    (h : SlotWords prefixes words s) : ∃ u tail, words = u :: tail ∧ u.StartsSlot := by
  cases h with
  | var name => exact ⟨_, _, rfl, trivial⟩
  | term ht => exact ht.start

theorem SlotWords.endsString {prefixes : Prefixes} {words : List Token} {s : Slot}
    (h : SlotWords prefixes words s) (rest : List Token) : EndsString (words ++ rest) := by
  obtain ⟨u, tail, rfl, hu⟩ := h.start
  apply endsString_cons
  cases u with
  | language tag => exact hu.elim
  | caret => exact hu.elim
  | _ => rfl

theorem slot_complete {prefixes : Prefixes} {words rest : List Token} {s : Slot}
    (h : SlotWords prefixes words s) (hrest : EndsString rest) :
    slot prefixes (words ++ rest) = .ok (s, rest) := by
  cases h with
  | var name => rfl
  | term ht =>
    have hread := term_complete ht hrest
    unfold slot
    split
    · rename_i name after heq
      rw [heq] at hread
      cases hread
    · rw [hread]
      rfl

/-! ## Patterns -/

theorem checkPredicate_eq_ok_iff {s : Slot} : checkPredicate s = .ok () ↔ s.IsPredicate := by
  match s with
  | .variable name => simp [checkPredicate, Slot.IsPredicate]
  | .term (.node (.iri i)) => simp [checkPredicate, Slot.IsPredicate]
  | .term (.node (.blank label)) => simp [checkPredicate, Slot.IsPredicate]
  | .term (.literal l) => simp [checkPredicate, Slot.IsPredicate]

theorem pattern_sound {prefixes : Prefixes} {tokens rest : List Token} {p : Pattern}
    (h : pattern prefixes tokens = .ok (p, rest)) :
    ∃ words, tokens = words ++ rest ∧ PatternWords prefixes words p := by
  simp only [pattern, bind_eq_ok_iff, Prod.exists, pure_eq_ok_iff, Prod.mk.injEq] at h
  obtain ⟨s, afterSubject, hs, p', afterPredicate, hp, ⟨⟩, hpredicate, o, afterObject, ho, rfl,
    rfl⟩ := h
  obtain ⟨subjectWords, rfl, hsubject⟩ := slot_sound hs
  obtain ⟨predicateWords, rfl, hpredicateWords⟩ := slot_sound hp
  obtain ⟨objectWords, rfl, hobject⟩ := slot_sound ho
  refine ⟨subjectWords ++ predicateWords ++ objectWords, by simp, ?_⟩
  exact .slots hsubject hpredicateWords (checkPredicate_eq_ok_iff.mp hpredicate) hobject

theorem pattern_complete {prefixes : Prefixes} {words rest : List Token} {p : Pattern}
    (h : PatternWords prefixes words p) (hrest : EndsString rest) :
    pattern prefixes (words ++ rest) = .ok (p, rest) := by
  obtain ⟨hs, hp, hpredicate, ho⟩ := h
  rename_i subjectWords predicateWords objectWords s p o
  have hsubject := slot_complete hs (hp.endsString (objectWords ++ rest))
  have hread := slot_complete hp (ho.endsString rest)
  have hcheck := checkPredicate_eq_ok_iff.mpr hpredicate
  simp only [List.append_assoc, pattern, hsubject, ok_bind, hread, hcheck, slot_complete ho hrest]
  rfl

theorem PatternWords.start {prefixes : Prefixes} {words : List Token} {p : Pattern}
    (h : PatternWords prefixes words p) : ∃ u tail, words = u :: tail ∧ u.StartsSlot := by
  obtain ⟨hs, -, -, -⟩ := h
  obtain ⟨u, tail, rfl, hu⟩ := hs.start
  exact ⟨u, _, rfl, hu⟩

/-- Patterns are read one after another. -/
theorem patterns_step {prefixes : Prefixes} {words after afterDot : List Token} {p : Pattern}
    (h : PatternWords prefixes words p) (hafter : EndsString after)
    (hend : patternEnd after = .ok afterDot) :
    patterns prefixes (words ++ after) =
      (patterns prefixes afterDot).map fun r => (p :: r.1, r.2) := by
  have hread := pattern_complete h hafter
  obtain ⟨u, tail, rfl, hu⟩ := h.start
  rw [List.cons_append] at hread ⊢
  rw [patterns]
  · split
    · rename_i fault hfault
      rw [hread] at hfault
      cases hfault
    · rename_i p' after' hp'
      rw [hread] at hp'
      cases hp'
      split
      · rename_i fault hfault
        rw [hend] at hfault
        cases hfault
      · rename_i afterDot' hdot
        rw [hend] at hdot
        cases hdot
        rfl
  · rintro rfl
    exact hu

theorem patterns_close (prefixes : Prefixes) (rest : List Token) :
    patterns prefixes (.closeBrace :: rest) = .ok ([], .closeBrace :: rest) := by
  rw [patterns]

theorem patternEnd_eq_ok {tokens rest : List Token} (h : patternEnd tokens = .ok rest) :
    tokens = .dot :: rest ∨ tokens = rest ∧ ∃ tail, rest = .closeBrace :: tail := by
  unfold patternEnd at h
  split at h
  · cases h
    exact Or.inl rfl
  · cases h
    exact Or.inr ⟨rfl, _, rfl⟩
  · cases h

theorem patterns_sound {prefixes : Prefixes} {tokens rest : List Token} {ps : List Pattern}
    (h : patterns prefixes tokens = .ok (ps, rest)) :
    ∃ words, tokens = words ++ rest ∧ PatternsWords prefixes words ps := by
  fun_induction patterns prefixes tokens generalizing ps rest with
  | case1 =>
    cases h
    exact ⟨[], rfl, .empty⟩
  | case2 after =>
    cases h
    exact ⟨[], rfl, .empty⟩
  | case3 => cases h
  | case4 => cases h
  | case5 u after hu p afterPattern hp afterDot hdot ih =>
    obtain ⟨⟨ps', rest'⟩, hps, heq⟩ := map_eq_ok_iff.mp h
    cases heq
    obtain ⟨words, hwords, hpattern⟩ := pattern_sound hp
    -- Behind the pattern stands a dot, or the closing brace, which is left in place.
    rcases patternEnd_eq_ok hdot with rfl | ⟨rfl, tail, rfl⟩
    · obtain ⟨more, rfl, hmore⟩ := ih hps
      exact ⟨words ++ .dot :: more, by rw [hwords, List.append_assoc]; rfl, .more hpattern hmore⟩
    · rw [patterns_close] at hps
      cases hps
      exact ⟨words, hwords, .last hpattern⟩

theorem patterns_complete {prefixes : Prefixes} {words : List Token} {ps : List Pattern}
    (h : PatternsWords prefixes words ps) (rest : List Token) :
    patterns prefixes (words ++ .closeBrace :: rest) = .ok (ps, .closeBrace :: rest) := by
  induction h with
  | empty => exact patterns_close prefixes rest
  | last hp => rw [patterns_step hp (endsString_cons rfl _) rfl, patterns_close]; rfl
  | more hp _ ih =>
    rw [List.append_assoc, List.cons_append, patterns_step hp (endsString_cons rfl _) rfl, ih]
    rfl

/-! ## Groups -/

theorem afterKeyword?_eq_some {keyword : String} {tokens rest : List Token}
    (h : afterKeyword? keyword tokens = some rest) :
    ∃ w, tokens = .word w :: rest ∧ isKeyword keyword w = true := by
  unfold afterKeyword? at h
  split at h
  · rename_i w tail
    split at h
    · rename_i hw
      cases h
      exact ⟨w, rfl, hw⟩
    · cases h
  · cases h

theorem afterKeyword?_word {keyword w : String} (h : isKeyword keyword w = true)
    (rest : List Token) : afterKeyword? keyword (.word w :: rest) = some rest :=
  if_pos h

theorem afterKeyword?_other_word {keyword w : String} (h : isKeyword keyword w = false)
    (rest : List Token) : afterKeyword? keyword (.word w :: rest) = none :=
  if_neg (by simp [h])

theorem expectToken_eq_ok_iff {wanted : Token} {tokens rest : List Token} :
    expectToken wanted tokens = .ok rest ↔ tokens = wanted :: rest := by
  cases tokens with
  | nil => simp [expectToken]
  | cons t tokens =>
    by_cases ht : t = wanted
    · simp [expectToken, ht]
    · simp [expectToken, ht]

theorem group_sound {prefixes : Prefixes} {tokens rest : List Token} {scope : Scope}
    {ps : List Pattern} (h : group prefixes tokens = .ok ((scope, ps), rest)) :
    ∃ words, tokens = words ++ rest ∧ GroupWords prefixes words scope ps := by
  unfold group at h
  split at h
  · obtain ⟨⟨ps', rest'⟩, hps, heq⟩ := map_eq_ok_iff.mp h
    cases heq
    obtain ⟨words, hwords, hpatterns⟩ := patterns_sound hps
    exact ⟨words, hwords, .patterns hpatterns⟩
  · rename_i afterGraph hgraph
    obtain ⟨w, rfl, hw⟩ := afterKeyword?_eq_some hgraph
    obtain ⟨⟨t, afterName⟩, ht, h⟩ := bind_eq_ok_iff.mp h
    split at h
    · rename_i i afterName' heq
      cases heq
      simp only [bind_eq_ok_iff, expectToken_eq_ok_iff, Prod.exists, pure_eq_ok_iff,
        Prod.mk.injEq] at h
      obtain ⟨afterOpen, rfl, ps', afterPatterns, hps, afterClose, rfl, ⟨rfl, rfl⟩, rfl⟩ := h
      obtain ⟨name, rfl, hname⟩ := term_sound ht
      obtain ⟨words, rfl, hpatterns⟩ := patterns_sound hps
      exact ⟨.word w :: (name ++ .openBrace :: (words ++ [.closeBrace])), by simp,
        .graph hw hname hpatterns⟩
    · cases h

/-- Patterns do not start with the keyword that names a graph. -/
theorem PatternsWords.not_graph {prefixes : Prefixes} {words : List Token} {ps : List Pattern}
    (h : PatternsWords prefixes words ps) (rest : List Token) :
    afterKeyword? "GRAPH" (words ++ .closeBrace :: rest) = none := by
  have hslot : ∀ {u : Token} (tail : List Token), u.StartsSlot →
      afterKeyword? "GRAPH" (u :: tail) = none := by
    intro u tail hu
    cases u with
    | word w => exact afterKeyword?_other_word hu tail
    | _ => rfl
  cases h with
  | empty => rfl
  | last hp =>
    obtain ⟨u, tail, rfl, hu⟩ := hp.start
    exact hslot _ hu
  | more hp _ =>
    obtain ⟨u, tail, rfl, hu⟩ := hp.start
    exact hslot _ hu

theorem group_complete {prefixes : Prefixes} {words : List Token} {scope : Scope}
    {ps : List Pattern} (h : GroupWords prefixes words scope ps) (rest : List Token) :
    group prefixes (words ++ .closeBrace :: rest) = .ok ((scope, ps), .closeBrace :: rest) := by
  cases h with
  | patterns hps =>
    rw [group, hps.not_graph, patterns_complete hps]
    rfl
  | @graph w name inner i _ hw hname hps =>
    have hterm := term_complete hname
      (endsString_cons rfl (inner ++ .closeBrace :: .closeBrace :: rest) (u := .openBrace))
    have hpatterns := patterns_complete hps (.closeBrace :: rest)
    have htokens : .word w :: (name ++ .openBrace :: (inner ++ [.closeBrace])) ++
        .closeBrace :: rest = .word w ::
          (name ++ .openBrace :: (inner ++ .closeBrace :: .closeBrace :: rest)) := by
      simp
    rw [htokens, group, afterKeyword?_word hw]
    simp only [hterm, Term.iri, ok_bind, expectToken_eq_ok_iff.mpr rfl, hpatterns]
    rfl

/-! ## Queries -/

theorem declarations_sound {prefixes declared : Prefixes} {tokens rest : List Token}
    (h : declarations prefixes tokens = .ok (declared, rest)) :
    ∃ words, tokens = words ++ rest ∧ Declares prefixes words declared := by
  fun_induction declarations prefixes tokens with
  | case1 prefixes w hw name i tail ih =>
    obtain ⟨words, rfl, hwords⟩ := ih h
    exact ⟨.word w :: .prefixed name "" :: .iri i :: words, rfl, .declare hw hwords⟩
  | case2 => cases h
  | case3 => cases h
  | case4 =>
    cases h
    exact ⟨[], rfl, .done _⟩
  | case5 =>
    cases h
    exact ⟨[], rfl, .done _⟩

theorem declarations_complete {prefixes declared : Prefixes} {words : List Token} {w : String}
    (h : Declares prefixes words declared) (hw : isKeyword "PREFIX" w = false)
    (rest : List Token) :
    declarations prefixes (words ++ .word w :: rest) = .ok (declared, .word w :: rest) := by
  induction h with
  | done prefixes =>
    unfold declarations
    simp only [List.nil_append, hw, Bool.false_eq_true, if_false]
  | declare hprefix _ ih => simp only [List.cons_append, declarations, hprefix, if_true, ih]

/-- A word is at most one keyword. -/
theorem isKeyword_unique {keyword keyword' w : String} (h : isKeyword keyword w = true)
    (hne : keyword ≠ keyword') : isKeyword keyword' w = false := by
  rw [isKeyword, beq_eq_false_iff_ne]
  rw [isKeyword, beq_iff_eq] at h
  intro h'
  exact hne (String.toList_injective (h.symm.trans h'))

theorem optionalKeyword_sound (keyword : String) (tokens : List Token) :
    ∃ words, tokens = words ++ (afterKeyword? keyword tokens).getD tokens ∧
      OptionalKeyword keyword words (afterKeyword? keyword tokens).isSome := by
  cases h : afterKeyword? keyword tokens with
  | none => exact ⟨[], rfl, .absent⟩
  | some rest =>
    obtain ⟨w, rfl, hw⟩ := afterKeyword?_eq_some h
    exact ⟨[.word w], rfl, .present hw⟩

theorem optionalKeyword_complete {keyword : String} {words rest : List Token} {there : Bool}
    (h : OptionalKeyword keyword words there) (hrest : afterKeyword? keyword rest = none) :
    (afterKeyword? keyword (words ++ rest)).isSome = there ∧
      (afterKeyword? keyword (words ++ rest)).getD (words ++ rest) = rest := by
  cases h with
  | absent => simp [hrest]
  | present hw => simp [afterKeyword?_word hw]

theorem variableNames_sound (tokens : List Token) :
    tokens = (variableNames tokens).1.map .variable ++ (variableNames tokens).2 := by
  fun_induction variableNames tokens with
  | case1 name rest ih => rw [List.map_cons, List.cons_append, ← ih]
  | case2 => rfl

theorem variableNames_complete (names : List String) {rest : List Token}
    (hrest : ∀ name tail, rest ≠ .variable name :: tail) :
    variableNames (names.map .variable ++ rest) = (names, rest) := by
  induction names with
  | nil => exact variableNames.eq_2 rest fun name tail heq => hrest name tail heq
  | cons name names ih => rw [List.map_cons, List.cons_append, variableNames, ih]

theorem selection_sound {tokens rest : List Token} {selected : List String}
    (h : selection tokens = .ok (selected, rest)) :
    ∃ words, tokens = words ++ rest ∧ SelectionWords words selected := by
  unfold selection at h
  split at h
  · cases h
    exact ⟨[.star], rfl, .star⟩
  · split at h
    · cases h
    · rename_i names after hne hnames
      cases h
      have htokens := variableNames_sound tokens
      rw [hnames] at htokens
      refine ⟨_, htokens, .names ?_⟩
      rintro rfl
      exact hne rfl

theorem selection_complete {words rest : List Token} {selected : List String}
    (h : SelectionWords words selected) (hrest : ∀ name tail, rest ≠ .variable name :: tail) :
    selection (words ++ rest) = .ok (selected, rest) := by
  cases h with
  | star => rfl
  | names hne =>
    obtain ⟨name, names, rfl⟩ := List.exists_cons_of_ne_nil hne
    have hnames := variableNames_complete (name :: names) hrest
    unfold selection
    split
    · rename_i heq
      cases heq
    · rw [hnames]

theorem SelectionWords.start {words : List Token} {selected : List String}
    (h : SelectionWords words selected) (keyword : String) (rest : List Token) :
    afterKeyword? keyword (words ++ rest) = none := by
  cases h with
  | star => rfl
  | names hne =>
    obtain ⟨name, names, rfl⟩ := List.exists_cons_of_ne_nil hne
    rfl

theorem query_sound {tokens : List Token} {q : Select} (h : query tokens = .ok q) :
    QueryWords tokens q := by
  unfold query at h
  obtain ⟨⟨prefixes, afterDeclarations⟩, hdeclarations, h⟩ := bind_eq_ok_iff.mp h
  simp only at h
  split at h
  · cases h
  · rename_i afterSelect hselect
    simp only [bind_eq_ok_iff, Prod.exists, expectToken_eq_ok_iff] at h
    obtain ⟨selected, afterSelection, hselection, afterOpen, hopen, scope, ps, afterGroup,
      hgroup, afterClose, rfl, h⟩ := h
    split at h
    · cases h
      -- Every reader has taken its own words off the front of what the one before it left.
      obtain ⟨declarationWords, rfl, hdeclares⟩ := declarations_sound hdeclarations
      obtain ⟨w, rfl, hw⟩ := afterKeyword?_eq_some hselect
      obtain ⟨distinctly, hdistinctly, hdistinct⟩ := optionalKeyword_sound "DISTINCT" afterSelect
      obtain ⟨selectionWords, hselectionWords, hselected⟩ := selection_sound hselection
      obtain ⟨place, hplace, hwhere⟩ := optionalKeyword_sound "WHERE" afterSelection
      obtain ⟨groupWords, rfl, hgroupWords⟩ := group_sound hgroup
      have hquery := QueryWords.query hdeclares hw hdistinct hselected hwhere hgroupWords
      rwa [← hopen, ← hplace, ← hselectionWords, ← hdistinctly] at hquery
    · cases h

theorem query_complete {tokens : List Token} {q : Select} (h : QueryWords tokens q) :
    query tokens = .ok q := by
  obtain ⟨hdeclares, hselect, hdistinct, hselection, hwhere, hgroup⟩ := h
  rename_i declarationWords distinctly selectionWords place groupWords w prefixes distinct placed
    selected scope ps
  -- No optional part is taken for there when it is not: what follows starts with another word.
  have hnot : isKeyword "PREFIX" w = false := isKeyword_unique hselect (by decide)
  have hopen : afterKeyword? "WHERE" (.openBrace :: (groupWords ++ [.closeBrace])) = none := rfl
  obtain ⟨-, hafterWhere⟩ := optionalKeyword_complete hwhere hopen
  obtain ⟨hthere, hafterDistinct⟩ := optionalKeyword_complete hdistinct
    (hselection.start "DISTINCT" (place ++ .openBrace :: (groupWords ++ [.closeBrace])))
  have hplace : ∀ name tail,
      place ++ .openBrace :: (groupWords ++ [.closeBrace]) ≠ .variable name :: tail := by
    intro name tail
    cases hwhere with
    | absent => simp
    | present => simp
  have hselect' := selection_complete hselection hplace
  simp only [query, declarations_complete hdeclares hnot, ok_bind, afterKeyword?_word hselect,
    hthere, hafterDistinct, hselect', hafterWhere, expectToken_eq_ok_iff.mpr rfl,
    group_complete hgroup []]
  rfl

/-- A query is read from exactly the words that the grammar derives it from. -/
theorem query_eq_ok_iff {tokens : List Token} {q : Select} :
    query tokens = .ok q ↔ QueryWords tokens q :=
  ⟨query_sound, query_complete⟩

/-! ## Texts -/

/-- The last of the declarations of a prefix among some words is one of this IRI. -/
def DeclaredLast (words : List Token) (name : String) (i : Iri) : Prop :=
  ∃ before after, words = before ++ .prefixed name "" :: .iri i :: after ∧
    .prefixed name "" ∉ after

/-- The first declaration counts when no other one follows. -/
theorem declaredLast_cons {w name name' : String} {i i' : Iri} {words : List Token} :
    DeclaredLast (.word w :: .prefixed name' "" :: .iri i' :: words) name i ↔
      DeclaredLast words name i ∨ (name' = name ∧ i' = i ∧ .prefixed name "" ∉ words) := by
  constructor
  · rintro ⟨before, after, hwords, hlast⟩
    match before with
    | [] => simp at hwords
    | [_] =>
      simp only [List.cons_append, List.nil_append, List.cons.injEq, Token.prefixed.injEq,
        Token.iri.injEq] at hwords
      obtain ⟨-, ⟨hname, -⟩, hiri, rfl⟩ := hwords
      exact Or.inr ⟨hname, hiri, hlast⟩
    | [_, _] => simp at hwords
    | _ :: _ :: _ :: before =>
      simp only [List.cons_append, List.cons.injEq] at hwords
      exact Or.inl ⟨before, after, hwords.2.2.2, hlast⟩
  · rintro (⟨before, after, rfl, hlast⟩ | ⟨rfl, rfl, hlast⟩)
    · exact ⟨.word w :: .prefixed name' "" :: .iri i' :: before, after, rfl, hlast⟩
    · exact ⟨[.word w], words, rfl, hlast⟩

/-- A prefix stands for what its last declaration says, and without a declaration for what it
stood for before. -/
theorem Declares.find?_eq_some_iff {prefixes declared : Prefixes} {words : List Token}
    (h : Declares prefixes words declared) (name : String) (i : Iri) :
    declared.find? name = some i ↔ DeclaredLast words name i ∨
      (.prefixed name "" ∉ words ∧ prefixes.find? name = some i) := by
  induction h with
  | done prefixes => simp [DeclaredLast]
  | @declare w name' i' words prefixes declared _ _ ih =>
    rw [ih, declaredLast_cons, Dict.find?_insert]
    by_cases hname : name' = name
    · subst hname
      simp [and_comm]
    · simp [hname, Ne.symm hname]

/-- A text is read as a query exactly when it falls into words and the grammar derives the query
from all of them. In the grammar a prefix stands for the IRI of its last declaration. -/
theorem parse_eq_ok_iff_derived :
    (∀ (text : String) (q : Select), parse text = .ok q ↔
      ∃ tokens, tokenize text.toList = .ok tokens ∧ QueryWords tokens q) ∧
    ∀ (words : List Token) (declared : Prefixes), Declares [] words declared →
      ∀ (name : String) (i : Iri), declared.find? name = some i ↔ DeclaredLast words name i := by
  refine ⟨?_, ?_⟩
  · intro text q
    simp only [parse, bind_eq_ok_iff, query_eq_ok_iff]
  · intro words declared hdeclares name i
    rw [hdeclares.find?_eq_some_iff]
    simp

/-- A prefix that is declared twice, keywords in mixed case, a graph named by an abbreviation,
literals of three kinds, and no dot at the end. -/
theorem parse_eq_ok_iff_derived_twiceDeclared :
    let declarations : List Token := [.word "Prefix", .prefixed "e" "", .iri "e:1#",
      .word "PREFIX", .prefixed "e" "", .iri "e:2#"]
    ∃ (tokens : List Token) (q : Select),
      parse "Prefix e: <e:1#> PREFIX e: <e:2#> seLect ?a $b \x7b
        graph a \x7b _:n e:p true . ?a ?b \"x\"^^e:t . e:s a 7 \x7d \x7d" = .ok q ∧
      QueryWords tokens q ∧ q.scope = .named rdfType ∧
      Declares [] declarations [("e", "e:2#")] ∧ DeclaredLast declarations "e" "e:2#" := by
  intro declarations
  obtain ⟨hreads, hcounts⟩ := parse_eq_ok_iff_derived
  have hread : parse "Prefix e: <e:1#> PREFIX e: <e:2#> seLect ?a $b \x7b
        graph a \x7b _:n e:p true . ?a ?b \"x\"^^e:t . e:s a 7 \x7d \x7d" = .ok
      { selected := ["a", "b"]
        patterns :=
          [⟨.term (.blank "n"), .term (.iri "e:2#p"), .term (.literal (.typed "true" xsdBoolean))⟩,
            ⟨.variable "a", .variable "b", .term (.literal (.typed "x" "e:2#t"))⟩,
            ⟨.term (.iri "e:2#s"), .term (.iri rdfType), .term (.literal (.typed "7" xsdInteger))⟩]
        scope := .named rdfType } := by
    decide +kernel
  have hdeclares : Declares [] declarations [("e", "e:2#")] :=
    .declare (by decide) (.declare (by decide) (.done _))
  have hfind : Dict.find? [("e", "e:2#")] "e" = some "e:2#" := by decide
  obtain ⟨tokens, -, hwords⟩ := (hreads _ _).mp hread
  exact ⟨tokens, _, hread, hwords, rfl, hdeclares, (hcounts _ _ hdeclares _ _).mp hfind⟩

end LinkedData.Query
