import LinkedData.Query.Basic
import LinkedData.Query.Lexer

/-!
# LinkedData.Query.Parser -- queries from their words

    query    ::= (PREFIX name: <iri>)* SELECT DISTINCT? (* | ?name+) WHERE? { group }
    group    ::= patterns | GRAPH term { patterns }
    patterns ::= (slot slot slot (. | before }))*

Keywords may be written in any letter case; the words `a`, `true` and `false` may not. The
first fault ends the reading.
-/

namespace LinkedData.Query

open LinkedData.Rdf LinkedData.Text

/-- The IRIs that prefixes stand for. -/
abbrev Prefixes := Dict Iri

/-- Whether the next word is a keyword, in any letter case. -/
def isKeyword (keyword : String) (word : String) : Bool :=
  word.toList.map Char.toUpper == keyword.toList

/-- What follows a keyword, if it comes next. -/
def afterKeyword? (keyword : String) : List Token → Option (List Token)
  | .word w :: rest => if isKeyword keyword w then some rest else none
  | _ => none

/-- Requires a fixed word. -/
def expectToken (wanted : Token) : List Token → Except Fault (List Token)
  | [] => .error (.expected wanted none)
  | t :: rest => if t = wanted then .ok rest else .error (.expected wanted (some t))

/-- Reads the prefix declarations, of which a later one for the same prefix wins. -/
def declarations (prefixes : Prefixes) : List Token → Except Fault (Prefixes × List Token)
  | .word w :: rest =>
    if isKeyword "PREFIX" w then
      match rest with
      | .prefixed name "" :: .iri iri :: rest => declarations (prefixes.insert name iri) rest
      | .prefixed _ "" :: rest => .error (.prefixIri rest.head?)
      | _ => .error (.prefixName rest.head?)
    else .ok (prefixes, .word w :: rest)
  | tokens => .ok (prefixes, tokens)

/-- The literal or IRI that a plain word stands for. -/
def wordTerm? (w : String) : Option Term :=
  if w = "a" then some (.iri rdfType)
  else if w = "true" ∨ w = "false" then some (.literal (.typed w xsdBoolean))
  else if w.toList.all Char.isDigit then some (.literal (.typed w xsdInteger))
  else none

/-- Reads a term. -/
def term (prefixes : Prefixes) : List Token → Except Fault (Term × List Token)
  | [] => .error .unexpectedEnd
  | .iri iri :: rest => .ok (.iri iri, rest)
  | .prefixed name tail :: rest =>
    match prefixes.find? name with
    | some space => .ok (.iri (space ++ tail), rest)
    | none => .error (.undeclaredPrefix name)
  | .blank label :: rest => .ok (.blank label, rest)
  | .word w :: rest =>
    match wordTerm? w with
    | some t => .ok (t, rest)
    | none => .error (.unexpectedToken (.word w))
  | .string value :: .language tag :: rest => .ok (.literal (.tagged value tag), rest)
  | .string value :: .caret :: rest =>
    match term prefixes rest with
    | .error e => .error e
    | .ok (.node (.iri datatype), rest) => .ok (.literal (.typed value datatype), rest)
    | .ok (other, _) => .error (.datatypeNeedsIri other)
  | .string value :: rest => .ok (.literal (.string value), rest)
  | t :: _ => .error (.unexpectedToken t)

/-- Reads a variable or a term. -/
def slot (prefixes : Prefixes) : List Token → Except Fault (Slot × List Token)
  | .variable name :: rest => .ok (.variable name, rest)
  | tokens => (term prefixes tokens).map fun r => (.term r.1, r.2)

/-- Requires that a position can hold a predicate. -/
def checkPredicate : Slot → Except Fault Unit
  | .term (.literal l) => .error (.notPredicate (.literal l))
  | .term (.node (.blank label)) => .error (.notPredicate (.blank label))
  | _ => .ok ()

/-- Reads three positions. -/
def pattern (prefixes : Prefixes) (tokens : List Token) :
    Except Fault (Pattern × List Token) := do
  let (subject, rest) ← slot prefixes tokens
  let (predicate, rest) ← slot prefixes rest
  checkPredicate predicate
  let (object, rest) ← slot prefixes rest
  return ({ subject, predicate, object }, rest)

/-- Reads the dot after a pattern, which may be left out before the closing brace. -/
def patternEnd : List Token → Except Fault (List Token)
  | .dot :: rest => .ok rest
  | .closeBrace :: rest => .ok (.closeBrace :: rest)
  | _ => .error .afterPattern

theorem term_length {prefixes : Prefixes} {tokens rest : List Token} {t : Term}
    (h : term prefixes tokens = .ok (t, rest)) : rest.length < tokens.length := by
  fun_induction term prefixes tokens generalizing t rest
  case case8 value tag tail =>
    simp only [Except.ok.injEq, Prod.mk.injEq] at h
    simp only [List.length_cons, ← h.2]
    omega
  case case10 value after datatype tail hd ih =>
    have := ih hd
    simp only [Except.ok.injEq, Prod.mk.injEq] at h
    simp only [List.length_cons, ← h.2]
    omega
  all_goals simp_all

theorem slot_length {prefixes : Prefixes} {tokens rest : List Token} {s : Slot}
    (h : slot prefixes tokens = .ok (s, rest)) : rest.length < tokens.length := by
  unfold slot at h
  split at h
  · simp only [Except.ok.injEq, Prod.mk.injEq] at h
    simp [← h.2]
  · cases ht : term prefixes tokens with
    | error e => simp [ht, Except.map] at h
    | ok r =>
      have := term_length ht
      simp only [ht, Except.map, Except.ok.injEq, Prod.mk.injEq] at h
      rwa [← h.2]

theorem pattern_length {prefixes : Prefixes} {tokens rest : List Token} {p : Pattern}
    (h : pattern prefixes tokens = .ok (p, rest)) : rest.length < tokens.length := by
  unfold pattern at h
  simp only [bind, Except.bind, pure, Except.pure] at h
  split at h
  · cases h
  · rename_i r₁ h₁
    split at h
    · cases h
    · rename_i r₂ h₂
      split at h
      · cases h
      · split at h
        · cases h
        · rename_i r₃ h₃
          have := slot_length h₁
          have := slot_length h₂
          have := slot_length h₃
          simp only [Except.ok.injEq, Prod.mk.injEq] at h
          rw [← h.2]
          omega

theorem patternEnd_length {tokens rest : List Token} (h : patternEnd tokens = .ok rest) :
    rest.length ≤ tokens.length := by
  unfold patternEnd at h
  split at h
  · cases h; simp
  · cases h; simp
  · cases h

/-- Reads patterns up to the closing brace, which is left, or the end of the text. -/
def patterns (prefixes : Prefixes) (tokens : List Token) :
    Except Fault (List Pattern × List Token) :=
  match tokens with
  | [] => .ok ([], [])
  | .closeBrace :: rest => .ok ([], .closeBrace :: rest)
  | t :: rest =>
    match _h₁ : pattern prefixes (t :: rest) with
    | .error e => .error e
    | .ok (p, afterPattern) =>
      match _h₂ : patternEnd afterPattern with
      | .error e => .error e
      | .ok afterDot => (patterns prefixes afterDot).map fun r => (p :: r.1, r.2)
termination_by tokens.length
decreasing_by
  have := pattern_length _h₁
  have := patternEnd_length _h₂
  omega

/-- The variables at the front, and what follows them. -/
def variableNames : List Token → List String × List Token
  | .variable name :: rest => (name :: (variableNames rest).1, (variableNames rest).2)
  | tokens => ([], tokens)

/-- Reads what is selected; an empty list stands for everything. -/
def selection : List Token → Except Fault (List String × List Token)
  | .star :: rest => .ok ([], rest)
  | tokens =>
    match variableNames tokens with
    | ([], _) => .error .noSelection
    | (names, rest) => .ok (names, rest)

/-- Reads what stands between the outer braces. -/
def group (prefixes : Prefixes) (tokens : List Token) :
    Except Fault ((Scope × List Pattern) × List Token) :=
  match afterKeyword? "GRAPH" tokens with
  | none => (patterns prefixes tokens).map fun r => ((.defaultGraph, r.1), r.2)
  | some rest => do
    match ← term prefixes rest with
    | (.node (.iri iri), rest) =>
      let rest ← expectToken .openBrace rest
      let (ps, rest) ← patterns prefixes rest
      let rest ← expectToken .closeBrace rest
      return ((.named iri, ps), rest)
    | (other, _) => .error (.graphNeedsIri other)

/-- Reads a whole query from its words. -/
def query (tokens : List Token) : Except Fault Select := do
  let (prefixes, rest) ← declarations [] tokens
  match afterKeyword? "SELECT" rest with
  | none => .error .notSelect
  | some rest =>
    let distinct := (afterKeyword? "DISTINCT" rest).isSome
    let (selected, rest) ← selection ((afterKeyword? "DISTINCT" rest).getD rest)
    let rest ← expectToken .openBrace ((afterKeyword? "WHERE" rest).getD rest)
    let ((scope, patterns), rest) ← group prefixes rest
    match ← expectToken .closeBrace rest with
    | [] => return { selected, distinct, patterns, scope }
    | t :: _ => .error (.afterQuery t)

/-- Reads a query from its text. -/
def parse (text : String) : Except Fault Select := do
  query (← tokenize text.toList)

end LinkedData.Query
