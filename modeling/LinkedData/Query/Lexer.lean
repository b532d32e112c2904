import LinkedData.Query.Fault
import LinkedData.Text.Alphanumeric
import LinkedData.Text.Blank

/-!
# LinkedData.Query.Lexer -- query text as words

White space and comments, which run from a `#` between words to the end of the line, only
separate words. A name takes in letters, digits and `_ - : .`, but gives the dots at its end
back, since they end patterns.
-/

namespace LinkedData.Query

open LinkedData.Text

/-- The characters of a name. -/
def isNameChar (c : Char) : Bool :=
  isAlphanumeric c || c == '_' || c == '-' || c == ':' || c == '.'

/-- The characters of a variable. -/
def isVariableChar (c : Char) : Bool :=
  isAlphanumeric c || c == '_'

/-- The characters of a language tag. -/
def isLanguageChar (c : Char) : Bool :=
  isAsciiAlphanumeric c || c == '-'

/-- The character that an escape letter stands for. -/
def escapedLetter? (c : Char) : Option Char :=
  if c = 'n' then some '\n'
  else if c = 't' then some '\t'
  else if c = 'r' then some '\r'
  else if c = '"' ∨ c = '\\' ∨ c = '\'' then some c
  else none

/-- Reads a string up to its closing quote. -/
def stringBody : List Char → Except Fault (List Char × List Char)
  | [] => .error .unterminatedString
  | '"' :: rest => .ok ([], rest)
  | ['\\'] => .error .unterminatedString
  | '\\' :: c :: rest =>
    match escapedLetter? c with
    | none => .error (.unknownEscape c)
    | some d => (stringBody rest).map fun r => (d :: r.1, r.2)
  | c :: rest => (stringBody rest).map fun r => (c :: r.1, r.2)

/-- The word that a name is: a blank node, a prefixed name, or a plain word. -/
def classify (name : List Char) : Token :=
  match name with
  | '_' :: ':' :: label => .blank (String.ofList label)
  | _ =>
    match name.dropWhile (· != ':') with
    | [] => .word (String.ofList name)
    | _ :: tail => .prefixed (String.ofList (name.takeWhile (· != ':'))) (String.ofList tail)

/-- The name at the front of a text whose first character is `c`. -/
def nameOf (c : Char) (rest : List Char) : List Char :=
  c :: dropTailWhile (· == '.') (rest.takeWhile isNameChar)

/-- Reads an IRI up to its closing bracket. -/
def iriToken (rest : List Char) : Except Fault (Token × List Char) :=
  match rest.dropWhile (· != '>') with
  | [] => .error .unterminatedIri
  | _ :: after => .ok (.iri (String.ofList (rest.takeWhile (· != '>'))), after)

/-- Reads the longest run of a class of characters, at least one. -/
def runToken (p : Char → Bool) (make : String → Token) (fault : Fault) (rest : List Char) :
    Except Fault (Token × List Char) :=
  let run := rest.takeWhile p
  if run.isEmpty then .error fault else .ok (make (String.ofList run), rest.dropWhile p)

/-- Reads the word whose first character is `c`. -/
def lexToken (c : Char) (rest : List Char) : Except Fault (Token × List Char) :=
  if c = '{' then .ok (.openBrace, rest)
  else if c = '}' then .ok (.closeBrace, rest)
  else if c = '.' then .ok (.dot, rest)
  else if c = '*' then .ok (.star, rest)
  else if c = '^' ∧ rest.head? = some '^' then .ok (.caret, rest.drop 1)
  else if c = '<' then iriToken rest
  else if c = '"' then (stringBody rest).map fun r => (.string (String.ofList r.1), r.2)
  else if c = '@' then runToken isLanguageChar .language .emptyLanguage rest
  else if c = '?' ∨ c = '$' then runToken isVariableChar .variable .emptyVariable rest
  else if isNameChar c then
    .ok (classify (nameOf c rest), rest.drop ((nameOf c rest).length - 1))
  else .error (.unexpectedCharacter c)

theorem stringBody_length {cs body rest : List Char} (h : stringBody cs = .ok (body, rest)) :
    rest.length ≤ cs.length := by
  fun_induction stringBody cs generalizing body rest with
  | case1 => cases h
  | case2 after =>
    simp only [Except.ok.injEq, Prod.mk.injEq] at h
    simp [← h.2]
  | case3 => cases h
  | case4 => cases h
  | case5 c tail d _ ih =>
    cases hb : stringBody tail with
    | error e => simp [hb, Except.map] at h
    | ok r =>
      have := ih hb
      simp only [hb, Except.map, Except.ok.injEq, Prod.mk.injEq] at h
      simp only [List.length_cons, ← h.2]
      omega
  | case6 c tail _ _ _ ih =>
    cases hb : stringBody tail with
    | error e => simp [hb, Except.map] at h
    | ok r =>
      have := ih hb
      simp only [hb, Except.map, Except.ok.injEq, Prod.mk.injEq] at h
      simp only [List.length_cons, ← h.2]
      omega

theorem iriToken_length {rest after : List Char} {t : Token}
    (h : iriToken rest = .ok (t, after)) : after.length ≤ rest.length := by
  unfold iriToken at h
  split at h
  · cases h
  · rename_i c tail htail
    simp only [Except.ok.injEq, Prod.mk.injEq] at h
    have := (List.dropWhile_suffix (l := rest) (· != '>')).length_le
    rw [htail, List.length_cons] at this
    rw [← h.2]
    omega

theorem runToken_length {p : Char → Bool} {make : String → Token} {fault : Fault}
    {rest after : List Char} {t : Token} (h : runToken p make fault rest = .ok (t, after)) :
    after.length ≤ rest.length := by
  unfold runToken at h
  simp only at h
  split at h
  · cases h
  · simp only [Except.ok.injEq, Prod.mk.injEq] at h
    rw [← h.2]
    exact (List.dropWhile_suffix _).length_le

theorem lexToken_length {c : Char} {rest after : List Char} {t : Token}
    (h : lexToken c rest = .ok (t, after)) : after.length ≤ rest.length := by
  unfold lexToken at h
  iterate 5
    split at h
    · simp only [Except.ok.injEq, Prod.mk.injEq] at h
      obtain ⟨_, rfl⟩ := h
      simp
  split at h
  · exact iriToken_length h
  split at h
  · cases hb : stringBody rest with
    | error e => simp [hb, Except.map] at h
    | ok r =>
      have := stringBody_length hb
      simp only [hb, Except.map, Except.ok.injEq, Prod.mk.injEq] at h
      rw [← h.2]
      exact this
  iterate 2
    split at h
    · exact runToken_length h
  split at h
  · simp only [Except.ok.injEq, Prod.mk.injEq] at h
    rw [← h.2]
    simp
  · cases h

/-- What is left of a text after the comment at its front. -/
def afterComment (cs : List Char) : List Char :=
  cs.dropWhile (· != '\n')

/-- The words of a text. -/
def tokenize (cs : List Char) : Except Fault (List Token) :=
  match cs with
  | [] => .ok []
  | c :: rest =>
    if isBlank c then tokenize rest
    else if c = '#' then tokenize (afterComment rest)
    else
      match _h : lexToken c rest with
      | .error e => .error e
      | .ok (t, after) => (tokenize after).map (t :: ·)
termination_by cs.length
decreasing_by
  · simp
  · have := (List.dropWhile_suffix (l := rest) (· != '\n')).length_le
    simp only [afterComment, List.length_cons]
    omega
  · have := lexToken_length _h
    simp only [List.length_cons]
    omega

end LinkedData.Query
