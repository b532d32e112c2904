import LinkedData.NQuads.Escape
import LinkedData.Rdf.Term
import LinkedData.Text.Alphanumeric
import LinkedData.Text.Blank

/-!
# LinkedData.NQuads.Statement -- one line, one statement

A statement is a subject, a predicate, an object, perhaps a graph name, and a dot, with any
run of spaces and tabs (also none) after each of them; a comment may follow. Every reader
takes the text from its own first character on and returns what it read with the text that
is left. The first fault ends the reading.
-/

namespace LinkedData.NQuads

open LinkedData.Rdf LinkedData.Text

/-- Puts a character in front of the text that was read. -/
def consRead (c : Char) :
    Except Fault (List Char × List Char) → Except Fault (List Char × List Char)
  | .ok (cs, rest) => .ok (c :: cs, rest)
  | .error e => .error e

/-- Drops the spaces and tabs at the front. -/
def skipSpace (cs : List Char) : List Char :=
  cs.dropWhile fun c => c == ' ' || c == '\t'

/-- Requires a fixed character at the front and drops it. -/
def expect (wanted : Char) : List Char → Except Fault (List Char)
  | [] => .error (.expected wanted none)
  | c :: rest => if c = wanted then .ok rest else .error (.expected wanted (some c))

/-! ## Terms -/

/-- Reads the text of an IRI up to its closing bracket. -/
def iriBody (cs : List Char) : Except Fault (List Char × List Char) :=
  match cs with
  | [] => .error .unterminatedIri
  | c :: rest =>
    if c = '>' then .ok ([], rest)
    else if c = '\\' then
      match _h : numericEscape rest with
      | .error e => .error e
      | .ok (d, after) => consRead d (iriBody after)
    else if c = ' ' ∨ c = '<' ∨ c = '"' then .error (.invalidInIri c)
    else consRead c (iriBody rest)
termination_by cs.length
decreasing_by
  · have := numericEscape_length _h
    simp only [List.length_cons]
    omega
  · simp

/-- Reads an IRI in angle brackets. -/
def iri (cs : List Char) : Except Fault (Iri × List Char) := do
  let rest ← expect '<' cs
  let (text, rest) ← iriBody rest
  return (String.ofList text, rest)

/-- The characters of a blank node label. -/
def isLabelChar (c : Char) : Bool :=
  isAlphanumeric c || c == '_' || c == '-' || c == '.'

/-- The label at the front of a text: the longest run of label characters, with the dots at
its end given back, since they end the statement. -/
def labelOf (cs : List Char) : List Char :=
  dropTailWhile (· == '.') (cs.takeWhile isLabelChar)

/-- Reads a blank node. -/
def blankNode (cs : List Char) : Except Fault (String × List Char) := do
  let rest ← expect '_' cs
  let rest ← expect ':' rest
  let label := labelOf rest
  if label.isEmpty then .error .emptyLabel
  else return (String.ofList label, rest.drop label.length)

/-- Reads the characters of a literal up to its closing quote. -/
def literalBody (cs : List Char) : Except Fault (List Char × List Char) :=
  match cs with
  | [] => .error .unterminatedLiteral
  | c :: rest =>
    if c = '"' then .ok ([], rest)
    else if c = '\\' then
      match _h : literalEscape rest with
      | .error e => .error e
      | .ok (d, after) => consRead d (literalBody after)
    else consRead c (literalBody rest)
termination_by cs.length
decreasing_by
  · have := literalEscape_length _h
    simp only [List.length_cons]
    omega
  · simp

/-- The characters of a language tag. -/
def isTagChar (c : Char) : Bool :=
  isAsciiAlphanumeric c || c == '-'

/-- Reads what follows the closing quote of a literal with this value. -/
def literalSuffix (value : String) (cs : List Char) : Except Fault (Literal × List Char) :=
  match cs with
  | '@' :: rest =>
    let tag := rest.takeWhile isTagChar
    if tag.isEmpty then .error .emptyLanguage
    else .ok (.tagged value (String.ofList tag), rest.dropWhile isTagChar)
  | '^' :: rest => do
    let rest ← expect '^' rest
    let (datatype, rest) ← iri rest
    return (.typed value datatype, rest)
  | _ => .ok (.string value, cs)

/-- Reads a literal. -/
def literal (cs : List Char) : Except Fault (Literal × List Char) := do
  let rest ← expect '"' cs
  let (value, rest) ← literalBody rest
  literalSuffix (String.ofList value) rest

/-- Reads a term; its first character tells its kind. -/
def term (cs : List Char) : Except Fault (Term × List Char) :=
  match cs with
  | [] => .error .missingTerm
  | c :: _ =>
    if c = '<' then do
      let (i, rest) ← iri cs
      return (.iri i, rest)
    else if c = '_' then do
      let (label, rest) ← blankNode cs
      return (.blank label, rest)
    else if c = '"' then do
      let (l, rest) ← literal cs
      return (.literal l, rest)
    else .error (.unexpected c)

/-- Reads a term that is no literal; `fault` reports one. -/
def node (fault : Fault) (cs : List Char) : Except Fault (Node × List Char) := do
  match ← term cs with
  | (.node n, rest) => return (n, rest)
  | (.literal _, _) => .error fault

/-! ## Statements -/

/-- Reads the graph name, which is there unless the dot comes next. -/
def graphName (cs : List Char) : Except Fault (Option Node × List Char) :=
  match cs with
  | '.' :: _ => .ok (none, cs)
  | _ => do
    let (g, rest) ← node .literalGraph cs
    return (some g, skipSpace rest)

/-- Requires that nothing but a comment follows. -/
def endOfLine : List Char → Except Fault Unit
  | [] => .ok ()
  | c :: _ => if c = '#' then .ok () else .error .contentAfterDot

/-- Reads a line without white space at its ends as one statement. -/
def statement (line : List Char) : Except Fault Quad := do
  let (subject, rest) ← node .literalSubject line
  let (predicate, rest) ← iri (skipSpace rest)
  let (object, rest) ← term (skipSpace rest)
  let (graph, rest) ← graphName (skipSpace rest)
  let rest ← expect '.' rest
  endOfLine (skipSpace rest)
  return { subject, predicate, object, graph }

end LinkedData.NQuads
