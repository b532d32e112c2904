import LinkedData.Rdf.Written
import LinkedData.Text.Shown

/-!
# LinkedData.Query.Fault -- why a text is no query

The words of query text, and everything that can be wrong with them. Reports name a word by
its kind and text.
-/

namespace LinkedData.Query

open LinkedData.Rdf LinkedData.Text

/-- A word of query text. -/
inductive Token where
  /-- A keyword, a number, or any other name without a colon. -/
  | word (text : String)
  /-- A name with a colon, split at the first one. -/
  | prefixed (space tail : String)
  | variable (name : String)
  | iri (iri : Iri)
  | blank (label : String)
  | string (value : String)
  | language (tag : String)
  | caret
  | star
  | dot
  | openBrace
  | closeBrace
deriving DecidableEq, Repr

/-- A word as a report names it. -/
def Token.report : Token → List Char
  | .word s => "Word(".toList ++ shown s ++ [')']
  | .prefixed p s => "Prefixed(".toList ++ shown p ++ ", ".toList ++ shown s ++ [')']
  | .variable s => "Variable(".toList ++ shown s ++ [')']
  | .iri s => "Iri(".toList ++ shown s ++ [')']
  | .blank s => "Blank(".toList ++ shown s ++ [')']
  | .string s => "Str(".toList ++ shown s ++ [')']
  | .language s => "LangTag(".toList ++ shown s ++ [')']
  | .caret => "DoubleCaret".toList
  | .star => "Star".toList
  | .dot => "Dot".toList
  | .openBrace => "LBrace".toList
  | .closeBrace => "RBrace".toList

/-- A word that may be missing, as a report names it. -/
def reportOption : Option Token → List Char
  | none => "None".toList
  | some t => "Some(".toList ++ t.report ++ [')']

/-- The first thing that is wrong with a query text. -/
inductive Fault where
  | unterminatedIri
  | unterminatedString
  | unknownEscape (letter : Char)
  | emptyLanguage
  | emptyVariable
  /-- No word starts with this character. -/
  | unexpectedCharacter (found : Char)
  /-- A fixed word is missing. -/
  | expected (wanted : Token) (found : Option Token)
  | prefixName (found : Option Token)
  | prefixIri (found : Option Token)
  /-- The query does not start with `SELECT`. -/
  | notSelect
  /-- Nothing is selected. -/
  | noSelection
  | graphNeedsIri (found : Term)
  | datatypeNeedsIri (found : Term)
  /-- A word follows the end of the query. -/
  | afterQuery (found : Token)
  | notPredicate (found : Term)
  /-- A pattern is followed by neither a dot nor the closing brace. -/
  | afterPattern
  | undeclaredPrefix (name : String)
  /-- No term starts with this word. -/
  | unexpectedToken (found : Token)
  /-- The text ends where a term is due. -/
  | unexpectedEnd
deriving DecidableEq, Repr

/-- The report of a fault. -/
def Fault.message : Fault → List Char
  | .unterminatedIri => "unterminated IRI".toList
  | .unterminatedString => "unterminated string".toList
  | .unknownEscape c => "unknown escape \\".toList ++ [c]
  | .emptyLanguage => "empty language tag".toList
  | .emptyVariable => "empty variable name".toList
  | .unexpectedCharacter c => "unexpected character '".toList ++ [c, '\'']
  | .expected wanted found =>
    "expected ".toList ++ wanted.report ++ ", found ".toList ++
      (found.map Token.report).getD "end of query".toList
  | .prefixName found => "expected prefix name, found ".toList ++ reportOption found
  | .prefixIri found => "expected prefix IRI, found ".toList ++ reportOption found
  | .notSelect => "only SELECT queries are supported".toList
  | .noSelection => "SELECT needs '*' or at least one variable".toList
  | .graphNeedsIri t => "GRAPH needs an IRI, found ".toList ++ t.chars
  | .datatypeNeedsIri t => "expected an IRI, found ".toList ++ t.chars
  | .afterQuery t => "unexpected ".toList ++ t.report ++ " after query".toList
  | .notPredicate t => t.chars ++ " can't be a predicate".toList
  | .afterPattern => "expected '.' or '\x7d' after a triple pattern".toList
  | .undeclaredPrefix name => "undeclared prefix '".toList ++ name.toList ++ [':', '\'']
  | .unexpectedToken t => "unexpected ".toList ++ t.report
  | .unexpectedEnd => "unexpected end of query".toList

/-- The report of a fault as a string. -/
def Fault.text (f : Fault) : String :=
  "invalid query: " ++ String.ofList f.message

end LinkedData.Query
