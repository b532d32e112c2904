import LinkedData.Query.Basic
import LinkedData.Rdf.Written

/-!
# LinkedData.Query.Written -- queries as text

The written form spells every term in full and ends every pattern with a dot. A query over
all graphs has no spelling of its own and is written like one over the default graph.
-/

namespace LinkedData.Query

open LinkedData.Rdf

/-- The written form of a position. -/
def Slot.chars : Slot → List Char
  | .variable name => '?' :: name.toList
  | .term t => t.chars

/-- The written form of a pattern. -/
def Pattern.chars (p : Pattern) : List Char :=
  p.subject.chars ++ ' ' :: p.predicate.chars ++ ' ' :: p.object.chars ++ [' ', '.']

/-- The written form of the selected variables. -/
def selectionChars : List String → List Char
  | [] => ['*']
  | [v] => '?' :: v.toList
  | v :: w :: rest => '?' :: v.toList ++ ' ' :: selectionChars (w :: rest)

/-- The patterns with a space after each. -/
def patternsChars (patterns : List Pattern) : List Char :=
  patterns.flatMap fun p => p.chars ++ [' ']

/-- The written form of a query. -/
def Select.chars (q : Select) : List Char :=
  "SELECT ".toList ++ (if q.distinct then "DISTINCT ".toList else []) ++
    selectionChars q.selected ++ " WHERE ".toList ++ ['{', ' '] ++
    (match q.scope with
      | .named iri => "GRAPH ".toList ++ iriChars iri ++ [' ', '{', ' '] ++
          patternsChars q.patterns ++ ['}', ' ']
      | _ => patternsChars q.patterns) ++
    ['}']

/-- The written form of a pattern as a string. -/
def Pattern.text (p : Pattern) : String :=
  String.ofList p.chars

/-- The written form of a query as a string. -/
def Select.text (q : Select) : String :=
  String.ofList q.chars

end LinkedData.Query
