import LinkedData.Dict
import LinkedData.Rdf.Term

/-!
# LinkedData.Query.Basic -- graph patterns and the queries made of them

A query selects variables from the solutions of a list of triple patterns, over the default
graph, one named graph, or all graphs. `projection` are the variables that a solution is cut
down to.
-/

namespace LinkedData.Query

open LinkedData.Rdf

/-- The graphs that a query looks at. -/
inductive Scope where
  | defaultGraph
  | named (iri : Iri)
  /-- The default graph and every named graph. -/
  | everywhere
deriving DecidableEq, Repr, Inhabited

/-- Whether a scope takes in the quads of a graph. -/
def Scope.contains : Scope → Option Node → Bool
  | .everywhere, _ => true
  | .defaultGraph, none => true
  | .named iri, some (.iri i) => i == iri
  | _, _ => false

/-- A position of a pattern: a variable, or a fixed term. Blank nodes match by label. -/
inductive Slot where
  | variable (name : String)
  | term (term : Term)
deriving DecidableEq, Repr

/-- The variable that stands in a position. -/
def Slot.name? : Slot → Option String
  | .variable name => some name
  | .term _ => none

/-- Three positions that a statement must fill. -/
structure Pattern where
  subject : Slot
  predicate : Slot
  object : Slot
deriving DecidableEq, Repr

/-- The positions of a pattern in order. -/
def Pattern.slots (p : Pattern) : List Slot :=
  [p.subject, p.predicate, p.object]

/-- The variables of a pattern in order. -/
def Pattern.variableNames (p : Pattern) : List String :=
  p.slots.filterMap Slot.name?

/-- A query. An empty list of selected variables selects all of them. -/
structure Select where
  selected : List String := []
  distinct : Bool := false
  patterns : List Pattern := []
  scope : Scope := .defaultGraph
deriving DecidableEq, Repr, Inhabited

/-- The values of the variables of one solution. -/
abbrev Binding := Dict Term

namespace Select

/-- All variables in order of first appearance. -/
def allVariables (q : Select) : List String :=
  (q.patterns.flatMap Pattern.variableNames).eraseDups

/-- The variables that solutions are cut down to. -/
def projection (q : Select) : List String :=
  if q.selected.isEmpty then q.allVariables else q.selected

/-- Asks for the objects of a subject and predicate. -/
def objectsOf (subject : Term) (predicate : Iri) (scope : Scope) : Select :=
  { selected := ["object"]
    patterns := [⟨.term subject, .term (.iri predicate), .variable "object"⟩]
    scope }

/-- Asks for the nodes that are stated to have a type, each once. -/
def subjectsOfType (type : Iri) : Select :=
  { selected := ["entity"]
    distinct := true
    patterns := [⟨.variable "entity", .term (.iri rdfType), .term (.iri type)⟩] }

end Select

end LinkedData.Query
