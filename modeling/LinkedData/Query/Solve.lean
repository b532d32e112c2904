import LinkedData.Query.Basic

/-!
# LinkedData.Query.Solve -- the solutions of a query over a graph

Patterns are joined from left to right: every binding found so far is extended by every quad
in scope that fits the next pattern, in arrival order. Solutions are then cut down to the
projection, and with `distinct` only the first of equal ones is kept.
-/

namespace LinkedData.Query

open LinkedData.Rdf

/-- Extends a binding so that a position holds a value, if it can. -/
def Slot.extend (s : Slot) (value : Term) (b : Binding) : Option Binding :=
  match s with
  | .term t => if t = value then some b else none
  | .variable name =>
    match b.find? name with
    | some bound => if bound = value then some b else none
    | none => some (b.insert name value)

/-- Extends a binding so that a pattern matches a quad, if it can. -/
def Pattern.extend (p : Pattern) (q : Quad) (b : Binding) : Option Binding :=
  (p.subject.extend q.subject b).bind fun b =>
  (p.predicate.extend (.iri q.predicate) b).bind fun b =>
  p.object.extend q.object b

/-- The quads of a graph that are in scope. -/
def inScope (scope : Scope) (g : Graph) : Graph :=
  g.filter fun q => scope.contains q.graph

/-- Extends every binding by every quad that fits a pattern. -/
def joinStep (g : Graph) (bindings : List Binding) (p : Pattern) : List Binding :=
  bindings.flatMap fun b => g.filterMap fun q => p.extend q b

/-- The bindings under which all patterns match. -/
def join (g : Graph) (patterns : List Pattern) : List Binding :=
  patterns.foldl (joinStep g) [[]]

/-- Cuts a binding down to the variables of some names. -/
def project (names : List String) (b : Binding) : Binding :=
  b.filter fun entry => names.contains entry.1

/-- The solutions of a query over a graph, in order. -/
def solve (g : Graph) (q : Select) : List Binding :=
  let solutions := (join (inScope q.scope g) q.patterns).map (project q.projection)
  if q.distinct then solutions.eraseDups else solutions

end LinkedData.Query
