import LinkedData.Engine
import LinkedData.Text.Split
import LinkedData.Vocabulary

/-!
# LinkedData.Path -- chains of properties, followed from a term

A path is followed step by step. The terms reached so far are a frontier; each step asks one
query for every term of the frontier that is no literal and joins the answers in order. All
names of a path are resolved before anything is asked.
-/

namespace LinkedData

open LinkedData.Query LinkedData.Rdf LinkedData.Text

/-- Property names followed from left to right in the graphs of a scope. -/
structure Path where
  segments : List String
  scope : Scope := .defaultGraph
deriving DecidableEq, Repr

namespace Path

/-- The path of names separated by dots; empty names are dropped. -/
def ofDotted (text : String) (scope : Scope := .defaultGraph) : Path :=
  { segments := ((splitAt '.' text.toList).filter fun part => !part.isEmpty).map String.ofList
    scope }

/-- The names of a path with dots between them. -/
def text (p : Path) : String :=
  ".".intercalate p.segments

variable {m : Type → Type} [Monad m]

/-- The objects of a term and a predicate. -/
def objects (e : Engine m) (scope : Scope) (predicate : Iri) (t : Term) : Ask m (List Term) := do
  let bindings ← e.answer (.objectsOf t predicate scope)
  return bindings.filterMap fun b => b.find? "object"

/-- Follows one predicate from every term of a frontier. Nothing follows from a literal. -/
def step (e : Engine m) (scope : Scope) (predicate : Iri) (frontier : List Term) :
    Ask m (List Term) := do
  let found ← (frontier.filter fun t => !t.isLiteral).mapM (objects e scope predicate)
  return found.flatten

/-- Follows predicates from a frontier until none is left or nothing is reached. -/
def walk (e : Engine m) (scope : Scope) : List Iri → List Term → Ask m (List Term)
  | [], frontier => pure frontier
  | p :: ps, frontier => do
    let next ← step e scope p frontier
    if next.isEmpty then return [] else walk e scope ps next

/-- The predicates of a path; an empty path has none. -/
def predicates (v : Vocabulary) (p : Path) : Except Failure (List Iri) :=
  if p.segments.isEmpty then .error (.unknownProperty "empty path")
  else v.resolveAll p.segments

/-- Every term that a path reaches from a start, in order. -/
def evaluate (e : Engine m) (v : Vocabulary) (start : Term) (p : Path) : Ask m (List Term) :=
  match p.predicates v with
  | .error failure => throw failure
  | .ok predicates => walk e p.scope predicates [start]

/-- The first term that a path reaches. -/
def evaluateOne (e : Engine m) (v : Vocabulary) (start : Term) (p : Path) :
    Ask m (Option Term) := do
  return (← evaluate e v start p).head?

end Path

end LinkedData
