import LinkedData.Source.Basic

/-!
# LinkedData.Source.Engine -- queries over one source

An engine over a source fetches its graph to answer a query. It either fetches the graph
again for every query, or keeps the first graph that was fetched completely and answers all
later queries from that one. Nothing of a source that failed is kept.
-/

namespace LinkedData.Source

open LinkedData.Rdf

variable {m : Type → Type} [Monad m]

/-- Fetches the graph of a source without looking at the graph that is kept. -/
def refetch (d : Dereferencer m) (url : String) : Ask (StateT (Option Graph) m) Graph :=
  ExceptT.mk (StateT.lift (fetchGraph d url).run)

/-- The graph of a source: the kept one if there is one, and else fetched and kept. -/
def recallGraph (d : Dereferencer m) (url : String) : Ask (StateT (Option Graph) m) Graph := do
  match ← get with
  | some g => return g
  | none =>
    let g ← refetch d url
    set (some g)
    return g

/-- Answers queries from one source; `keep` says whether its graph is kept. -/
def engine (d : Dereferencer m) (url : String) (keep : Bool) :
    Engine (StateT (Option Graph) m) where
  answer q := do
    let g ← if keep then recallGraph d url else refetch d url
    return Query.solve g q

end LinkedData.Source
