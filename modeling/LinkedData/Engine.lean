import LinkedData.Failure
import LinkedData.Query.Parser
import LinkedData.Query.Solve

/-!
# LinkedData.Engine -- anything that answers queries

An engine answers one query after another, on top of anything that answering takes: nothing
at all, a state in which a cache fills and sources come and go, or a step by step exchange
with the outside. A computation that asks queries may fail; a failure keeps whatever the
layers below it have done.
-/

namespace LinkedData

open LinkedData.Query LinkedData.Rdf

/-- A computation that may fail, on top of `m`. -/
abbrev Ask (m : Type → Type) := ExceptT Failure m

/-- A way to answer queries on top of `m`. -/
structure Engine (m : Type → Type) where
  answer : Select → Ask m (List Binding)

namespace Engine

variable {m : Type → Type} [Monad m]

/-- Answers every query from one graph, and needs nothing for it. -/
def ofGraph (g : Graph) : Engine m where
  answer q := pure (solve g q)

/-- The same engine, keeping a record of the queries that it was asked, in order. -/
def recorded (e : Engine m) : Engine (StateT (List Select) m) where
  answer q := ExceptT.mk fun asked => do
    return (← (e.answer q).run, asked ++ [q])

/-- Answers a query given as text; text that is no query is a failure, and the engine is not
asked. -/
def answerText (e : Engine m) (text : String) : Ask m (List Binding) :=
  match Query.parse text with
  | .ok q => e.answer q
  | .error fault => throw (.query fault.text)

end Engine

end LinkedData
