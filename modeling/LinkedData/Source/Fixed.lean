import LinkedData.Dict
import LinkedData.Source.Basic

/-!
# LinkedData.Source.Fixed -- sources known beforehand

Fixed sources stand in for the outside. What a URL answers may change from call to call: the
first call is answered from the first phase, the next from the second, and all calls after
the last phase from the last one. Every call is counted, also one that fails.
-/

namespace LinkedData.Source

open LinkedData.Rdf

/-- What a URL answers. -/
inductive Fixed where
  | failure (message : String)
  /-- A document, read anew by every call. -/
  | document (format : Document.Format) (body : String)
  /-- Quads, after which the source may break. -/
  | quads (graph : Graph) (thenFail : Option String := none)
deriving Repr

/-- Opens a fixed source. -/
def Fixed.opened (url : String) : Fixed → Except Failure Opened
  | .failure message => .error (.dereference url message)
  | .document format body => ofDocument url format body
  | .quads graph thenFail =>
    .ok { url, format := .nquads
          quads := graph.map .ok ++
            (thenFail.map fun message => .error (.dereference url message)).toList }

/-- The outside: what each phase answers, and how many calls there were. -/
structure World where
  phases : List (Dict Fixed)
  calls : Nat := 0
deriving Repr

/-- The sources that answer the next call. -/
def World.current (w : World) : Dict Fixed :=
  (w.phases[min w.calls (w.phases.length - 1)]?).getD []

/-- Opens a source of the current phase; a URL that is unknown fails. -/
def World.opened (w : World) (url : String) : Except Failure Opened :=
  match w.current.find? url with
  | some source => source.opened url
  | none => .error (.dereference url "no such source")

/-- Opens fixed sources and counts the calls. -/
def Dereferencer.fixed : Dereferencer (StateM World) where
  dereference url := ExceptT.mk fun w => (w.opened url, { w with calls := w.calls + 1 })

end LinkedData.Source
