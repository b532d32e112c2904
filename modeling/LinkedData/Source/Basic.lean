import LinkedData.Document.Reading
import LinkedData.Engine

/-!
# LinkedData.Source.Basic -- sources behind URLs

Dereferencing a URL opens a source: it either fails at once or hands out quads one by one,
and may still fail in the middle. A graph is fetched when all its quads have arrived.
-/

namespace LinkedData.Source

open LinkedData.Rdf

/-- A source that was opened. -/
structure Opened where
  /-- Where the document was found. -/
  url : String
  format : Document.Format
  quads : Arrivals Failure Quad
deriving Repr

/-- A way to open sources on top of `m`. -/
structure Dereferencer (m : Type → Type) where
  dereference : String → Ask m Opened

/-- A document as a source; the errors of its reading are failures to dereference its URL. -/
def ofDocument (url : String) (f : Document.Format) (body : String) : Except Failure Opened :=
  let failure (e : Document.Error) : Failure := .dereference url e.message
  match f.read body (some url) with
  | .ok reading =>
    .ok { url, format := f, quads := reading.toList.map (Except.mapError failure) }
  | .error e => .error (failure e)

variable {m : Type → Type} [Monad m]

/-- All quads of a source. -/
def fetchGraph (d : Dereferencer m) (url : String) : Ask m Graph := do
  let source ← d.dereference url
  match source.quads.collect with
  | .ok g => return g
  | .error failure => throw failure

end LinkedData.Source
