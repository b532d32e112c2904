import LinkedData.Document.Format
import LinkedData.NQuads.Document
import LinkedData.Page.Document

/-!
# LinkedData.Document.Reading -- documents turned into quads

JSON-LD documents and pages are read as a whole before their first quad is handed out, so a
fault in them leaves no quads. N-Quads are read on demand: a fault may follow any number of
quads, and nothing follows it.
-/

namespace LinkedData.Document

open LinkedData.Rdf

/-- A document in the middle of handing out its quads. -/
inductive Reading where
  /-- Statements that are still to be read. -/
  | lines (rest : NQuads.Lines)
  /-- Quads that were read beforehand. -/
  | quads (rest : Graph)
deriving Repr

/-- A fault in a line as an error of the document. -/
def ofLineFault (fault : NQuads.LineFault) : Error :=
  { stage := .statements, detail := fault.message }

namespace Reading

/-- Hands out the next quad or fault; `none` at the end and after a fault. -/
def next : Reading → Option (Except Error Quad × Reading)
  | .lines d =>
    match d.next with
    | none => none
    | some (item, rest) => some (item.mapError ofLineFault, .lines rest)
  | .quads [] => none
  | .quads (q :: rest) => some (.ok q, .quads rest)

/-- Everything that a document hands out, and the document when nothing is left. -/
def drain : Reading → Arrivals Error Quad × Reading
  | .lines d => (d.drain.1.map (Except.mapError ofLineFault), .lines d.drain.2)
  | .quads g => (g.map .ok, .quads [])

/-- Everything that a document hands out. -/
def toList (d : Reading) : Arrivals Error Quad :=
  d.drain.1

end Reading

/-- Begins to read a document that was retrieved from `base`. -/
def Format.read (f : Format) (body : String) (base : Option String) : Except Error Reading :=
  match f with
  | .nquads => .ok (.lines (.ofText body))
  | .jsonLd =>
    match Json.parse? body with
    | none => .error { stage := .expansion, detail := "invalid JSON" }
    | some document => (JsonLd.quadsOf base [document]).map .quads
  | .html => (Page.quadsOf body base).map .quads

end LinkedData.Document
