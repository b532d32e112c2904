import LinkedData.Dict

/-!
# LinkedData.Service.Statistics -- what a service has done

Counters only grow. Each event changes them in one step. A report shows the counters and how
much they have grown since the last report; a media type that was seen once is shown in all
later reports, also when its counter has not grown.
-/

namespace LinkedData.Service

/-- What happened to the requests of one kind. -/
structure Tally where
  answered : Nat := 0
  failed : Nat := 0
  /-- The items in all answers together. -/
  items : Nat := 0
deriving DecidableEq, Repr

/-- What a service has done since its start. -/
structure Statistics where
  quads : Tally := {}
  business : Tally := {}
  failedDereferences : Nat := 0
  /-- The sources that were opened, by media type. -/
  mediaTypes : Dict Nat := []
deriving DecidableEq, Repr

/-- Something that is counted. -/
inductive Event where
  /-- A request for quads was answered with so many. -/
  | quadsServed (quads : Nat)
  | quadsFailed
  /-- A request for businesses was answered with so many records. -/
  | recordsServed (records : Nat)
  | recordsFailed
  /-- A source of a media type was opened. -/
  | dereferenced (mediaType : String)
  | dereferenceFailed
deriving DecidableEq, Repr

namespace Tally

/-- Counts a request that was answered. -/
def serve (items : Nat) (t : Tally) : Tally :=
  { t with answered := t.answered + 1, items := t.items + items }

/-- Counts a request that failed. -/
def fail (t : Tally) : Tally :=
  { t with failed := t.failed + 1 }

/-- All requests. -/
def total (t : Tally) : Nat :=
  t.answered + t.failed

/-- How much a tally has grown. -/
def since (t previous : Tally) : Tally :=
  { answered := t.answered - previous.answered
    failed := t.failed - previous.failed
    items := t.items - previous.items }

/-- A tally in words; the items have a name of their own. -/
def text (items : String) (t : Tally) : String :=
  "total(" ++ toString t.total ++ ") success(" ++ toString t.answered ++ ") error(" ++
    toString t.failed ++ ") " ++ items ++ "(" ++ toString t.items ++ ")"

end Tally

namespace Statistics

/-- The number of sources of a media type that were opened. -/
def opened (s : Statistics) (mediaType : String) : Nat :=
  (s.mediaTypes.find? mediaType).getD 0

/-- Counts an event. -/
def record (s : Statistics) : Event → Statistics
  | .quadsServed n => { s with quads := s.quads.serve n }
  | .quadsFailed => { s with quads := s.quads.fail }
  | .recordsServed n => { s with business := s.business.serve n }
  | .recordsFailed => { s with business := s.business.fail }
  | .dereferenced t => { s with mediaTypes := s.mediaTypes.insert t (s.opened t + 1) }
  | .dereferenceFailed => { s with failedDereferences := s.failedDereferences + 1 }

/-- How much the counters have grown. -/
def since (s previous : Statistics) : Statistics :=
  { quads := s.quads.since previous.quads
    business := s.business.since previous.business
    failedDereferences := s.failedDereferences - previous.failedDereferences
    mediaTypes := s.mediaTypes.map fun (t, n) => (t, n - previous.opened t) }

/-- The counters in words, a line for each kind. -/
def text (s : Statistics) : String :=
  "\n    Quads: " ++ s.quads.text "served" ++
    "\n    Business: " ++ s.business.text "records" ++
    "\n    Dereference: error(" ++ toString s.failedDereferences ++
    ") media types (TYPE: COUNT): " ++
    ", ".intercalate (s.mediaTypes.map fun (t, n) => "(" ++ t ++ ": " ++ toString n ++ ")") ++
    "\n            "

end Statistics

/-- Counters, and what they were at the last report. -/
structure Log where
  current : Statistics := {}
  reported : Statistics := {}
deriving Repr

namespace Log

/-- Counts an event. -/
def record (l : Log) (e : Event) : Log :=
  { l with current := l.current.record e }

/-- How much the counters have grown since the last report. -/
def growth (l : Log) : Statistics :=
  l.current.since l.reported

/-- The lines of a report. -/
def lines (l : Log) : List String :=
  ["Statistics: " ++ l.current.text, "Delta: " ++ l.growth.text]

/-- The log after a report. -/
def report (l : Log) : Log :=
  { l with reported := l.current }

end Log

end LinkedData.Service
